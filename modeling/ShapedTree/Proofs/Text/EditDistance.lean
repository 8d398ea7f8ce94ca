import Mathlib.Logic.Embedding.Basic
import Mathlib.Order.Bounds.Basic
import Mathlib.Order.MinMax
import ShapedTree.Proofs.Text.UnitOrder
import ShapedTree.Text.EditDistance

namespace ShapedTree

namespace EditDistance

/-- A single unit is inserted, deleted or replaced by another one. -/
inductive Edit {α : Type} : List α → List α → Prop
  | insertion (xs ys : List α) (a : α) : Edit (xs ++ ys) (xs ++ a :: ys)
  | deletion (xs ys : List α) (a : α) : Edit (xs ++ a :: ys) (xs ++ ys)
  | substitution (xs ys : List α) {a b : α} (other : a ≠ b) :
      Edit (xs ++ a :: ys) (xs ++ b :: ys)

/-- So many edits, one after another, turn the first row into the second one. -/
inductive Edits {α : Type} : Nat → List α → List α → Prop
  | refl (l : List α) : Edits 0 l l
  | step {n : Nat} {l m r : List α} (first : Edit l m) (rest : Edits n m r) : Edits (n + 1) l r

section Edits

variable {α β : Type} {l m r : List α} {n k : Nat}

theorem Edit.symm (h : Edit l m) : Edit m l := by
  cases h with
  | insertion xs ys a => exact .deletion xs ys a
  | deletion xs ys a => exact .insertion xs ys a
  | substitution xs ys other => exact .substitution xs ys other.symm

theorem Edit.cons (a : α) (h : Edit l m) : Edit (a :: l) (a :: m) := by
  cases h with
  | insertion xs ys b => exact .insertion (a :: xs) ys b
  | deletion xs ys b => exact .deletion (a :: xs) ys b
  | substitution xs ys other => exact .substitution (a :: xs) ys other

theorem Edit.reverse (h : Edit l m) : Edit l.reverse m.reverse := by
  cases h with
  | insertion xs ys a => simpa using Edit.insertion ys.reverse xs.reverse a
  | deletion xs ys a => simpa using Edit.deletion ys.reverse xs.reverse a
  | substitution xs ys other => simpa using Edit.substitution ys.reverse xs.reverse other

/-- Units that differ still do in another spelling. -/
theorem Edit.map (unit : α ↪ β) (h : Edit l m) : Edit (l.map unit) (m.map unit) := by
  cases h with
  | insertion xs ys a => simpa using Edit.insertion (xs.map unit) (ys.map unit) (unit a)
  | deletion xs ys a => simpa using Edit.deletion (xs.map unit) (ys.map unit) (unit a)
  | substitution xs ys other =>
    have apart := unit.injective.ne other
    simpa using Edit.substitution (xs.map unit) (ys.map unit) apart

theorem Edits.trans (h : Edits n l m) (h' : Edits k m r) : Edits (n + k) l r := by
  induction h with
  | refl => rwa [Nat.zero_add]
  | @step n l m' m first _ ih =>
    have joined := Edits.step first (ih h')
    rwa [Nat.add_right_comm] at joined

theorem Edits.symm (h : Edits n l r) : Edits n r l := by
  induction h with
  | refl l => exact .refl l
  | step first _ ih => exact ih.trans (.step first.symm (.refl _))

theorem Edits.cons (a : α) (h : Edits n l r) : Edits n (a :: l) (a :: r) := by
  induction h with
  | refl l => exact .refl (a :: l)
  | step first _ ih => exact .step (first.cons a) ih

theorem Edits.reverse (h : Edits n l r) : Edits n l.reverse r.reverse := by
  induction h with
  | refl l => exact .refl l.reverse
  | step first _ ih => exact .step first.reverse ih

theorem Edits.map (unit : α ↪ β) (h : Edits n l r) : Edits n (l.map unit) (r.map unit) := by
  induction h with
  | refl l => exact .refl (l.map unit)
  | step first _ ih => exact .step (first.map unit) ih

theorem edits_reverse_iff : Edits n l.reverse r.reverse ↔ Edits n l r :=
  ⟨fun h => by simpa using h.reverse, Edits.reverse⟩

theorem Edits.eq_of_zero (h : Edits 0 l r) : l = r := by
  cases h
  rfl

theorem edits_nil (r : List α) : Edits r.length [] r := by
  induction r with
  | nil => exact .refl []
  | cons b r ih => exact ih.trans (.step (.insertion [] r b) (.refl _))

end Edits

variable {α : Type} {l m r : List Nat} {n : Nat}

/-- The distance by its recurrence: the first unit is inserted, deleted, or kept or replaced. -/
def recurrence : List Nat → List Nat → Nat
  | [], r => r.length
  | l, [] => l.length
  | a :: l, b :: r =>
    min (recurrence (a :: l) r + 1)
      (min (recurrence l (b :: r) + 1) (recurrence l r + if a = b then 0 else 1))
termination_by l r => l.length + r.length

@[simp]
theorem recurrence_nil_left (r : List Nat) : recurrence [] r = r.length := by
  unfold recurrence
  rfl

@[simp]
theorem recurrence_nil_right (l : List Nat) : recurrence l [] = l.length := by
  cases l <;> simp [recurrence]

theorem recurrence_cons_cons (a b : Nat) (l r : List Nat) :
    recurrence (a :: l) (b :: r) = min (recurrence (a :: l) r + 1)
      (min (recurrence l (b :: r) + 1) (recurrence l r + if a = b then 0 else 1)) := by
  rw [recurrence]

theorem recurrence_self (l : List Nat) : recurrence l l = 0 := by
  induction l with
  | nil => simp
  | cons a l ih => simp [recurrence_cons_cons, ih]

theorem recurrence_cons_le (a : Nat) (l r : List Nat) :
    recurrence (a :: l) r ≤ recurrence l r + 1 := by
  cases r with
  | nil => simp
  | cons b r =>
    rw [recurrence_cons_cons]
    omega

theorem recurrence_le_cons_right (b : Nat) (l r : List Nat) :
    recurrence l (b :: r) ≤ recurrence l r + 1 := by
  cases l with
  | nil => simp
  | cons a l =>
    rw [recurrence_cons_cons]
    omega

/-- A unit less on the left adds one at most. -/
theorem recurrence_le_cons (a : Nat) (l r : List Nat) :
    recurrence l r ≤ recurrence (a :: l) r + 1 := by
  induction r with
  | nil =>
    rw [recurrence_nil_right, recurrence_nil_right, List.length_cons]
    omega
  | cons b r ih =>
    have insert := recurrence_le_cons_right b l r
    rw [recurrence_cons_cons]
    omega

theorem recurrence_replaced (a b : Nat) (l r : List Nat) :
    recurrence (a :: l) r ≤ recurrence (b :: l) r + 1 := by
  induction r with
  | nil => simp
  | cons c r ih =>
    have cost : (if a = c then 0 else 1) ≤ 1 := by split <;> omega
    rw [recurrence_cons_cons, recurrence_cons_cons]
    omega

/-- Rows that are close stay close behind the same unit. -/
theorem recurrence_cons_congr {l m : List Nat}
    (close : ∀ r, recurrence l r ≤ recurrence m r + 1) (a : Nat) (r : List Nat) :
    recurrence (a :: l) r ≤ recurrence (a :: m) r + 1 := by
  induction r with
  | nil => simpa using close []
  | cons b r ih =>
    have whole := close (b :: r)
    have rest := close r
    rw [recurrence_cons_cons, recurrence_cons_cons]
    omega

theorem recurrence_edit (h : Edit l m) (r : List Nat) : recurrence l r ≤ recurrence m r + 1 := by
  have behind : ∀ {l m : List Nat}, (∀ r, recurrence l r ≤ recurrence m r + 1) →
      ∀ xs r, recurrence (xs ++ l) r ≤ recurrence (xs ++ m) r + 1 := by
    intro l m close xs
    induction xs with
    | nil => exact close
    | cons a xs ih => exact recurrence_cons_congr ih a
  cases h with
  | insertion xs ys a => exact behind (recurrence_le_cons a ys) xs r
  | deletion xs ys a => exact behind (recurrence_cons_le a ys) xs r
  | substitution xs ys => exact behind (recurrence_replaced _ _ ys) xs r

/-- No edits are fewer than the recurrence says. -/
theorem recurrence_le (h : Edits n l r) : recurrence l r ≤ n := by
  induction h with
  | refl l => rw [recurrence_self]
  | @step n l m r first _ ih =>
    have close := recurrence_edit first r
    omega

/-- As many edits as the recurrence says are enough, among the units that there are. -/
theorem edits_recurrence (unit : α ↪ Nat) (l r : List α) :
    Edits (recurrence (l.map unit) (r.map unit)) l r := by
  induction l generalizing r with
  | nil =>
    rw [List.map_nil, recurrence_nil_left, List.length_map]
    exact edits_nil r
  | cons a l ihl =>
    induction r with
    | nil =>
      rw [List.map_nil, recurrence_nil_right, List.length_map]
      exact (edits_nil (a :: l)).symm
    | cons b r ihr =>
      rw [List.map_cons] at ihr ⊢
      have shorter := ihl (b :: r)
      have rest := ihl r
      rw [List.map_cons] at shorter ⊢
      rw [recurrence_cons_cons]
      generalize recurrence (unit a :: l.map unit) (r.map unit) = i at ihr ⊢
      generalize recurrence (l.map unit) (unit b :: r.map unit) = d at shorter ⊢
      generalize recurrence (l.map unit) (r.map unit) = s at rest ⊢
      -- An insertion first, a deletion first, or neither: each is enough for its own count.
      have insert : Edits (i + 1) (a :: l) (b :: r) :=
        ihr.trans (.step (.insertion [] r b) (.refl _))
      have delete : Edits (d + 1) (a :: l) (b :: r) := .step (.deletion [] l a) shorter
      have replace : Edits (s + if unit a = unit b then 0 else 1) (a :: l) (b :: r) := by
        by_cases same : unit a = unit b
        · rw [if_pos same, unit.injective same]
          exact rest.cons b
        · have other : a ≠ b := fun equal => same (congrArg unit equal)
          rw [if_neg same]
          exact .step (.substitution [] l other) (rest.cons b)
      rcases min_choice (i + 1) (min (d + 1) (s + if unit a = unit b then 0 else 1)) with h | h
      · rwa [h]
      · rw [h]
        rcases min_choice (d + 1) (s + if unit a = unit b then 0 else 1) with h | h
        · rwa [h]
        · rwa [h]

/-- The cells behind the first one: the distances of a beginning of the left text, read backwards,
to the beginnings of the right text that go on behind `seen`. -/
def prefixCells (left : List Nat) : (seen right : List Nat) → List Nat
  | _, [] => []
  | seen, r :: right => recurrence left (r :: seen) :: prefixCells left (r :: seen) right

theorem cells_prefixCells (l : Nat) (left seen right : List Nat) :
    cells l (recurrence left seen) (recurrence (l :: left) seen) right
      (prefixCells left seen right) = prefixCells (l :: left) seen right := by
  induction right generalizing seen with
  | nil => rfl
  | cons r right ih =>
    have cell := recurrence_cons_cons l r left seen
    simp only [prefixCells, cells, ← cell]
    rw [ih (r :: seen)]

/-- The row of a beginning of the left text, read backwards. -/
def prefixRow (left right : List Nat) : List Nat :=
  recurrence left [] :: prefixCells left [] right

theorem nextRow_prefixRow (l : Nat) (left right : List Nat) :
    nextRow l right (prefixRow left right) = prefixRow (l :: left) right := by
  have first : recurrence left [] + 1 = recurrence (l :: left) [] := by simp
  rw [prefixRow, prefixRow, nextRow, first, cells_prefixCells]

theorem range_eq_prefixRow (right : List Nat) :
    List.range (right.length + 1) = prefixRow [] right := by
  have behind : ∀ seen : List Nat,
      List.range' (seen.length + 1) right.length = prefixCells [] seen right := by
    induction right with
    | nil => exact fun seen => rfl
    | cons r right ih =>
      intro seen
      rw [List.length_cons, List.range'_succ, prefixCells, ← ih (r :: seen)]
      simp
  rw [List.range_eq_range', List.range'_succ, prefixRow, ← behind []]
  simp

/-- After the units of a beginning, the loop holds the row of that beginning. -/
theorem foldl_nextRow (left right before : List Nat) :
    left.foldl (fun row l => nextRow l right row) (prefixRow before right) =
      prefixRow (left.reverse ++ before) right := by
  induction left generalizing before with
  | nil => rfl
  | cons l left ih =>
    rw [List.foldl_cons, nextRow_prefixRow, ih, List.reverse_cons, List.append_assoc,
      List.singleton_append]

theorem getLastD_prefixRow (left right : List Nat) :
    (prefixRow left right).getLastD 0 = recurrence left right.reverse := by
  have behind : ∀ seen : List Nat, (recurrence left seen :: prefixCells left seen right).getLastD 0 =
      recurrence left (right.reverse ++ seen) := by
    induction right with
    | nil => exact fun seen => rfl
    | cons r right ih =>
      intro seen
      rw [prefixCells, List.reverse_cons, List.append_assoc, List.singleton_append, ← ih (r :: seen)]
      simp
  have all := behind []
  rwa [List.append_nil] at all

/-- What the rows come to, by the recurrence on the ends of the texts. -/
theorem ofUnits_eq_recurrence (l r : List Nat) :
    ofUnits l r = recurrence l.reverse r.reverse := by
  simp only [ofUnits]
  rw [range_eq_prefixRow, foldl_nextRow, List.append_nil, getLastD_prefixRow]

theorem isLeast_ofUnits (unit : α ↪ Nat) (l r : List α) :
    IsLeast {n | Edits n l r} (ofUnits (l.map unit) (r.map unit)) := by
  rw [ofUnits_eq_recurrence, ← List.map_reverse, ← List.map_reverse]
  refine ⟨edits_reverse_iff.mp (edits_recurrence unit _ _), fun n edits => ?_⟩
  have turned : Edits n l.reverse r.reverse := Edits.reverse edits
  exact recurrence_le (turned.map unit)

theorem isLeast_edits (l r : List Nat) : IsLeast {n | Edits n l r} (ofUnits l r) := by
  have same : ∀ xs : List Nat, xs.map (Function.Embedding.refl Nat) = xs := List.map_id
  have least := isLeast_ofUnits (.refl Nat) l r
  rwa [same, same] at least

theorem edits_ofUnits (l r : List Nat) : Edits (ofUnits l r) l r := (isLeast_edits l r).1

theorem ofUnits_le (h : Edits n l r) : ofUnits l r ≤ n := (isLeast_edits l r).2 h

/-- The rows compute the least number of edits among whatever units the texts are written in; it is
a metric on rows of units. A text is determined by its units, so it is one on texts. -/
theorem ofUnits_metric :
    (∀ (α : Type) (unit : α ↪ Nat) (l r : List α),
      IsLeast {n | Edits n l r} (ofUnits (l.map unit) (r.map unit))) ∧
    (∀ l r, ofUnits l r = ofUnits r l) ∧
    (∀ l r, ofUnits l r = 0 ↔ l = r) ∧
    (∀ l m r, ofUnits l r ≤ ofUnits l m + ofUnits m r) ∧
    ∀ s t : String, editDistance s t = ofUnits (Text.units s) (Text.units t) ∧
      (editDistance s t = 0 ↔ s = t) := by
  have turned : ∀ l r, ofUnits l r ≤ ofUnits r l := fun l r => ofUnits_le (edits_ofUnits r l).symm
  have zero : ∀ l r, ofUnits l r = 0 ↔ l = r := by
    intro l r
    constructor
    · intro none
      have edits := edits_ofUnits l r
      rw [none] at edits
      exact edits.eq_of_zero
    · rintro rfl
      exact Nat.le_zero.mp (ofUnits_le (.refl l))
  refine ⟨fun _ => isLeast_ofUnits, fun l r => le_antisymm (turned l r) (turned r l), zero, ?_, ?_⟩
  · intro l m r
    exact ofUnits_le ((edits_ofUnits l m).trans (edits_ofUnits m r))
  · refine fun s t => ⟨rfl, (zero _ _).trans ⟨Text.units_injective, ?_⟩⟩
    rintro rfl
    rfl

example : editDistance "kitten" "sitting" = 3 := by decide

end EditDistance

end ShapedTree
