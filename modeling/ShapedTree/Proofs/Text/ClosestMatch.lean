import Mathlib.Data.List.Induction
import Mathlib.Order.Compare
import ShapedTree.Proofs.Text.UnitOrder
import ShapedTree.Suggestion

namespace ShapedTree

section FirstLeast

variable {α : Type} {cmp : α → α → Ordering} {c d : α} {l l' : List α}

/-- A member of a list is below all others before it and above none behind it. -/
def FirstLeast (cmp : α → α → Ordering) (c : α) (l : List α) : Prop :=
  ∃ before behind, l = before ++ c :: behind ∧ (∀ b ∈ before, cmp c b = .lt) ∧
    ∀ b ∈ behind, (cmp c b).isLE

namespace FirstLeast

theorem mem (h : FirstLeast cmp c l) : c ∈ l := by
  obtain ⟨before, behind, rfl, -, -⟩ := h
  simp

theorem singleton (c : α) : FirstLeast cmp c [c] := ⟨[], [], rfl, nofun, nofun⟩

variable [Std.TransCmp cmp]

theorem least (h : FirstLeast cmp c l) : ∀ b ∈ l, (cmp c b).isLE := by
  obtain ⟨before, behind, rfl, below, above⟩ := h
  intro b hb
  rcases List.mem_append.mp hb with hb | hb
  · rw [below b hb]
    rfl
  · rcases List.mem_cons.mp hb with rfl | hb
    · exact Std.ReflCmp.isLE_rfl
    · exact above b hb

/-- Another one at the end is passed over unless it is below. -/
theorem concat_of_not_lt (h : FirstLeast cmp c l) (above : cmp d c ≠ .lt) :
    FirstLeast cmp c (l ++ [d]) := by
  obtain ⟨before, behind, rfl, below, rest⟩ := h
  refine ⟨before, behind ++ [d], by simp, below, ?_⟩
  intro b hb
  rcases List.mem_append.mp hb with hb | hb
  · exact rest b hb
  · have last : b = d := List.mem_singleton.mp hb
    have order : cmp c d ≠ .gt := fun greater => above (Std.OrientedCmp.gt_iff_lt.mp greater)
    rw [last]
    exact Ordering.isLE_iff_ne_gt.mpr order

theorem concat_of_lt (h : FirstLeast cmp c l) (below : cmp d c = .lt) :
    FirstLeast cmp d (l ++ [d]) := by
  refine ⟨l, [], rfl, ?_, nofun⟩
  intro b hb
  exact Std.TransCmp.lt_of_lt_of_isLE below (h.least b hb)

theorem unique (h : FirstLeast cmp c l) (h' : FirstLeast cmp d l) : c = d := by
  -- neither stands before the other one
  have apart : ∀ {c d : α}, FirstLeast cmp c l → d ∈ l → ¬ cmp d c = .lt := by
    intro c d h hd below
    exact Std.OrientedCmp.not_isLE_of_lt below (h.least d hd)
  have hc := h.mem
  have hd := h'.mem
  have cd := apart h hd
  have dc := apart h' hc
  obtain ⟨before, behind, split, below, -⟩ := h
  obtain ⟨before', behind', split', below', -⟩ := h'
  rcases List.append_eq_append_iff.mp (split.symm.trans split') with
    ⟨between, join, rest⟩ | ⟨between, join, rest⟩
  · cases between with
    | nil => exact (List.cons.inj rest).1
    | cons x between =>
      have first : c = x := (List.cons.inj rest).1
      exact absurd (below' c (by simp [join, first])) cd
  · cases between with
    | nil => exact (List.cons.inj rest).1.symm
    | cons x between =>
      have first : d = x := (List.cons.inj rest).1
      exact absurd (below d (by simp [join, first])) dc

/-- Listed in another order, the first of the least ones is one that is not told apart from it. -/
theorem eq_of_perm (h : FirstLeast cmp c l) (h' : FirstLeast cmp d l') (perm : l.Perm l') :
    cmp c d = .eq := by
  have low := h.least d (perm.mem_iff.mpr h'.mem)
  have high := h'.least c (perm.mem_iff.mp h.mem)
  exact Std.OrientedCmp.isLE_antisymm low high

end FirstLeast

end FirstLeast

namespace Collation

instance : Std.TransCmp Key.compare :=
  inferInstanceAs (Std.TransCmp (compareLex (Ordering.byKey Key.letters Text.compareUnits)
    (compareLex (Ordering.byKey Key.accents Text.compareUnits)
      (Ordering.byKey Key.variants Text.compareUnits))))

/-- The alphabetical order is a total preorder. -/
instance : Std.TransCmp Collation.compare :=
  inferInstanceAs (Std.TransCmp (Ordering.byKey key Key.compare))

end Collation

namespace Suggestion

variable {value a b c : String} {candidates : List String}

/-- The order of candidates: by distance, and alphabetically at the same distance. -/
def rank (value a b : String) : Ordering :=
  (compare (distance value a) (distance value b)).then (Collation.compare a b)

instance : Std.TransCmp (rank value) :=
  inferInstanceAs (Std.TransCmp (compareLex (compareOn (distance value)) Collation.compare))

theorem distance_le_of_rank (h : (rank value a b).isLE) : distance value a ≤ distance value b := by
  by_contra farther
  have order : compare (distance value a) (distance value b) = .gt :=
    Nat.compare_eq_gt.mpr (Nat.lt_of_not_le farther)
  rw [rank, order] at h
  cases h

theorem distance_eq_of_rank (h : rank value a b = .eq) : distance value a = distance value b :=
  Nat.compare_eq_eq.mp (Ordering.then_eq_eq.mp h).1

theorem alike_of_rank (h : rank value a b = .eq) : Collation.compare a b = .eq :=
  (Ordering.then_eq_eq.mp h).2

theorem better_iff :
    better (a, distance value a) (b, distance value b) = true ↔ rank value a b = .lt := by
  rw [rank, Ordering.then_eq_lt, Nat.compare_eq_lt, Nat.compare_eq_eq]
  simp [better]

/-- What the scan holds behind some candidates. -/
inductive Scanned (value : String) : List String → Option (String × Nat) → Prop
  | nothing : Scanned value [] none
  | best {c : String} {l : List String} (h : FirstLeast (rank value) c l) :
      Scanned value l (some (c, distance value c))

theorem Scanned.further {best : Option (String × Nat)} (h : Scanned value candidates best)
    (c : String) : Scanned value (candidates ++ [c]) (further value best c) := by
  cases h with
  | nothing => exact .best (.singleton c)
  | @best b _ first =>
    by_cases closer : better (c, distance value c) (b, distance value b) = true
    · simp only [Suggestion.further, if_pos closer]
      exact .best (first.concat_of_lt (better_iff.mp closer))
    · simp only [Suggestion.further, if_neg closer]
      exact .best (first.concat_of_not_lt fun below => closer (better_iff.mpr below))

theorem scanned_best? (value : String) (candidates : List String) :
    Scanned value candidates (best? value candidates) := by
  induction candidates using List.reverseRecOn with
  | nil => exact .nothing
  | append_singleton l c ih =>
    rw [best?, List.foldl_append]
    exact ih.further c

end Suggestion

open Suggestion

variable {value found : String} {candidates others : List String}

theorem closestMatch_eq_some_iff : closestMatch value candidates = some found ↔
    distance value found ≤ limit value ∧ FirstLeast (rank value) found candidates := by
  have scanned := scanned_best? value candidates
  rw [closestMatch]
  generalize best? value candidates = best at scanned
  cases scanned with
  | nothing => exact ⟨nofun, fun ⟨_, first⟩ => absurd first.mem (by simp)⟩
  | @best c _ first =>
    simp only [Option.ite_none_right_eq_some, Option.some.injEq]
    constructor
    · rintro ⟨close, rfl⟩
      exact ⟨close, first⟩
    · rintro ⟨close, other⟩
      have same : c = found := first.unique other
      exact ⟨same ▸ close, same⟩

theorem closestMatch_eq_none_iff : closestMatch value candidates = none ↔
    ∀ c ∈ candidates, limit value < distance value c := by
  have scanned := scanned_best? value candidates
  rw [closestMatch]
  generalize best? value candidates = best at scanned
  cases scanned with
  | nothing => simp
  | @best c _ first =>
    simp only [ite_eq_right_iff, reduceCtorEq, imp_false, Nat.not_le]
    constructor
    · intro far b hb
      have nearest := distance_le_of_rank (first.least b hb)
      omega
    · intro far
      exact far c first.mem

theorem mem_of_closestMatch (h : closestMatch value candidates = some found) :
    found ∈ candidates := (closestMatch_eq_some_iff.mp h).2.mem

theorem closestMatch_perm (perm : candidates.Perm others) :
    Option.Rel (fun a b => rank value a b = .eq) (closestMatch value candidates)
      (closestMatch value others) := by
  cases match? : closestMatch value candidates with
  | none =>
    have far := closestMatch_eq_none_iff.mp match?
    have none : closestMatch value others = none :=
      closestMatch_eq_none_iff.mpr fun c hc => far c (perm.mem_iff.mpr hc)
    rw [none]
    exact .none
  | some a =>
    obtain ⟨close, first⟩ := closestMatch_eq_some_iff.mp match?
    cases match?' : closestMatch value others with
    | none =>
      have far := closestMatch_eq_none_iff.mp match?' a (perm.mem_iff.mp first.mem)
      omega
    | some b =>
      obtain ⟨-, first'⟩ := closestMatch_eq_some_iff.mp match?'
      exact .some (first.eq_of_perm first' perm)

/-- Nothing is suggested if every candidate is beyond the limit; otherwise the first of the least
candidates is, by distance and in alphabetical order. Listed in another order, the same is suggested
or another one that is as far and stands at the same place of the alphabetical order, which is a
total preorder. -/
theorem closestMatch_first_least : Std.TransCmp Collation.compare ∧
    ∀ value candidates,
      (closestMatch value candidates = none ↔ ∀ c ∈ candidates, limit value < distance value c) ∧
      (∀ c, closestMatch value candidates = some c ↔
        distance value c ≤ limit value ∧ FirstLeast (rank value) c candidates) ∧
      ∀ others, candidates.Perm others →
        Option.Rel (fun a b => distance value a = distance value b ∧ Collation.compare a b = .eq)
          (closestMatch value candidates) (closestMatch value others) := by
  refine ⟨inferInstance, fun value candidates => ?_⟩
  refine ⟨closestMatch_eq_none_iff, fun c => closestMatch_eq_some_iff, fun others perm => ?_⟩
  have listed : Option.Rel (fun a b => rank value a b = .eq) (closestMatch value candidates)
      (closestMatch value others) := closestMatch_perm perm
  generalize closestMatch value candidates = found, closestMatch value others = found' at listed
  cases listed with
  | none => exact .none
  | some alike => exact .some ⟨distance_eq_of_rank alike, alike_of_rank alike⟩

/-- The name of a misspelt field is found, whichever of the fields is listed first. -/
theorem tilte_close_to_tile :
    ["title", "tile"].Perm ["tile", "title"] ∧
      closestMatch "tilte" ["title", "tile"] = some "tile" ∧
      Option.Rel (fun a b => distance "tilte" a = distance "tilte" b ∧ Collation.compare a b = .eq)
        (some "tile") (closestMatch "tilte" ["tile", "title"]) := by
  have perm : ["title", "tile"].Perm ["tile", "title"] := .swap _ _ _
  have match? : closestMatch "tilte" ["title", "tile"] = some "tile" := by decide +kernel
  obtain ⟨-, -, listed⟩ := closestMatch_first_least.2 "tilte" ["title", "tile"]
  have found := listed ["tile", "title"] perm
  rw [match?] at found
  exact ⟨perm, match?, found⟩

end ShapedTree
