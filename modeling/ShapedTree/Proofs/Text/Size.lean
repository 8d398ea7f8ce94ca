import Mathlib.Algebra.BigOperators.Group.List.Basic
import Mathlib.Data.List.Flatten
import Mathlib.Data.List.Basic
import ShapedTree.Text.Quoted

namespace ShapedTree

namespace Text

/-- The number of units of a row of characters. -/
def width (cs : List Char) : Nat := (cs.flatMap unitsOfChar).length

@[simp] theorem width_nil : width [] = 0 := rfl

theorem width_cons (c : Char) (cs : List Char) :
    width (c :: cs) = (unitsOfChar c).length + width cs := by
  simp [width]

@[simp] theorem width_append (as bs : List Char) : width (as ++ bs) = width as + width bs := by
  simp [width]

theorem size_eq_width (s : String) : size s = width s.toList := by
  have row : ∀ (cs : List Char) (n : Nat),
      cs.foldl (fun n c => n + (unitsOfChar c).length) n = n + width cs := by
    intro cs
    induction cs with
    | nil => intro n; rfl
    | cons c cs ih => intro n; rw [List.foldl_cons, ih, width_cons, Nat.add_assoc]
  rw [size, row, Nat.zero_add]

@[simp] theorem size_ofList (cs : List Char) : size (String.ofList cs) = width cs := by
  rw [size_eq_width, String.toList_ofList]

@[simp] theorem size_append (s t : String) : size (s ++ t) = size s + size t := by
  simp only [size_eq_width, String.toList_append, width_append]

theorem one_le_unitsOfChar (c : Char) : 1 ≤ (unitsOfChar c).length := by
  unfold unitsOfChar
  split <;> simp

theorem unitsOfChar_le_two (c : Char) : (unitsOfChar c).length ≤ 2 := by
  unfold unitsOfChar
  split <;> simp

theorem width_eq_length {cs : List Char} (plane : ∀ c ∈ cs, c.toNat < 0x10000) :
    width cs = cs.length := by
  induction cs with
  | nil => rfl
  | cons c cs ih =>
    have single : (unitsOfChar c).length = 1 := by simp [unitsOfChar, plane c (by simp)]
    rw [width_cons, single, ih fun d hd => plane d (by simp [hd]), List.length_cons, Nat.add_comm]

/-- Joined parts are as long as the parts and a separator behind each. -/
theorem size_intercalate_le (separator : String) {parts : List String} {bound : Nat}
    (each : ∀ part ∈ parts, size part ≤ bound) :
    size (separator.intercalate parts) ≤ parts.length * (bound + size separator) := by
  induction parts with
  | nil => simp [size_eq_width]
  | cons part rest ih =>
    have first := each part (by simp)
    cases rest with
    | nil =>
      rw [String.intercalate_singleton]
      simp only [List.length_cons, List.length_nil]
      omega
    | cons next rest =>
      have others := ih fun p hp => each p (List.mem_cons_of_mem _ hp)
      rw [String.intercalate_cons_cons, size_append, size_append]
      simp only [List.length_cons, Nat.add_mul] at others ⊢
      omega

theorem hexDigit_plane : ∀ n < 16, (hexDigit n).toNat < 0x10000 := by decide

theorem width_hexEscape (u : Nat) : width (hexEscape u) = 6 := by
  refine width_eq_length fun c hc => ?_
  have digit : ∀ k, (hexDigit (k % 16)).toNat < 0x10000 := fun k =>
    hexDigit_plane _ (Nat.mod_lt _ (by decide))
  simp only [hexEscape, List.mem_cons, List.not_mem_nil, or_false] at hc
  rcases hc with rfl | rfl | rfl | rfl | rfl | rfl
  · decide
  · decide
  all_goals exact digit _

theorem width_quoteChar_cases (c : Char) : quoteChar c = [c] ∨ width (quoteChar c) ≤ 6 := by
  unfold quoteChar
  split_ifs
  all_goals first
    | exact Or.inl rfl
    | exact Or.inr (Nat.le_of_eq (width_hexEscape _))
    | exact Or.inr (by decide)

theorem width_quoteChar_le (c : Char) : width (quoteChar c) ≤ 6 := by
  rcases width_quoteChar_cases c with same | short
  · have := unitsOfChar_le_two c
    rw [same, width_cons, width_nil]
    omega
  · exact short

theorem width_quoted_le (cs : List Char) : width (cs.flatMap quoteChar) ≤ 6 * width cs := by
  induction cs with
  | nil => exact Nat.le_refl 0
  | cons c cs ih =>
    have := width_quoteChar_le c
    have := one_le_unitsOfChar c
    rw [List.flatMap_cons, width_append, width_cons]
    omega

theorem size_quote_le (s : String) : size (quote s) ≤ 6 * size s + 2 := by
  have := width_quoted_le s.toList
  have mark : (unitsOfChar '"').length = 1 := by decide
  rw [quote, size_ofList, List.cons_append, width_cons, width_append, width_cons, width_nil, mark,
    size_eq_width]
  omega

theorem width_quoteUnits_le (us : List Nat) : width (quoteUnits us) ≤ 6 * us.length := by
  fun_induction quoteUnits us with
  | case1 => exact Nat.le_refl 0
  | case2 u _ => exact Nat.le_of_eq (width_hexEscape u)
  | case3 u _ => exact width_quoteChar_le _
  | case4 u v rest _ ih =>
    have := unitsOfChar_le_two (Char.ofNat (pairCode u v))
    rw [width_cons]
    simp only [List.length_cons]
    omega
  | case5 u v rest _ _ ih =>
    rw [width_append, width_hexEscape]
    simp only [List.length_cons] at ih ⊢
    omega
  | case6 u v rest _ _ ih =>
    have := width_quoteChar_le (Char.ofNat u)
    rw [width_append]
    simp only [List.length_cons] at ih ⊢
    omega

theorem size_quoteShortened_le (s : String) (n : Nat) (tail : String) :
    size (quoteShortened s n tail) ≤ 6 * (n + size tail) + 2 := by
  have := width_quoteUnits_le ((units s).take n)
  have := width_quoted_le tail.toList
  have := List.length_take_le n (units s)
  have mark : (unitsOfChar '"').length = 1 := by decide
  rw [quoteShortened, size_ofList, List.cons_append, List.cons_append, width_cons, width_append,
    width_append, width_cons, width_nil, mark, size_eq_width]
  omega

end Text

end ShapedTree
