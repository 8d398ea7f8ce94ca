import Mathlib.Data.Rat.Cast.Order
import Mathlib.Data.Rat.Floor
import ShapedTree.Proofs.Number.Spelling

namespace ShapedTree

namespace Number

/-- An integer to which no other integer rounds. -/
def isSafe : Number → Bool
  | .finite q => q.den == 1 && decide (q.num.natAbs < exactLimit)
  | _ => false

theorem isSafe_ofInt (n : Int) : (ofInt n).isSafe = decide (n.natAbs < exactLimit) := by
  rw [ofInt, isSafe, Rat.den_intCast, Rat.num_intCast]
  rfl

theorem ofInt_add {m n : Int} (small : (m + n).natAbs ≤ exactLimit) :
    ofInt m + ofInt n = ofInt (m + n) := by
  show ofRat ((m : Rat) + (n : Rat)) = .finite ((m + n : Int) : Rat)
  rw [← Int.cast_add, ofRat, if_pos]
  rw [Rat.den_intCast, Rat.num_intCast]
  exact ⟨rfl, small⟩

theorem isSafe_neg (x : Number) : x.neg.isSafe = x.isSafe := by
  cases x <;> simp [neg, isSafe]

end Number

namespace Binary64

theorem ne_zero_of_large {n : Nat} (large : Number.exactLimit ≤ n) : n ≠ 0 := by
  rintro rfl
  exact absurd large (by decide)

theorem log2_of_large {n : Nat} (large : Number.exactLimit ≤ n) : 53 ≤ Nat.log2 n :=
  (Nat.le_log2 (ne_zero_of_large large)).mpr large

/-- The unit of the last place of a large integer leaves it 53 digits. -/
theorem unitExponent_of_large {n : Nat} (large : Number.exactLimit ≤ n) :
    unitExponent n 1 = ((Nat.log2 n - 52 : Nat) : Int) := by
  have size := log2_of_large large
  have log : Nat.log2 1 = 0 := by decide
  have guess : (Nat.log2 n : Int) - (Nat.log2 1 : Nat) - 53 = ((Nat.log2 n - 53 : Nat) : Int) := by
    rw [log]
    omega
  have power : Nat.pow 2 (Nat.log2 n - 53) * Number.exactLimit ≤ n := by
    have whole : Nat.pow 2 (Nat.log2 n - 53) * Number.exactLimit = 2 ^ Nat.log2 n := by
      rw [show Number.exactLimit = 2 ^ 53 from rfl, Nat.pow_eq, ← pow_add]
      congr 1
      omega
    rw [whole]
    exact Nat.log2_self_le (ne_zero_of_large large)
  unfold unitExponent
  simp only [guess, scaled, Int.natCast_nonneg, ↓reduceIte, Int.toNat_natCast, one_mul, power]
  omega

theorem le_nearestEven (n d : Nat) : n / d ≤ nearestEven n d := by
  unfold nearestEven
  simp only
  split
  next => exact le_rfl
  next =>
    split
    next => omega
    next => split <;> omega

/-- Large integers are rounded to large ones. -/
theorem le_roundMagnitude {n : Nat} (large : Number.exactLimit ≤ n) {q : Rat}
    (h : roundMagnitude n 1 = some q) : (Number.exactLimit : Rat) ≤ q := by
  have size := log2_of_large large
  have positive := ne_zero_of_large large
  have count : 2 ^ 52 ≤ nearestEven n (2 ^ (Nat.log2 n - 52)) := by
    refine le_trans ?_ (le_nearestEven _ _)
    rw [Nat.le_div_iff_mul_le (by positivity), ← pow_add]
    have whole : 52 + (Nat.log2 n - 52) = Nat.log2 n := by omega
    rw [whole]
    exact Nat.log2_self_le positive
  have unit : 2 ≤ 2 ^ (Nat.log2 n - 52) :=
    le_trans (by decide) (Nat.pow_le_pow_right (by decide) (by omega : 1 ≤ Nat.log2 n - 52))
  unfold roundMagnitude at h
  rw [if_neg positive, unitExponent_of_large large] at h
  obtain ⟨-, found⟩ := Option.ite_none_left_eq_some.mp h
  simp only [ofParts, Int.natCast_nonneg, ↓reduceIte, Int.toNat_natCast, one_mul, Nat.pow_eq]
    at found
  cases found
  have product : Number.exactLimit ≤
      nearestEven n (2 ^ (Nat.log2 n - 52)) * 2 ^ (Nat.log2 n - 52) :=
    le_trans (by decide) (Nat.mul_le_mul count unit)
  exact_mod_cast product

end Binary64

namespace Number

theorem not_isSafe_ofRat {n : Nat} (large : exactLimit ≤ n) : (ofRat (n : Rat)).isSafe = false := by
  unfold ofRat
  split
  next exact_ =>
    have same : n = exactLimit := le_antisymm (by simpa using exact_.2) large
    simp [isSafe, same]
  next =>
    have notNegative : ¬ (n : Rat) < 0 := not_lt.mpr (Nat.cast_nonneg n)
    cases rounded : Binary64.roundMagnitude (n : Rat).num.natAbs (n : Rat).den with
    | none => rfl
    | some q =>
      have le := Binary64.le_roundMagnitude large (by simpa using rounded)
      simp only [isSafe, notNegative, ↓reduceIte, Bool.and_eq_false_iff, beq_eq_false_iff_ne,
        decide_eq_false_iff_not, not_lt]
      by_cases whole : q.den = 1
      · right
        have value : q = (q.num : Rat) := ((Rat.den_eq_one_iff q).mp whole).symm
        rw [value] at le
        have : (exactLimit : Int) ≤ q.num := by exact_mod_cast le
        omega
      · exact .inl whole

end Number

namespace Numeral

/-- Digits are read as a safe integer if they spell one, and then as this one. -/
theorem isSafe_decimalValue (n : Nat) :
    (decimalValue n 0).isSafe = decide (n < Number.exactLimit) := by
  by_cases small : n < Number.exactLimit
  · rw [decimalValue_natural small.le]
    exact Number.isSafe_ofInt n
  · have large : Number.exactLimit ≤ n := not_lt.mp small
    have positive := Binary64.ne_zero_of_large large
    have whole : n * Nat.pow 10 (0 : Int).toNat = n := Nat.mul_one n
    unfold decimalValue
    simp only [small, decide_false]
    rw [if_neg positive]
    split
    next => rfl
    next =>
      rw [if_neg (by omega), if_pos le_rfl, whole]
      exact Number.not_isSafe_ofRat large

/-- A text that spells an integer is a numeral. Its number is safe if the integer is, and then it is
this integer: rounding brings no other integer there. -/
theorem number?_of_spells {s : String} {n : Int} (h : Spells s.toList n) :
    ∃ x, number? s = some x ∧ x.isSafe = decide (n.natAbs < Number.exactLimit) ∧
      (n.natAbs < Number.exactLimit → x = .ofInt n) := by
  obtain ⟨before, sign, ds, behind, hb, ha, hs, nonempty, digits, rfl, text⟩ := h
  have chars : ∀ c ∈ sign ++ ds, c = '-' ∨ c = '+' ∨ c.isDigit = true := by
    intro c hc
    rcases List.mem_append.mp hc with hc | hc
    · rcases hs with rfl | rfl | rfl
      · cases hc
      · exact .inr (.inl (List.mem_singleton.mp hc))
      · exact .inl (List.mem_singleton.mp hc)
    · exact .inr (.inr (digits c hc))
  have noInfinity : ds ≠ "Infinity".toList := by
    rintro rfl
    exact absurd (digits 'I' (by simp)) (by decide)
  -- Without blanks and sign, the digits are read as a decimal without fraction or exponent.
  have read : number? s = some (if sign = ['-'] then
      (decimalValue (Nat.ofDigitChars 10 ds 0) 0).neg
      else decimalValue (Nat.ofDigitChars 10 ds 0) 0) := by
    rw [number?, text, trimBlanks_spelling hb ha hs nonempty digits,
      trimmed?_of_digits (by simp [nonempty]) chars, takeSign_append hs nonempty digits]
    simp only [if_neg noInfinity, decimal?_of_digits nonempty digits, valueInBase_ten digits,
      Option.map_some, decide_eq_true_eq]
  refine ⟨_, read, ?_, fun small => ?_⟩
  · unfold signed
    split
    next => rw [Number.isSafe_neg, isSafe_decimalValue, Int.natAbs_neg, Int.natAbs_natCast]
    next => rw [isSafe_decimalValue, Int.natAbs_natCast]
  · unfold signed at small ⊢
    split
    next minus =>
      rw [if_pos minus, Int.natAbs_neg, Int.natAbs_natCast] at small
      rw [decimalValue_natural small.le]
      simp [Number.neg, Number.ofInt]
    next plus =>
      rw [if_neg plus, Int.natAbs_natCast] at small
      rw [decimalValue_natural small.le]
      rfl

end Numeral

end ShapedTree
