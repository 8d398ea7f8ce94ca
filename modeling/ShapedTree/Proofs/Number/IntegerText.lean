import Mathlib.Data.List.TakeDrop
import Mathlib.Data.List.TakeWhile
import ShapedTree.Number.Decimal
import ShapedTree.Number.Numeral

namespace ShapedTree

namespace Numeral

theorem valueInBase_ten {ds : List Char} (h : ∀ c ∈ ds, c.isDigit = true) :
    valueInBase 10 ds = Nat.ofDigitChars 10 ds 0 := by
  suffices ∀ acc, ds.foldl (fun n c => 10 * n + digitValue c) acc =
      ds.foldl (fun n c => 10 * n + (c.toNat - '0'.toNat)) acc by
    rw [Nat.ofDigitChars_eq_foldl]
    exact this 0
  induction ds with
  | nil => intro acc; rfl
  | cons d ds ih =>
    intro acc
    have hd : digitValue d = d.toNat - '0'.toNat := by simp [digitValue, h d (by simp)]
    rw [List.foldl_cons, List.foldl_cons, hd]
    exact ih (fun c hc => h c (by simp [hc])) _

theorem isDigit_digits {n : Nat} {c : Char} (h : c ∈ Decimal.digits n) : c.isDigit = true :=
  Nat.isDigit_of_mem_toDigits (by decide) (by decide) h

theorem digits_ne_nil (n : Nat) : Decimal.digits n ≠ [] := Nat.toDigits_ne_nil

/-- The digits of a positive number do not start with zero. -/
theorem head_digits_ne_zero {n : Nat} (positive : 0 < n) {c : Char} {cs : List Char}
    (h : Decimal.digits n = c :: cs) : c ≠ '0' := by
  induction n using Nat.strongRecOn generalizing cs with
  | ind n ih =>
    by_cases small : n < 10
    · rw [Decimal.digits, Nat.toDigits_of_lt_base small] at h
      have digit := (List.cons.inj h).1
      rw [← digit, ne_eq, Nat.digitChar_eq_zero]
      omega
    · rw [Decimal.digits, Nat.toDigits_of_base_le (by decide) (by omega)] at h
      cases front : Decimal.digits (n / 10) with
      | nil => exact absurd front (digits_ne_nil _)
      | cons d ds =>
        have joined : (d :: ds) ++ [Nat.digitChar (n % 10)] = c :: cs := front ▸ h
        obtain rfl := (List.cons.inj joined).1
        exact ih (n / 10) (by omega) (by omega) front

theorem valueInBase_digits (n : Nat) : valueInBase 10 (Decimal.digits n) = n := by
  rw [valueInBase_ten fun c => isDigit_digits]
  exact Nat.ofDigitChars_ten_toDigits

theorem not_isBlank_of_isDigit {c : Char} (h : c.isDigit = true) : Text.isBlank c = false := by
  have bounds : 48 ≤ c.toNat ∧ c.toNat ≤ 57 := Char.isDigit_iff_toNat.mp h
  simp only [Text.isBlank, Text.blankCode, Bool.or_eq_false_iff, Bool.and_eq_false_iff,
    decide_eq_false_iff_not, beq_eq_false_iff_ne]
  omega

theorem trimBlanks_eq_self {cs : List Char} (h : ∀ c ∈ cs, Text.isBlank c = false) :
    Text.trimBlanks cs = cs := by
  have front : ∀ ds : List Char, (∀ c ∈ ds, Text.isBlank c = false) →
      ds.dropWhile Text.isBlank = ds := by
    intro ds hds
    cases ds with
    | nil => rfl
    | cons d ds => simp [hds d (by simp)]
  unfold Text.trimBlanks
  rw [front cs h, front cs.reverse (by simpa using h), List.reverse_reverse]

theorem toList_integerText (n : Int) :
    (Decimal.integerText n).toList = (if n < 0 then ['-'] else []) ++ Decimal.digits n.natAbs := by
  unfold Decimal.integerText
  split <;> simp

theorem trimBlanks_integerText (n : Int) :
    Text.trimBlanks (Decimal.integerText n).toList = (Decimal.integerText n).toList := by
  refine trimBlanks_eq_self fun c hc => ?_
  rw [toList_integerText] at hc
  rcases List.mem_append.mp hc with hc | hc
  · split at hc
    next => cases List.mem_singleton.mp hc; decide
    next => simp at hc
  · exact not_isBlank_of_isDigit (isDigit_digits hc)

theorem takeSign_digits (n : Nat) : takeSign (Decimal.digits n) = (false, Decimal.digits n) := by
  cases h : Decimal.digits n with
  | nil => exact absurd h (digits_ne_nil n)
  | cons c cs =>
    have hc : c.isDigit = true := isDigit_digits (n := n) (by simp [h])
    unfold takeSign
    split
    next heq => cases heq; cases hc
    next heq => cases heq; cases hc
    next => rfl

theorem takeSign_integerText (n : Int) :
    takeSign (Decimal.integerText n).toList = (decide (n < 0), Decimal.digits n.natAbs) := by
  rw [toList_integerText]
  by_cases h : n < 0
  · simp [h, takeSign]
  · simp [h, takeSign_digits]

theorem signed_natAbs (n : Int) : (if n < 0 then -(n.natAbs : Int) else n.natAbs) = n := by
  split <;> omega

theorem integer?_integerText (n : Int) : integer? (Decimal.integerText n) = some n := by
  unfold integer? integerOf?
  rw [trimBlanks_integerText, takeSign_integerText]
  have digits : (Decimal.digits n.natAbs).all Char.isDigit = true :=
    List.all_eq_true.mpr fun c => isDigit_digits
  simp only [digits_ne_nil, digits, valueInBase_digits, ne_eq, not_false_eq_true, and_self,
    if_true, decide_eq_true_eq, signed_natAbs]

theorem decimalValue_natural {n : Nat} (small : n ≤ Number.exactLimit) :
    decimalValue n 0 = .finite n := by
  unfold decimalValue
  split
  next zero => subst zero; rfl
  next positive =>
    have log : Nat.log2 n ≤ 53 := by
      have below : n < 2 ^ 54 := lt_of_le_of_lt small (by decide)
      have := (Nat.log2_lt (k := 54) positive).mpr below
      omega
    rw [if_neg (by omega), if_neg (by omega), if_pos (by omega)]
    have whole : n * Nat.pow 10 (0 : Int).toNat = n := Nat.mul_one n
    rw [whole]
    unfold Number.ofRat
    rw [if_pos (by simpa using small)]

theorem decimal?_of_digits {ds : List Char} (nonempty : ds ≠ [])
    (digits : ∀ c ∈ ds, c.isDigit = true) :
    decimal? ds = some (decimalValue (valueInBase 10 ds) 0) := by
  have whole : ds.span Char.isDigit = (ds, []) := by
    rw [List.span_eq_takeWhile_dropWhile]
    rw [List.takeWhile_eq_self_iff.mpr digits]
    rw [List.dropWhile_eq_nil_iff.mpr digits]
  unfold decimal?
  rw [whole]
  simp [nonempty, exponent?]

theorem decimal?_digits {n : Nat} (small : n ≤ Number.exactLimit) :
    decimal? (Decimal.digits n) = some (.finite n) := by
  rw [decimal?_of_digits (digits_ne_nil n) fun c => isDigit_digits, valueInBase_digits,
    decimalValue_natural small]

/-- Characters that start with no letter of another base are read in decimal. -/
theorem trimmed?_of_digits {cs : List Char} (some : cs ≠ [])
    (digit : ∀ c ∈ cs, c = '-' ∨ c = '+' ∨ c.isDigit = true) :
    trimmed? cs = (if (takeSign cs).2 = "Infinity".toList then Option.some (.infinity false)
      else decimal? (takeSign cs).2).map fun n => if (takeSign cs).1 then n.neg else n := by
  have no : ∀ {c : Char} {ds : List Char}, (c = '-' ∨ c = '+' ∨ c.isDigit = true) = False →
      cs ≠ '0' :: c :: ds := by
    rintro c ds hc rfl
    exact hc.mp (digit c (by simp))
  unfold trimmed?
  split
  next => exact absurd rfl some
  next => exact absurd rfl (no (by decide))
  next => exact absurd rfl (no (by decide))
  next => exact absurd rfl (no (by decide))
  next => exact absurd rfl (no (by decide))
  next => exact absurd rfl (no (by decide))
  next => exact absurd rfl (no (by decide))
  next => rfl

/-- An integer text is no numeral in another base. -/
theorem trimmed?_integerText (n : Int) :
    trimmed? (Decimal.integerText n).toList =
      (decimal? (Decimal.digits n.natAbs)).map fun m => if n < 0 then m.neg else m := by
  have digit : ∀ c ∈ (Decimal.integerText n).toList, c = '-' ∨ c = '+' ∨ c.isDigit = true := by
    intro c hc
    rw [toList_integerText] at hc
    rcases List.mem_append.mp hc with hc | hc
    · split at hc
      next => exact Or.inl (List.mem_singleton.mp hc)
      next => simp at hc
    · exact Or.inr (Or.inr (isDigit_digits hc))
  have noInfinity : Decimal.digits n.natAbs ≠ "Infinity".toList := by
    intro h
    have letter : ('I').isDigit = true := isDigit_digits (n := n.natAbs) (by rw [h]; simp)
    simp [Char.isDigit] at letter
  have some : (Decimal.integerText n).toList ≠ [] := by
    rw [toList_integerText]
    simp [digits_ne_nil]
  rw [trimmed?_of_digits some digit, takeSign_integerText]
  simp only [if_neg noInfinity, decide_eq_true_eq]

theorem number?_integerText {n : Int} (small : n.natAbs ≤ Number.exactLimit) :
    number? (Decimal.integerText n) = some (.ofInt n) := by
  unfold number?
  rw [trimBlanks_integerText, trimmed?_integerText, decimal?_digits small]
  have value : ((n.natAbs : Nat) : Rat) = ((n.natAbs : Int) : Rat) := rfl
  by_cases h : n < 0
  · have back : -((n.natAbs : Int) : Rat) = (n : Rat) := by
      rw [← Rat.intCast_neg]
      congr 1
      omega
    simp only [h, if_true, Option.map_some, Number.neg, Number.ofInt, value, back]
  · have back : (n.natAbs : Int) = n := by omega
    simp only [h, if_false, Option.map_some, Number.ofInt, value, back]

end Numeral

end ShapedTree
