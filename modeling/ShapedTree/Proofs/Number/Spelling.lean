import Mathlib.Data.List.Induction
import Mathlib.Data.Nat.Digits.Defs
import ShapedTree.Proofs.Number.IntegerText

namespace ShapedTree

namespace Text

theorem dropWhile_isBlank_append {blanks cs : List Char} (blank : ∀ c ∈ blanks, isBlank c = true)
    (first : ∀ c rest, cs = c :: rest → isBlank c = false) :
    (blanks ++ cs).dropWhile isBlank = cs := by
  induction blanks with
  | nil =>
    cases cs with
    | nil => rfl
    | cons c rest => simp [first c rest rfl]
  | cons b blanks ih =>
    obtain ⟨hb, blank⟩ := List.forall_mem_cons.mp blank
    simp [hb, ih blank]

/-- What neither starts nor ends with a blank comes out of the blanks around it. -/
theorem trimBlanks_append {before cs behind : List Char} (hb : ∀ c ∈ before, isBlank c = true)
    (ha : ∀ c ∈ behind, isBlank c = true) (nonempty : cs ≠ [])
    (bare : ∀ c, cs.head? = some c ∨ cs.getLast? = some c → isBlank c = false) :
    trimBlanks (before ++ (cs ++ behind)) = cs := by
  have front : (before ++ (cs ++ behind)).dropWhile isBlank = cs ++ behind := by
    refine dropWhile_isBlank_append hb fun c rest heq => bare c (.inl ?_)
    obtain ⟨d, others, rfl⟩ := List.exists_cons_of_ne_nil nonempty
    cases heq
    rfl
  have back : (behind.reverse ++ cs.reverse).dropWhile isBlank = cs.reverse := by
    refine dropWhile_isBlank_append (by simpa using ha) fun c rest heq => bare c (.inr ?_)
    rw [List.getLast?_eq_head?_reverse, heq]
    rfl
  rw [trimBlanks, front, List.reverse_append, back, List.reverse_reverse]

/-- Only blanks are trimmed. -/
theorem exists_trimBlanks (cs : List Char) : ∃ before behind,
    (∀ c ∈ before, isBlank c = true) ∧ (∀ c ∈ behind, isBlank c = true) ∧
      cs = before ++ (trimBlanks cs ++ behind) := by
  have rest := List.takeWhile_append_dropWhile (p := isBlank)
    (l := (cs.dropWhile isBlank).reverse)
  refine ⟨cs.takeWhile isBlank, ((cs.dropWhile isBlank).reverse.takeWhile isBlank).reverse,
    fun c hc => List.mem_takeWhile_imp hc, fun c hc => List.mem_takeWhile_imp (List.mem_reverse.mp hc),
    ?_⟩
  rw [trimBlanks, ← List.reverse_append, rest, List.reverse_reverse, List.takeWhile_append_dropWhile]

end Text

namespace Numeral

/-- A minus sign makes a natural number negative. -/
def signed (sign : List Char) (n : Nat) : Int := if sign = ['-'] then -n else n

/-- The characters are blanks, a sign or none, one or more digits, and blanks, and the digits with
the sign make the integer. -/
def Spells (cs : List Char) (n : Int) : Prop :=
  ∃ before sign ds behind,
    (∀ c ∈ before, Text.isBlank c = true) ∧ (∀ c ∈ behind, Text.isBlank c = true) ∧
      (sign = [] ∨ sign = ['+'] ∨ sign = ['-']) ∧ ds ≠ [] ∧ (∀ c ∈ ds, c.isDigit = true) ∧
      n = signed sign (Nat.ofDigitChars 10 ds 0) ∧ cs = before ++ (sign ++ ds ++ behind)

theorem takeSign_append {sign ds : List Char} (hs : sign = [] ∨ sign = ['+'] ∨ sign = ['-'])
    (nonempty : ds ≠ []) (digits : ∀ c ∈ ds, c.isDigit = true) :
    takeSign (sign ++ ds) = (decide (sign = ['-']), ds) := by
  rcases hs with rfl | rfl | rfl
  · obtain ⟨d, rest, rfl⟩ := List.exists_cons_of_ne_nil nonempty
    have hd := digits d (by simp)
    rw [List.nil_append]
    unfold takeSign
    split
    next heq => cases heq; cases hd
    next heq => cases heq; cases hd
    next => rfl
  · rfl
  · rfl

/-- What is left of a sign is the sign and what stands behind it. -/
theorem exists_takeSign (cs : List Char) : ∃ sign, (sign = [] ∨ sign = ['+'] ∨ sign = ['-']) ∧
    cs = sign ++ (takeSign cs).2 ∧ (takeSign cs).1 = decide (sign = ['-']) := by
  unfold takeSign
  split
  next => exact ⟨['-'], by simp, rfl, rfl⟩
  next => exact ⟨['+'], by simp, rfl, rfl⟩
  next => exact ⟨[], by simp, rfl, rfl⟩

theorem bare_of_digits {sign ds : List Char} (hs : sign = [] ∨ sign = ['+'] ∨ sign = ['-'])
    (digits : ∀ c ∈ ds, c.isDigit = true) : ∀ c ∈ sign ++ ds, Text.isBlank c = false := by
  intro c hc
  rcases List.mem_append.mp hc with hc | hc
  · rcases hs with rfl | rfl | rfl
    · cases hc
    · cases List.mem_singleton.mp hc; decide
    · cases List.mem_singleton.mp hc; decide
  · exact not_isBlank_of_isDigit (digits c hc)

theorem trimBlanks_spelling {before sign ds behind : List Char}
    (hb : ∀ c ∈ before, Text.isBlank c = true) (ha : ∀ c ∈ behind, Text.isBlank c = true)
    (hs : sign = [] ∨ sign = ['+'] ∨ sign = ['-']) (nonempty : ds ≠ [])
    (digits : ∀ c ∈ ds, c.isDigit = true) :
    Text.trimBlanks (before ++ (sign ++ ds ++ behind)) = sign ++ ds := by
  refine Text.trimBlanks_append hb ha (by simp [nonempty]) fun c hc => ?_
  refine bare_of_digits hs digits c ?_
  rcases hc with first | last
  · exact List.mem_of_head? first
  · exact List.mem_of_getLast? last

theorem integerOf?_eq_some_iff {cs : List Char} {n : Int} :
    integerOf? cs = some n ↔ ∃ sign ds, (sign = [] ∨ sign = ['+'] ∨ sign = ['-']) ∧ ds ≠ [] ∧
      (∀ c ∈ ds, c.isDigit = true) ∧ n = signed sign (Nat.ofDigitChars 10 ds 0) ∧ cs = sign ++ ds := by
  constructor
  · intro h
    obtain ⟨sign, hs, split, negative⟩ := exists_takeSign cs
    unfold integerOf? at h
    rcases taken : takeSign cs with ⟨minus, ds⟩
    rw [taken] at h split negative
    obtain ⟨⟨nonempty, all⟩, value⟩ := Option.ite_none_right_eq_some.mp h
    have digits := List.all_eq_true.mp all
    refine ⟨sign, ds, hs, nonempty, digits, ?_, split⟩
    obtain rfl : minus = decide (sign = ['-']) := negative
    rw [valueInBase_ten digits] at value
    simpa [signed] using (Option.some.inj value).symm
  · rintro ⟨sign, ds, hs, nonempty, digits, rfl, rfl⟩
    have all : ds.all Char.isDigit = true := List.all_eq_true.mpr digits
    unfold integerOf?
    rw [takeSign_append hs nonempty digits]
    simp [nonempty, all, valueInBase_ten digits, signed]

/-- A text is read as the integer that it spells. -/
theorem integer?_eq_some_iff {s : String} {n : Int} :
    integer? s = some n ↔ Spells s.toList n := by
  rw [integer?, integerOf?_eq_some_iff]
  constructor
  · rintro ⟨sign, ds, hs, nonempty, digits, value, split⟩
    obtain ⟨before, behind, hb, ha, text⟩ := Text.exists_trimBlanks s.toList
    exact ⟨before, sign, ds, behind, hb, ha, hs, nonempty, digits, value, by rw [← split, ← text]⟩
  · rintro ⟨before, sign, ds, behind, hb, ha, hs, nonempty, digits, value, text⟩
    refine ⟨sign, ds, hs, nonempty, digits, value, ?_⟩
    rw [text, trimBlanks_spelling hb ha hs nonempty digits]

theorem Spells.unique {cs : List Char} {m n : Int} (hm : Spells cs m) (hn : Spells cs n) : m = n := by
  rw [← String.toList_ofList (l := cs), ← integer?_eq_some_iff] at hm hn
  exact Option.some.inj (hm.symm.trans hn)

theorem spells_integerText (n : Int) : Spells (Decimal.integerText n).toList n :=
  integer?_eq_some_iff.mp (integer?_integerText n)

theorem ofDigitChars_lt {ds : List Char} (digits : ∀ c ∈ ds, c.isDigit = true) :
    Nat.ofDigitChars 10 ds 0 < 10 ^ ds.length := by
  induction ds using List.reverseRecOn with
  | nil => simp [Nat.ofDigitChars_eq_foldl]
  | append_singleton ds d ih =>
    have rest := ih fun c hc => digits c (by simp [hc])
    have last : 48 ≤ d.toNat ∧ d.toNat ≤ 57 := Char.isDigit_iff_toNat.mp (digits d (by simp))
    have zero : '0'.toNat = 48 := rfl
    rw [Nat.ofDigitChars_append, Nat.ofDigitChars_cons, Nat.ofDigitChars_eq_foldl, List.foldl_nil,
      zero, List.length_append, List.length_singleton, pow_succ]
    omega

/-- No spelling of an integer is shorter than its text. -/
theorem length_integerText_le {cs : List Char} {n : Int} (h : Spells cs n) :
    (Decimal.integerText n).toList.length ≤ cs.length := by
  obtain ⟨before, sign, ds, behind, -, -, hs, nonempty, digits, rfl, rfl⟩ := h
  have size : (signed sign (Nat.ofDigitChars 10 ds 0)).natAbs = Nat.ofDigitChars 10 ds 0 := by
    unfold signed
    split <;> omega
  have fits : (Decimal.digits (Nat.ofDigitChars 10 ds 0)).length ≤ ds.length :=
    Nat.toDigits_length 10 _ _ (List.length_pos_iff.mpr nonempty) (ofDigitChars_lt digits)
  rw [toList_integerText, size]
  split
  next negative =>
    have minus : sign = ['-'] := by
      by_contra other
      rw [signed, if_neg other] at negative
      omega
    rw [minus]
    simp only [List.length_append, List.length_singleton]
    omega
  next =>
    simp only [List.length_append, List.length_nil]
    omega

end Numeral

end ShapedTree
