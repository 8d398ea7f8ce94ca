import Mathlib
import ShapedTree.Proofs.Kind.Stored
import ShapedTree.Proofs.Number.SafeInteger
import ShapedTree.Proofs.Pattern.Printing
import ShapedTree.Proofs.Run.Ensures
import ShapedTree.Validation.Value

namespace ShapedTree

namespace Numeral

open Pattern Text

/-- Integers as the text of a pattern. -/
def integerSource : String := "^\\s*[+-]?\\d+\\s*$"

def blanksTerm : Term := .repeated (.oneOf false [.blank false]) 0 none true 1 0

def signTerm : Term :=
  .repeated (.oneOf false [.range 43 43, .range 45 45]) 0 (some 1) true 1 0

def digitsTerm : Term := .repeated (.oneOf false [.digit false]) 1 none true 1 0

/-- The pattern of integers, as it is read from its text. -/
def integerPattern (cell : Nat) : Pattern :=
  { source := integerSource, flags := {}, groups := 0, cell
    term := .row (.lineStart :: ([blanksTerm, signTerm, digitsTerm, blanksTerm] ++ [.lineEnd])) }

theorem ofSource?_integerSource (cell : Nat) :
    Pattern.ofSource? integerSource "" cell = some (integerPattern cell) := by
  have letters : Flags.ofLetters? "" = some {} := rfl
  have term : termOf? false integerSource =
      some (.row (.lineStart :: ([blanksTerm, signTerm, digitsTerm, blanksTerm] ++ [.lineEnd])),
        0) := by
    cbv
  simp [Pattern.ofSource?, letters, term, integerPattern]

theorem prints_blanksTerm : Prints blanksTerm.words fun cs => ∀ c ∈ cs, isBlank c = true := by
  have blank : Prints (Term.oneOf false [.blank false]).words
      fun cs => ∃ c, isBlank c = true ∧ cs = [c] := by
    refine prints_oneOf ?_ fun c => ?_
    · simp [Subject.belongs, blankCode]
      omega
    · simp [Subject.belongs, isBlank]
  exact (blank.rows 0).of_iff fun cs => by simp

theorem prints_signTerm : Prints signTerm.words fun cs => cs = [] ∨ cs = ['+'] ∨ cs = ['-'] := by
  have sign : Prints (Term.oneOf false [.range 43 43, .range 45 45]).words
      fun cs => ∃ c, (c = '+' ∨ c = '-') ∧ cs = [c] := by
    refine prints_oneOf ?_ fun c => ?_
    · simp [Subject.belongs]
      omega
    · have plus : c = '+' ↔ c.toNat = 43 := Char.toNat_inj.symm
      have minus : c = '-' ↔ c.toNat = 45 := Char.toNat_inj.symm
      simp only [List.any_cons, List.any_nil, Subject.belongs, Bool.or_false, Bool.or_eq_true,
        Bool.and_eq_true, decide_eq_true_eq, plus, minus]
      omega
  refine sign.optional.of_iff fun cs => ?_
  constructor
  · rintro (rfl | ⟨c, rfl | rfl, rfl⟩) <;> simp
  · rintro (rfl | rfl | rfl) <;> simp

theorem prints_integer : Prints (Term.row [blanksTerm, signTerm, digitsTerm, blanksTerm]).words
    fun cs => ∃ n, Spells cs n := by
  have digits : Prints digitsTerm.words fun cs => cs ≠ [] ∧ ∀ c ∈ cs, c.isDigit = true :=
    (prints_digit.rows 1).of_iff fun cs => by
      rw [Nat.one_le_iff_ne_zero, ne_eq, List.length_eq_zero_iff]
  rw [Term.words_row]
  simp only [List.map_cons, List.map_nil, List.prod_cons, List.prod_nil, mul_one]
  refine (prints_blanksTerm.mul (prints_signTerm.mul (digits.mul prints_blanksTerm))).of_iff
    fun cs => ?_
  constructor
  · rintro ⟨before, _, hb, ⟨sign, _, hs, ⟨ds, behind, ⟨nonempty, digits⟩, ha, rfl⟩, rfl⟩, rfl⟩
    exact ⟨_, before, sign, ds, behind, hb, ha, hs, nonempty, digits, rfl, by simp⟩
  · rintro ⟨n, before, sign, ds, behind, hb, ha, hs, nonempty, digits, -, rfl⟩
    exact ⟨before, _, hb, ⟨sign, _, hs, ⟨ds, behind, ⟨nonempty, digits⟩, ha, rfl⟩, rfl⟩, by simp⟩

theorem code_of_isBlank {c : Char} (h : isBlank c = true) : c.toNat < 0x10000 := by
  simp only [isBlank, blankCode, Bool.or_eq_true, Bool.and_eq_true, decide_eq_true_eq,
    beq_iff_eq] at h
  omega

/-- Spellings are of the basic plane. -/
theorem Spells.plane {cs : List Char} {n : Int} (h : Spells cs n) : ∀ c ∈ cs, c.toNat < 0x10000 := by
  obtain ⟨before, sign, ds, behind, hb, ha, hs, -, digits, -, rfl⟩ := h
  intro c hc
  rcases List.mem_append.mp hc with hc | hc
  · exact code_of_isBlank (hb c hc)
  rcases List.mem_append.mp hc with hc | hc
  · rcases List.mem_append.mp hc with hc | hc
    · rcases hs with rfl | rfl | rfl
      · cases hc
      · cases List.mem_singleton.mp hc; decide
      · cases List.mem_singleton.mp hc; decide
    · have : 48 ≤ c.toNat ∧ c.toNat ≤ 57 := Char.isDigit_iff_toNat.mp (digits c hc)
      omega
  · exact code_of_isBlank (ha c hc)

/-- The pattern of integers accepts the texts that spell one. -/
theorem integerPattern_test (cell last : Nat) (s : String) :
    ((integerPattern cell).test last s).1 = true ↔ ∃ n, Spells s.toList n := by
  have plain : (Term.row [blanksTerm, signTerm, digitsTerm, blanksTerm]).Plain := by
    simp [Term.row, Term.Plain, blanksTerm, signTerm, digitsTerm]
  rw [(test_anchored (p := integerPattern cell) rfl plain rfl last s).1,
    units_mem_iff prints_integer fun cs h => h.choose_spec.plane]

/-- A spelling without anything that could be left out: no blanks, a minus sign only in front of a
negative integer, and no zero in front but the digit zero itself. -/
def Bare (cs : List Char) (n : Int) : Prop :=
  ∃ ds, ds ≠ [] ∧ (∀ c ∈ ds, c.isDigit = true) ∧ (∀ rest, ds = '0' :: rest → rest = []) ∧
    cs = (if n < 0 then ['-'] else []) ++ ds

theorem bare_integerText (n : Int) : Bare (Decimal.integerText n).toList n := by
  refine ⟨Decimal.digits n.natAbs, digits_ne_nil _, fun c hc => isDigit_digits hc, ?_,
    toList_integerText n⟩
  intro rest zero
  by_cases small : n.natAbs = 0
  · rw [small] at zero
    cases zero
    rfl
  · exact absurd rfl (head_digits_ne_zero (Nat.pos_of_ne_zero small) zero)

theorem integerText_injective {m n : Int} (h : Decimal.integerText m = Decimal.integerText n) :
    m = n := by
  have read := integer?_integerText m
  rw [h, integer?_integerText] at read
  exact (Option.some.inj read).symm

end Numeral

namespace Kind

variable {c : Constraints}

/-- What a check of texts does that gives every integer one spelling. -/
structure Normalizes (c : Constraints) (check : String → KindResult) : Prop where
  /-- The spellings of safe integers inside the limits are accepted, and no other text. -/
  accepts_iff (s : String) (v : Value) : check s = .ok v ↔
    ∃ n, Numeral.Spells s.toList n ∧ n.natAbs ≤ 2 ^ 53 - 1 ∧ InRange c (.ofInt n) ∧
      v = .text (Decimal.integerText n)
  /-- They are the texts that the pattern of integers accepts and whose number is safe. -/
  reads_iff (s : String) (v : Value) : check s = .ok v ↔
    (∃ p, Pattern.ofSource? Numeral.integerSource "" 0 = some p ∧ (p.test 0 s).1 = true) ∧
      ∃ n, Numeral.number? s = some (.ofInt n) ∧ (Number.ofInt n).isSafe = true ∧
        InRange c (.ofInt n) ∧ v = .text (Decimal.integerText n)
  /-- The result is the shortest spelling of the integer, with nothing that could be left out. -/
  shortest {s : String} {v : Value} {n : Int} (accepted : check s = .ok v)
    (spelled : Numeral.Spells s.toList n) : ∃ t : String, v = .text t ∧ Numeral.Bare t.toList n ∧
      Numeral.Spells t.toList n ∧ (n = 0 → t = "0") ∧
        ∀ cs, Numeral.Spells cs n → t.toList.length ≤ cs.length
  /-- Two accepted texts give one result if they spell one integer. -/
  same_iff {s t : String} {v w : Value} {m n : Int} (hs : check s = .ok v) (ht : check t = .ok w)
    (hm : Numeral.Spells s.toList m) (hn : Numeral.Spells t.toList n) : v = w ↔ m = n
  /-- A result is accepted again and stays as it is. -/
  again {s : String} {v : Value} (accepted : check s = .ok v) : ∃ t, v = .text t ∧ check t = .ok v

theorem lt_exactLimit_iff {n : Int} : n.natAbs < Number.exactLimit ↔ n.natAbs ≤ 2 ^ 53 - 1 :=
  Nat.lt_iff_le_pred (by decide)

theorem safeInteger?_text_iff {s : String} {n : Int} : safeInteger? (.text s) = some n ↔
    Numeral.Spells s.toList n ∧ n.natAbs < Number.exactLimit := by
  rw [← Numeral.integer?_eq_some_iff, safeInteger?]
  cases Numeral.integer? s with
  | none => simp
  | some m =>
    constructor
    · intro h
      obtain ⟨small, same⟩ := Option.ite_none_right_eq_some.mp h
      cases same
      exact ⟨rfl, small⟩
    · rintro ⟨same, small⟩
      cases same
      exact if_pos small

theorem checkIntegerText_text_iff (s : String) (v : Value) :
    checkIntegerText c (.text s) = .ok v ↔ ∃ n, Numeral.Spells s.toList n ∧
      n.natAbs ≤ 2 ^ 53 - 1 ∧ InRange c (.ofInt n) ∧ v = .text (Decimal.integerText n) := by
  rw [checkIntegerText_eq_ok]
  constructor
  · rintro ⟨n, safe, rfl, range⟩
    obtain ⟨spelled, small⟩ := safeInteger?_text_iff.mp safe
    exact ⟨n, spelled, lt_exactLimit_iff.mp small, range, rfl⟩
  · rintro ⟨n, spelled, small, range, rfl⟩
    exact ⟨n, safeInteger?_text_iff.mpr ⟨spelled, lt_exactLimit_iff.mpr small⟩, rfl, range⟩

theorem ofInt_injective {m n : Int} (h : Number.ofInt m = .ofInt n) : m = n := by
  simpa [Number.ofInt] using h

/-- The spellings of a safe integer are the texts that look like one and whose number is this
integer. -/
theorem spells_safe_iff {s : String} {n : Int} :
    (Numeral.Spells s.toList n ∧ n.natAbs < Number.exactLimit) ↔
      (∃ m, Numeral.Spells s.toList m) ∧ Numeral.number? s = some (.ofInt n) ∧
        (Number.ofInt n).isSafe = true := by
  constructor
  · rintro ⟨spelled, small⟩
    obtain ⟨x, read, safe, same⟩ := Numeral.number?_of_spells spelled
    cases same small
    exact ⟨⟨n, spelled⟩, read, by rw [safe, decide_eq_true_eq]; exact small⟩
  · rintro ⟨⟨m, spelled⟩, read, safe⟩
    obtain ⟨x, read', safe', same⟩ := Numeral.number?_of_spells spelled
    obtain rfl := Option.some.inj (read.symm.trans read')
    have small : m.natAbs < Number.exactLimit := by simpa [safe] using safe'.symm
    obtain rfl := ofInt_injective (same small)
    exact ⟨spelled, small⟩

theorem normalizes_checkIntegerText (c : Constraints) :
    Normalizes c fun s => checkIntegerText c (.text s) where
  accepts_iff := checkIntegerText_text_iff
  reads_iff s v := by
    have looks : (∃ p, Pattern.ofSource? Numeral.integerSource "" 0 = some p ∧
        (p.test 0 s).1 = true) ↔ ∃ m, Numeral.Spells s.toList m := by
      rw [Numeral.ofSource?_integerSource, ← Numeral.integerPattern_test 0 0]
      simp
    rw [looks, checkIntegerText_eq_ok]
    constructor
    · rintro ⟨n, safe, rfl, range⟩
      obtain ⟨spelled, read, bound⟩ := spells_safe_iff.mp (safeInteger?_text_iff.mp safe)
      exact ⟨spelled, n, read, bound, range, rfl⟩
    · rintro ⟨spelled, n, read, bound, range, rfl⟩
      exact ⟨n, safeInteger?_text_iff.mpr (spells_safe_iff.mpr ⟨spelled, read, bound⟩), rfl, range⟩
  shortest accepted spelled := by
    obtain ⟨n, spelled', -, -, rfl⟩ := (checkIntegerText_text_iff _ _).mp accepted
    obtain rfl := spelled.unique spelled'
    refine ⟨_, rfl, Numeral.bare_integerText _, Numeral.spells_integerText _, ?_,
      fun cs => Numeral.length_integerText_le⟩
    rintro rfl
    rfl
  same_iff hs ht hm hn := by
    obtain ⟨m, hm', -, -, rfl⟩ := (checkIntegerText_text_iff _ _).mp hs
    obtain ⟨n, hn', -, -, rfl⟩ := (checkIntegerText_text_iff _ _).mp ht
    obtain rfl := hm.unique hm'
    obtain rfl := hn.unique hn'
    refine ⟨fun same => ?_, fun same => by rw [same]⟩
    injection same with text
    exact Numeral.integerText_injective text
  again accepted := by
    obtain ⟨n, -, small, range, rfl⟩ := (checkIntegerText_text_iff _ _).mp accepted
    exact ⟨_, rfl, (checkIntegerText_text_iff _ _).mpr
      ⟨n, Numeral.spells_integerText n, small, range, rfl⟩⟩

end Kind

namespace Validation

variable {rules : Rules} {spec : FieldSpec}

theorem checkAccepted_text (free : spec.info.constraints.validator = none) (raw : Value)
    (t : String) (path : List String) :
    checkAccepted rules spec raw (.text t) path = pure (some (.text t)) := by
  simp [checkAccepted, free, Value.isUndefined]

/-- A text against a specification of the kind without a check of its own comes to what the kind
makes of it. -/
theorem checkWith_integerText (known : rules.registry.kinds.Knows .integerText spec)
    (free : spec.info.constraints.validator = none) {st : RunState}
    (going : Run.halted rules st = (.ok false, st)) (ctx : KindContext Run) (parts : PartChecks Run)
    (s : String) (path : List String) (v : Value) :
    (checkWith rules ctx parts spec (.text s) path st).1 = .ok (some v) ↔
      Kind.checkIntegerText spec.info.constraints (.text s) = .ok v := by
  unfold checkWith
  rw [Computation.bind_of_ok going]
  simp only [Bool.false_eq_true, if_false, Value.isNull, Value.isUndefined, Bool.false_and,
    known.check_eq, BuiltinKind.check, pure_bind]
  cases kind : Kind.checkIntegerText spec.info.constraints (.text s) with
  | ok held =>
    obtain ⟨n, -, -, -, rfl⟩ := (Kind.checkIntegerText_text_iff s held).mp kind
    simp only [checkAccepted_text free]
    exact ⟨fun h => by cases h; rfl, fun h => by cases h; rfl⟩
  | error findings =>
    refine ⟨fun h => ?_, fun no => by cases no⟩
    have reports : ((findings.forM (Run.reportFinding rules path (.text s)) >>= fun _ =>
        (pure none : Run (Option Value))) st).1 = .ok (some v) := h
    rcases run : (findings.forM (Run.reportFinding rules path (.text s)) >>= fun _ =>
        (pure none : Run (Option Value))) st with ⟨answer, st'⟩
    rw [run] at reports
    cases reports
    obtain ⟨_, _, -, last⟩ := Computation.bind_eq_ok run
    cases (Prod.mk.inj last).1

theorem checkSpec_integerText (known : rules.registry.kinds.Knows .integerText spec)
    (free : spec.info.constraints.validator = none) {st : RunState}
    (going : Run.halted rules st = (.ok false, st)) (node : NodeRun) (other : ValueRun)
    (s : String) (place : Place) (v : Value) :
    (checkSpec rules node other spec (.text s) place st).1 = .ok (some v) ↔
      Kind.checkIntegerText spec.info.constraints (.text s) = .ok v := by
  cases spec <;> exact checkWith_integerText known free going _ _ s _ v

end Validation

/-- Integer texts have one spelling. A specification of their kind decides every text by itself, in
whatever run it is asked; without a check of its own a field accepts what the kind accepts; and the
kind gives every integer one spelling. -/
theorem integerText_normalizes {kinds : KindCatalog} {spec : FieldSpec}
    (known : kinds.Knows .integerText spec) (free : spec.info.constraints.validator = none) :
    ∃ check : String → KindResult, Kind.Normalizes spec.info.constraints check ∧
      (∀ (m : Type → Type) [Monad m] [MonadExceptOf Fault m] (ctx : KindContext m)
        (parts : PartChecks m) (s : String),
        kinds.check spec.kind ctx parts spec (.text s) = pure (check s)) ∧
      ∀ (rules : Rules), rules.registry.kinds = kinds → ∀ (node : NodeRun) (other : ValueRun)
        (s : String) (place : Place) (st : RunState), Run.halted rules st = (.ok false, st) →
        ∀ v, (Validation.checkSpec rules node other spec (.text s) place st).1 = .ok (some v) ↔
          check s = .ok v := by
  refine ⟨_, Kind.normalizes_checkIntegerText spec.info.constraints, ?_, ?_⟩
  · intro m _ _ ctx parts s
    rw [known.check_eq]
    rfl
  · rintro rules rfl node other s place st going v
    exact Validation.checkSpec_integerText known free going node other s place v

/-- A field of integers from 1 to 9. -/
def digitField : FieldSpec :=
  .leaf { name := "digit", kind := "integerstring", constraints := { min := some 1, max := some 9 } }

theorem digitField_normalizes : ∃ check : String → KindResult,
    Kind.Normalizes digitField.info.constraints check ∧ check " +007 " = .ok (.text "7") ∧
      ∀ v, check "10" ≠ .ok v := by
  obtain ⟨check, normal, -⟩ :=
    @integerText_normalizes .builtin digitField ⟨rfl, rfl⟩ rfl
  have seven : Numeral.Spells " +007 ".toList 7 := Numeral.integer?_eq_some_iff.mp rfl
  have ten : Numeral.Spells "10".toList 10 := Numeral.integer?_eq_some_iff.mp rfl
  refine ⟨check, normal, (normal.accepts_iff _ _).mpr ⟨7, seven, by decide, ?_, rfl⟩, fun v h => ?_⟩
  · constructor <;> rintro _ ⟨⟩ <;> decide
  · obtain ⟨n, spelled, -, range, -⟩ := (normal.accepts_iff _ _).mp h
    obtain rfl := ten.unique spelled
    exact absurd (range.2 9 rfl) (by decide)

end ShapedTree
