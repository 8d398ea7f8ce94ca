import Mathlib
import ShapedTree.Proofs.Pattern.Printing
import ShapedTree.Proofs.Text.Version

namespace ShapedTree

namespace SemVer

open Pattern Text

/-- Semantic versions as the text of a pattern. -/
def source : String :=
  "^(0|[1-9]\\d*)\\.(0|[1-9]\\d*)\\.(0|[1-9]\\d*)" ++
    "(?:-((?:0|[1-9]\\d*|\\d*[a-zA-Z-][0-9a-zA-Z-]*)(?:\\.(?:0|[1-9]\\d*|\\d*[a-zA-Z-][0-9a-zA-Z-]*))*))?" ++
    "(?:\\+([0-9a-zA-Z-]+(?:\\.[0-9a-zA-Z-]+)*))?$"

/-- Any number of digits; groups are counted from `group` on behind them. -/
def digitsTerm (group : Nat) : Term := .repeated (.oneOf false [.digit false]) 0 none true group 0

def zeroTerm : Term := .row [.code 48]

def positiveTerm (group : Nat) : Term :=
  .row [.oneOf false [.range 49 57], digitsTerm group]

def numericTerm (group : Nat) : Term := .group group (.orElse zeroTerm (positiveTerm (group + 1)))

def identifierItems : List ClassItem := [.range 48 57, .range 97 122, .range 65 90, .range 45 45]

def prereleaseTerm : Term :=
  .orElse zeroTerm (.orElse (positiveTerm 5)
    (.row [digitsTerm 5, .oneOf false [.range 97 122, .range 65 90, .range 45 45],
      .repeated (.oneOf false identifierItems) 0 none true 5 0]))

def buildTerm : Term := .repeated (.oneOf false identifierItems) 1 none true 6 0

/-- Terms with points between them behind a mark, or nothing. -/
def suffixTerm (mark group : Nat) (body : Term) : Term :=
  .repeated (.row [.code mark, .group group
    (.row [body, .repeated (.row [.code 46, body]) 0 none true (group + 1) 0])])
    0 (some 1) true group 1

def terms : List Term :=
  [numericTerm 1, .code 46, numericTerm 2, .code 46, numericTerm 3,
    suffixTerm 45 4 prereleaseTerm, suffixTerm 43 5 buildTerm]

theorem prints_positive : Prints (Term.oneOf false [.range 49 57]).words fun cs =>
    ∃ c, (c.isDigit = true ∧ c ≠ '0') ∧ cs = [c] := by
  refine prints_oneOf ?_ fun c => ?_
  · simp [Subject.belongs]
    omega
  · have zero : c = '0' ↔ c.toNat = 48 := Char.toNat_inj.symm
    simp only [List.any_cons, List.any_nil, Subject.belongs, Bool.or_false, Bool.and_eq_true,
      decide_eq_true_eq, Char.isDigit_iff_toNat, Char.reduceToNat, ne_eq, zero]
    omega

theorem prints_letter : Prints (Term.oneOf false [.range 97 122, .range 65 90, .range 45 45]).words
    fun cs => ∃ c, (c.isAlpha = true ∨ c = '-') ∧ cs = [c] := by
  refine prints_oneOf ?_ fun c => ?_
  · simp [Subject.belongs]
    omega
  · have hyphen : c = '-' ↔ c.toNat = 45 := Char.toNat_inj.symm
    simp only [List.any_cons, List.any_nil, Subject.belongs, Bool.or_false, Bool.or_eq_true,
      Bool.and_eq_true, decide_eq_true_eq, isAlpha_iff, hyphen]
    omega

theorem prints_identifierItems : Prints (Term.oneOf false identifierItems).words
    fun cs => ∃ c, (c.isAlphanum = true ∨ c = '-') ∧ cs = [c] := by
  refine prints_oneOf ?_ fun c => ?_
  · simp [identifierItems, Subject.belongs]
    omega
  · have hyphen : c = '-' ↔ c.toNat = 45 := Char.toNat_inj.symm
    simp only [identifierItems, List.any_cons, List.any_nil, Subject.belongs, Bool.or_false,
      Bool.or_eq_true, Bool.and_eq_true, decide_eq_true_eq, Char.isAlphanum, isAlpha_iff,
      Char.isDigit_iff_toNat, Char.reduceToNat, hyphen]
    omega

theorem prints_digits (group : Nat) :
    Prints (digitsTerm group).words fun cs => ∀ c ∈ cs, c.isDigit = true :=
  (prints_digit.rows 0).of_iff fun cs => by simp

theorem prints_zeroTerm : Prints zeroTerm.words fun cs => cs = ['0'] := by
  rw [zeroTerm, Term.words_row]
  simpa using prints_code '0' (by decide)

theorem prints_positiveTerm (group : Nat) : Prints (positiveTerm group).words fun cs =>
    (∀ c ∈ cs, c.isDigit = true) ∧ ∃ c rest, cs = c :: rest ∧ c ≠ '0' := by
  rw [positiveTerm, Term.words_row]
  simp only [List.map_cons, List.map_nil, List.prod_cons, List.prod_nil, mul_one]
  refine (prints_positive.mul (prints_digits group)).of_iff fun cs => ?_
  constructor
  · rintro ⟨_, rest, ⟨c, ⟨digit, nonzero⟩, rfl⟩, digits, rfl⟩
    exact ⟨by simpa using ⟨digit, digits⟩, c, rest, rfl, nonzero⟩
  · rintro ⟨digits, c, rest, rfl, nonzero⟩
    obtain ⟨digit, digits⟩ := List.forall_mem_cons.mp digits
    exact ⟨[c], rest, ⟨c, ⟨digit, nonzero⟩, rfl⟩, digits, rfl⟩

theorem prints_numericTerm (group : Nat) : Prints (numericTerm group).words Numeric := by
  have either : Prints (numericTerm group).words fun cs => cs = ['0'] ∨
      ((∀ c ∈ cs, c.isDigit = true) ∧ ∃ c rest, cs = c :: rest ∧ c ≠ '0') :=
    prints_zeroTerm.add (prints_positiveTerm (group + 1))
  refine either.of_iff fun cs => ?_
  constructor
  · rintro (rfl | h)
    · exact ⟨List.forall_mem_singleton.mpr rfl, .inl rfl⟩
    · exact ⟨h.1, .inr h.2⟩
  · rintro ⟨digits, zero | first⟩
    · exact .inl zero
    · exact .inr ⟨digits, first⟩

/-- A row that is not of digits alone has a first character that is no digit. -/
theorem exists_first_other {cs : List Char} (mixed : ¬ ∀ c ∈ cs, c.isDigit = true) :
    ∃ digits c rest, (∀ d ∈ digits, d.isDigit = true) ∧ c.isDigit = false ∧
      cs = digits ++ c :: rest := by
  induction cs with
  | nil => exact absurd (by simp) mixed
  | cons c cs ih =>
    cases digit : c.isDigit with
    | false => exact ⟨[], c, cs, by simp, digit, rfl⟩
    | true =>
      have others : ¬ ∀ d ∈ cs, d.isDigit = true := fun all =>
        mixed (List.forall_mem_cons.mpr ⟨digit, all⟩)
      obtain ⟨digits, d, rest, hdigits, hd, rfl⟩ := ih others
      exact ⟨c :: digits, d, rest, List.forall_mem_cons.mpr ⟨digit, hdigits⟩, hd, rfl⟩

theorem prereleaseIdentifier_of_numeric {cs : List Char} (h : Numeric cs) :
    PrereleaseIdentifier cs := by
  refine ⟨⟨?_, fun c hc => .inl (by simp [Char.isAlphanum, h.1 c hc])⟩, fun _ => h⟩
  rintro rfl
  rcases h.2 with zero | ⟨c, rest, first, -⟩
  · cases zero
  · cases first

/-- The alternatives of a pre-release identifier overlap, and together they are all of them. -/
theorem prereleaseIdentifier_iff {cs : List Char} :
    PrereleaseIdentifier cs ↔ Numeric cs ∨ ∃ digits c rest, (∀ d ∈ digits, d.isDigit = true) ∧
      (c.isAlpha = true ∨ c = '-') ∧ (∀ d ∈ rest, d.isAlphanum = true ∨ d = '-') ∧
      cs = digits ++ c :: rest := by
  constructor
  · rintro ⟨⟨-, chars⟩, numeric⟩
    by_cases all : ∀ c ∈ cs, c.isDigit = true
    · exact .inl (numeric all)
    · obtain ⟨digits, c, rest, hdigits, hc, rfl⟩ := exists_first_other all
      refine .inr ⟨digits, c, rest, hdigits, ?_, fun d hd => chars d (by simp [hd]), rfl⟩
      simpa [Char.isAlphanum, hc] using chars c (by simp)
  · rintro (h | ⟨digits, c, rest, hdigits, hc, hrest, rfl⟩)
    · exact prereleaseIdentifier_of_numeric h
    · have letter : c.isDigit = false := by
        simp only [← Bool.not_eq_true, Char.isDigit_iff_toNat, Char.reduceToNat]
        rcases hc with alpha | rfl
        · have := isAlpha_iff.mp alpha
          omega
        · decide
      refine ⟨⟨by simp, fun d hd => ?_⟩, fun all => ?_⟩
      · rcases List.mem_append.mp hd with digit | hd
        · exact .inl (by simp [Char.isAlphanum, hdigits d digit])
        rcases List.mem_cons.mp hd with rfl | hd
        · exact hc.imp_left fun alpha => by simp [Char.isAlphanum, alpha]
        · exact hrest d hd
      · rw [all c (by simp)] at letter
        cases letter

theorem prints_prereleaseTerm : Prints prereleaseTerm.words PrereleaseIdentifier := by
  have mixed : Prints (Term.row [digitsTerm 5,
      .oneOf false [.range 97 122, .range 65 90, .range 45 45],
      .repeated (.oneOf false identifierItems) 0 none true 5 0]).words fun cs =>
      ∃ digits behind, (∀ c ∈ digits, c.isDigit = true) ∧ (∃ letter rest,
        (∃ c, (c.isAlpha = true ∨ c = '-') ∧ letter = [c]) ∧
          (0 ≤ rest.length ∧ ∀ c ∈ rest, c.isAlphanum = true ∨ c = '-') ∧
          behind = letter ++ rest) ∧ cs = digits ++ behind := by
    rw [Term.words_row]
    simp only [List.map_cons, List.map_nil, List.prod_cons, List.prod_nil, mul_one]
    exact (prints_digits 5).mul (prints_letter.mul (prints_identifierItems.rows 0))
  have numeric : Prints (zeroTerm.words + (positiveTerm 5).words) Numeric := prints_numericTerm 4
  have words : prereleaseTerm.words = zeroTerm.words + (positiveTerm 5).words + _ :=
    (add_assoc _ _ _).symm
  rw [words]
  refine (numeric.add mixed).of_iff fun cs => ?_
  rw [prereleaseIdentifier_iff]
  refine or_congr_right ⟨?_, ?_⟩
  · rintro ⟨digits, _, hdigits, ⟨_, rest, ⟨c, hc, rfl⟩, ⟨-, hrest⟩, rfl⟩, rfl⟩
    exact ⟨digits, c, rest, hdigits, hc, hrest, rfl⟩
  · rintro ⟨digits, c, rest, hdigits, hc, hrest, rfl⟩
    exact ⟨digits, _, hdigits, ⟨[c], rest, ⟨c, hc, rfl⟩, ⟨Nat.zero_le _, hrest⟩, rfl⟩, rfl⟩

theorem prints_buildTerm : Prints buildTerm.words Identifier :=
  (prints_identifierItems.rows 1).of_iff fun cs => by
    rw [Identifier, Nat.one_le_iff_ne_zero, ne_eq, List.length_eq_zero_iff]

theorem prints_suffixTerm {mark : Char} (plane : mark.toNat < 0xD800) (group : Nat) {body : Term}
    {P : List Char → Prop} (hb : Prints body.words P) :
    Prints (suffixTerm mark.toNat group body).words (Suffix mark P) := by
  have point : Prints (Term.code 46).words fun cs => cs = ['.'] := prints_code '.' (by decide)
  have behind : (Term.row [.code 46, body]).words = (Term.code 46).words * body.words := by
    simp [Term.words_row]
  have pointed : (Term.row [body, .repeated (.row [.code 46, body]) 0 none true (group + 1) 0]).words
      = body.words * Pattern.between ((Term.code 46).words * body.words) 0 none := by
    rw [Term.words_row]
    simp only [List.map_cons, List.map_nil, List.prod_cons, List.prod_nil, mul_one]
    exact congrArg (fun L => body.words * Pattern.between L 0 none) behind
  have marked : Prints (Term.row [.code mark.toNat, .group group
      (.row [body, .repeated (.row [.code 46, body]) 0 none true (group + 1) 0])]).words
      fun cs => ∃ a b, a = [mark] ∧
        (∃ parts, parts ≠ [] ∧ (∀ part ∈ parts, P part) ∧ b = ['.'].intercalate parts) ∧
        cs = a ++ b := by
    rw [Term.words_row]
    simp only [List.map_cons, List.map_nil, List.prod_cons, List.prod_nil, mul_one]
    refine (prints_code mark plane).mul ?_
    change Prints (Term.row [body, _]).words _
    rw [pointed]
    exact hb.pointed point
  refine marked.optional.of_iff fun cs => ?_
  constructor
  · rintro (rfl | ⟨_, _, rfl, ⟨parts, nonempty, each, rfl⟩, rfl⟩)
    · exact .absent
    · exact .marked parts nonempty each
  · rintro (_ | ⟨parts, nonempty, each⟩)
    · exact .inl rfl
    · exact .inr ⟨[mark], _, rfl, ⟨parts, nonempty, each, rfl⟩, rfl⟩

theorem prints_terms : Prints (Term.row terms).words Version := by
  have point : Prints (Term.code 46).words fun cs => cs = ['.'] := prints_code '.' (by decide)
  have hyphen : Prints (suffixTerm 45 4 prereleaseTerm).words (Suffix '-' PrereleaseIdentifier) :=
    @prints_suffixTerm '-' (by decide) 4 _ _ prints_prereleaseTerm
  have plus : Prints (suffixTerm 43 5 buildTerm).words (Suffix '+' Identifier) :=
    @prints_suffixTerm '+' (by decide) 5 _ _ prints_buildTerm
  rw [terms, Term.words_row]
  simp only [List.map_cons, List.map_nil, List.prod_cons, List.prod_nil, mul_one]
  refine ((prints_numericTerm 1).mul (point.mul ((prints_numericTerm 2).mul (point.mul
    ((prints_numericTerm 3).mul (hyphen.mul plus)))))).of_iff fun cs => ?_
  constructor
  · rintro ⟨major, _, h₁, ⟨_, _, rfl, ⟨minor, _, h₂, ⟨_, _, rfl, ⟨patch, _, h₃,
      ⟨prerelease, build, hp, hb, rfl⟩, rfl⟩, rfl⟩, rfl⟩, rfl⟩, rfl⟩
    exact ⟨major, minor, patch, prerelease, build, h₁, h₂, h₃, hp, hb,
      by simp [List.intercalate_cons_cons]⟩
  · rintro ⟨major, minor, patch, prerelease, build, h₁, h₂, h₃, hp, hb, rfl⟩
    exact ⟨major, _, h₁, ⟨['.'], _, rfl, ⟨minor, _, h₂, ⟨['.'], _, rfl, ⟨patch, _, h₃,
      ⟨prerelease, build, hp, hb, rfl⟩, rfl⟩, rfl⟩, rfl⟩, rfl⟩,
      by simp [List.intercalate_cons_cons]⟩

theorem ascii_of_intercalate {parts : List (List Char)} (each : ∀ part ∈ parts, Identifier part) :
    ∀ c ∈ ['.'].intercalate parts, c.toNat < 0x80 := by
  intro c hc
  rcases mem_intercalate hc with rfl | ⟨part, hp, hc⟩
  · decide
  rcases (each part hp).2 c hc with letter | rfl
  · simp only [Char.isAlphanum, Bool.or_eq_true, isAlpha_iff, Char.isDigit_iff_toNat,
      Char.reduceToNat] at letter
    omega
  · decide

theorem ascii_of_suffix {mark : Char} (ascii : mark.toNat < 0x80) {P : List Char → Prop}
    (identifiers : ∀ part, P part → Identifier part) {cs : List Char} (h : Suffix mark P cs) :
    ∀ c ∈ cs, c.toNat < 0x80 := by
  cases h with
  | absent => simp
  | marked parts nonempty each =>
    exact List.forall_mem_cons.mpr
      ⟨ascii, ascii_of_intercalate fun part hp => identifiers part (each part hp)⟩

theorem ascii_of_version {cs : List Char} (h : Version cs) : ∀ c ∈ cs, c.toNat < 0x80 := by
  obtain ⟨major, minor, patch, prerelease, build, h₁, h₂, h₃, hp, hb, rfl⟩ := h
  have core : ∀ part ∈ [major, minor, patch], Identifier part := by
    simpa using ⟨(prereleaseIdentifier_of_numeric h₁).1, (prereleaseIdentifier_of_numeric h₂).1,
      (prereleaseIdentifier_of_numeric h₃).1⟩
  have hyphen := ascii_of_suffix (by decide) (fun _ h => h.1) hp
  have plus := ascii_of_suffix (by decide) (fun _ h => h) hb
  intro c hc
  rcases List.mem_append.mp hc with hc | hc
  · rcases List.mem_append.mp hc with hc | hc
    · exact ascii_of_intercalate core c hc
    · exact hyphen c hc
  · exact plus c hc

theorem plain_terms : (Term.row terms).Plain := by
  simp [terms, Term.row, Term.Plain, numericTerm, suffixTerm, zeroTerm, positiveTerm, digitsTerm,
    prereleaseTerm, buildTerm]

set_option maxRecDepth 4000 in
theorem termOf?_source :
    termOf? false source = some (Term.row (.lineStart :: (terms ++ [.lineEnd])), 5) := by
  cbv

/-- The pattern of versions, as it is read from its text. -/
def pattern (cell : Nat) : Pattern :=
  { source, flags := {}, term := Term.row (.lineStart :: (terms ++ [.lineEnd])), groups := 5, cell }

theorem ofSource?_source (cell : Nat) : Pattern.ofSource? source "" cell = some (pattern cell) := by
  have letters : Flags.ofLetters? "" = some {} := rfl
  simp [Pattern.ofSource?, letters, termOf?_source, pattern]

theorem pattern_test (cell last : Nat) (s : String) :
    (pattern cell).test last s = (isSemVer s, last) := by
  have tested := test_anchored (p := pattern cell) rfl plain_terms rfl last s
  have ascii : ∀ cs, Version cs → ∀ c ∈ cs, c.toNat < 0x10000 := fun _ h c hc =>
    (ascii_of_version h c hc).trans (by decide)
  rw [units_mem_iff prints_terms ascii, ← accepts_iff] at tested
  exact Prod.ext (Bool.eq_iff_iff.mpr tested.1) tested.2

end SemVer

/-- A text is accepted as a version if it is one by the grammar, and this is what the pattern of
versions accepts as well. -/
theorem isSemVer_iff_version (s : String) :
    (isSemVer s = true ↔ SemVer.Version s.toList) ∧
      ∀ cell, ∃ p, Pattern.ofSource? SemVer.source "" cell = some p ∧
        ∀ last, p.test last s = (isSemVer s, last) :=
  ⟨SemVer.accepts_iff, fun cell =>
    ⟨SemVer.pattern cell, SemVer.ofSource?_source cell, fun last => SemVer.pattern_test cell last s⟩⟩

end ShapedTree
