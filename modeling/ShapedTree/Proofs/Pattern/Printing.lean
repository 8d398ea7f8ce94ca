import ShapedTree.Proofs.Pattern.Language
import ShapedTree.Proofs.Text.UnitOrder

namespace ShapedTree

namespace Text

/-- The codes of a language are those of the texts with a property, character by character. -/
def Prints (L : Language Nat) (P : List Char → Prop) : Prop :=
  ∀ w, w ∈ L ↔ ∃ cs, P cs ∧ w = cs.map Char.toNat

namespace Prints

variable {L M : Language Nat} {P Q : List Char → Prop}

theorem of_iff (h : Prints L P) (same : ∀ cs, P cs ↔ Q cs) : Prints L Q := by
  intro w
  simp only [h w, same]

theorem add (hL : Prints L P) (hM : Prints M Q) : Prints (L + M) fun cs => P cs ∨ Q cs := by
  intro w
  simp only [Language.mem_add, hL w, hM w, or_and_right, exists_or]

theorem mul (hL : Prints L P) (hM : Prints M Q) :
    Prints (L * M) fun cs => ∃ a b, P a ∧ Q b ∧ cs = a ++ b := by
  intro w
  rw [Language.mem_mul]
  constructor
  · rintro ⟨u, hu, v, hv, rfl⟩
    obtain ⟨a, ha, rfl⟩ := (hL u).mp hu
    obtain ⟨b, hb, rfl⟩ := (hM v).mp hv
    exact ⟨a ++ b, ⟨a, b, ha, hb, rfl⟩, by simp⟩
  · rintro ⟨cs, ⟨a, b, ha, hb, rfl⟩, rfl⟩
    exact ⟨_, (hL _).mpr ⟨a, ha, rfl⟩, _, (hM _).mpr ⟨b, hb, rfl⟩, by simp⟩

/-- Rounds print rows of texts. -/
theorem between (hL : Prints L P) (least : Nat) (most : Option Nat) :
    Prints (Pattern.between L least most) fun cs =>
      ∃ parts : List (List Char), least ≤ parts.length ∧
        (∀ m, most = some m → parts.length ≤ m) ∧ (∀ part ∈ parts, P part) ∧ cs = parts.flatten := by
  intro w
  simp only [Pattern.mem_between, Language.mem_pow]
  constructor
  · rintro ⟨n, ge, le, words, rfl, rfl, each⟩
    have lifted : ∃ parts : List (List Char), (∀ part ∈ parts, P part) ∧
        words = parts.map (List.map Char.toNat) := by
      clear ge le
      induction words with
      | nil => exact ⟨[], by simp, rfl⟩
      | cons word words ih =>
        obtain ⟨cs, hcs, rfl⟩ := (hL word).mp (each word (by simp))
        obtain ⟨parts, hparts, rfl⟩ := ih fun y hy => each y (List.mem_cons_of_mem _ hy)
        exact ⟨cs :: parts, by simpa using ⟨hcs, hparts⟩, rfl⟩
    obtain ⟨parts, hparts, rfl⟩ := lifted
    exact ⟨parts.flatten, ⟨parts, by simpa using ge, by simpa using le, hparts, rfl⟩,
      by simp [List.map_flatten]⟩
  · rintro ⟨cs, ⟨parts, ge, le, each, rfl⟩, rfl⟩
    refine ⟨parts.length, ge, le, parts.map (List.map Char.toNat), by simp [List.map_flatten],
      by simp, ?_⟩
    intro y hy
    obtain ⟨part, hp, rfl⟩ := List.mem_map.mp hy
    exact (hL _).mpr ⟨part, each part hp, rfl⟩

theorem optional (hL : Prints L P) :
    Prints (Pattern.between L 0 (some 1)) fun cs => cs = [] ∨ P cs := by
  refine (hL.between 0 (some 1)).of_iff fun cs => ?_
  constructor
  · rintro ⟨parts, -, le, each, rfl⟩
    match parts, le 1 rfl with
    | [], _ => exact .inl rfl
    | [part], _ => exact .inr (by simpa using each part (by simp))
  · rintro (rfl | h)
    · exact ⟨[], by simp, by simp, by simp, rfl⟩
    · exact ⟨[cs], by simp, by simp, by simpa using h, by simp⟩

/-- A test of codes that is one of characters of the basic plane. -/
theorem single {test : Nat → Bool} {p : Char → Prop}
    (plane : ∀ n, test n = true → n < 0xD800 ∨ 0xDFFF < n ∧ n < 0x10000)
    (same : ∀ c : Char, test c.toNat = true ↔ p c) :
    Prints (Pattern.single test) fun cs => ∃ c, p c ∧ cs = [c] := by
  intro w
  rw [Pattern.mem_single]
  constructor
  · rintro ⟨n, hn, rfl⟩
    have valid : n.isValidChar := by
      rcases plane n hn with low | high
      · exact .inl low
      · exact .inr ⟨high.1, by omega⟩
    have code : (Char.ofNat n).toNat = n := by
      rw [Char.ofNat, dif_pos valid]
      rfl
    exact ⟨[Char.ofNat n], ⟨_, (same _).mp (by rwa [code]), rfl⟩, by simp [code]⟩
  · rintro ⟨cs, ⟨c, hc, rfl⟩, rfl⟩
    exact ⟨c.toNat, (same c).mpr hc, rfl⟩

/-- Rounds of one character print rows of such characters. -/
theorem rows {p : Char → Prop} (hL : Prints L fun cs => ∃ c, p c ∧ cs = [c]) (least : Nat) :
    Prints (Pattern.between L least none) fun cs => least ≤ cs.length ∧ ∀ c ∈ cs, p c := by
  refine (hL.between least none).of_iff fun cs => ?_
  constructor
  · rintro ⟨parts, ge, -, each, rfl⟩
    have row : parts.flatten.length = parts.length ∧ ∀ c ∈ parts.flatten, p c := by
      clear ge
      induction parts with
      | nil => simp
      | cons part parts ih =>
        obtain ⟨c, hc, rfl⟩ := each part (by simp)
        obtain ⟨size, rest⟩ := ih fun y hy => each y (List.mem_cons_of_mem _ hy)
        refine ⟨by simp [size], ?_⟩
        rw [List.flatten_cons]
        exact List.forall_mem_cons.mpr ⟨hc, rest⟩
    exact ⟨row.1 ▸ ge, row.2⟩
  · rintro ⟨ge, each⟩
    refine ⟨cs.map fun c => [c], by simpa using ge, by simp, ?_,
      (List.flatMap_singleton' cs).symm⟩
    intro part hp
    obtain ⟨c, hc, rfl⟩ := List.mem_map.mp hp
    exact ⟨c, each c hc, rfl⟩

/-- A first text and others behind points print rows with points between them. -/
theorem pointed (hL : Prints L P) (hM : Prints M fun cs => cs = ['.']) :
    Prints (L * Pattern.between (M * L) 0 none) fun cs =>
      ∃ parts, parts ≠ [] ∧ (∀ part ∈ parts, P part) ∧ cs = ['.'].intercalate parts := by
  refine (hL.mul ((hM.mul hL).between 0 none)).of_iff fun cs => ?_
  have behind : ∀ (a : List Char) (parts : List (List Char)),
      a ++ (parts.map ('.' :: ·)).flatten = ['.'].intercalate (a :: parts) := by
    intro a parts
    induction parts generalizing a with
    | nil => simp
    | cons part parts ih =>
      rw [List.intercalate_cons_cons, ← ih part]
      simp
  constructor
  · rintro ⟨a, b, ha, ⟨pointed, -, -, each, rfl⟩, rfl⟩
    have parts : ∃ parts : List (List Char), (∀ part ∈ parts, P part) ∧
        pointed = parts.map ('.' :: ·) := by
      induction pointed with
      | nil => exact ⟨[], by simp, rfl⟩
      | cons first others ih =>
        obtain ⟨_, part, rfl, hpart, rfl⟩ := each first (by simp)
        obtain ⟨parts, hparts, rfl⟩ := ih fun y hy => each y (List.mem_cons_of_mem _ hy)
        exact ⟨part :: parts, by simpa using ⟨hpart, hparts⟩, rfl⟩
    obtain ⟨parts, hparts, rfl⟩ := parts
    exact ⟨a :: parts, by simp, by simpa using ⟨ha, hparts⟩, behind a parts⟩
  · rintro ⟨parts, nonempty, each, rfl⟩
    obtain ⟨a, parts, rfl⟩ := List.exists_cons_of_ne_nil nonempty
    refine ⟨a, _, each a (by simp), ⟨parts.map ('.' :: ·), by simp, by simp, ?_, rfl⟩,
      (behind a parts).symm⟩
    intro part hp
    obtain ⟨rest, hrest, rfl⟩ := List.mem_map.mp hp
    exact ⟨['.'], rest, rfl, each rest (List.mem_cons_of_mem _ hrest), rfl⟩

end Prints

/-- The units of a text are a word if its characters are a text that is printed. -/
theorem units_mem_iff {L : Language Nat} {P : List Char → Prop} (prints : Prints L P)
    (plane : ∀ cs, P cs → ∀ c ∈ cs, c.toNat < 0x10000) (s : String) :
    units s ∈ L ↔ P s.toList := by
  have plain : ∀ cs : List Char, (∀ c ∈ cs, c.toNat < 0x10000) →
      cs.flatMap unitsOfChar = cs.map Char.toNat := by
    intro cs small
    induction cs with
    | nil => rfl
    | cons c cs ih =>
      obtain ⟨hc, rest⟩ := List.forall_mem_cons.mp small
      simp [unitsOfChar, if_pos hc, ih rest]
  constructor
  · intro h
    obtain ⟨cs, hcs, same⟩ := (prints _).mp h
    have text : s = String.ofList cs := by
      refine units_injective ?_
      rw [same, units, String.toList_ofList, plain cs (plane cs hcs)]
    rwa [text, String.toList_ofList]
  · intro h
    exact (prints _).mpr ⟨s.toList, h, plain _ (plane _ h)⟩

open Pattern

theorem isAlpha_iff {c : Char} :
    c.isAlpha = true ↔ (65 ≤ c.toNat ∧ c.toNat ≤ 90) ∨ (97 ≤ c.toNat ∧ c.toNat ≤ 122) := by
  have upper : c.isUpper = true ↔ 65 ≤ c.toNat ∧ c.toNat ≤ 90 := decide_eq_true_iff
  have lower : c.isLower = true ↔ 97 ≤ c.toNat ∧ c.toNat ≤ 122 :=
    Bool.and_eq_true_iff.trans (and_congr decide_eq_true_iff decide_eq_true_iff)
  rw [← upper, ← lower]
  exact Bool.or_eq_true_iff

theorem prints_code (d : Char) (plane : d.toNat < 0xD800) :
    Prints (Term.code d.toNat).words fun cs => cs = [d] := by
  have one : Prints (Term.code d.toNat).words fun cs => ∃ c, c = d ∧ cs = [c] := by
    refine Prints.single ?_ fun c => ?_
    · intro n hn
      have : n = d.toNat := by simpa [Subject.folded] using hn
      omega
    · simp [Subject.folded, Char.toNat_inj]
  exact one.of_iff (by simp)

/-- A class whose entries are of the basic plane. -/
theorem prints_oneOf {items : List ClassItem} {p : Char → Prop}
    (plane : ∀ n, items.any (Subject.belongs ⟨#[], {}⟩ n) = true →
      n < 0xD800 ∨ 0xDFFF < n ∧ n < 0x10000)
    (same : ∀ c : Char, items.any (Subject.belongs ⟨#[], {}⟩ c.toNat) = true ↔ p c) :
    Prints (Term.oneOf false items).words fun cs => ∃ c, p c ∧ cs = [c] := by
  have plain : ∀ n, Subject.accepts ⟨#[], {}⟩ false items n =
      items.any (Subject.belongs ⟨#[], {}⟩ n) := by
    intro n
    simp [Subject.accepts, Subject.alike]
  exact Prints.single (fun n hn => plane n (by rwa [← plain])) fun c => by rw [plain, same]

theorem prints_digit :
    Prints (Term.oneOf false [.digit false]).words fun cs => ∃ c, c.isDigit = true ∧ cs = [c] := by
  refine prints_oneOf ?_ fun c => ?_
  · simp [Subject.belongs, isDigitCode]
    omega
  · simp [Subject.belongs, isDigitCode, Char.isDigit_iff_toNat]

end Text

end ShapedTree
