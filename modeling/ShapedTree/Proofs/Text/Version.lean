import ShapedTree.Proofs.Lists
import ShapedTree.SemVer

namespace ShapedTree

namespace Text

theorem split_ne_nil (separator : Char) (cs : List Char) : split separator cs ≠ [] := by
  cases cs with
  | nil => simp [split]
  | cons c cs =>
    unfold split
    split
    next => simp
    next => split <;> simp

/-- The parts with the separator between them make the text. -/
theorem intercalate_split (separator : Char) (cs : List Char) :
    [separator].intercalate (split separator cs) = cs := by
  induction cs with
  | nil => rfl
  | cons c cs ih =>
    unfold split
    split
    next same =>
      obtain ⟨part, parts, heq⟩ := List.exists_cons_of_ne_nil (split_ne_nil separator cs)
      rw [heq] at ih ⊢
      rw [List.intercalate_cons_cons, ih, same]
      rfl
    next =>
      cases heq : split separator cs with
      | nil => exact absurd heq (split_ne_nil separator cs)
      | cons part parts =>
        rw [heq] at ih
        cases parts with
        | nil => simpa using ih
        | cons other parts => simpa [List.intercalate_cons_cons] using ih

/-- What stands before a separator, the separator, and what stands behind it. -/
def rejoin (separator : Char) : List Char × Option (List Char) → List Char
  | (before, none) => before
  | (before, some behind) => before ++ separator :: behind

theorem rejoin_cut (separator : Char) (cs : List Char) :
    rejoin separator (cut separator cs) = cs := by
  induction cs with
  | nil => rfl
  | cons c cs ih =>
    unfold cut
    split
    next same => simp [rejoin, same]
    next =>
      rcases heq : cut separator cs with ⟨before, _ | behind⟩
      · simpa [rejoin, heq] using ih
      · simpa [rejoin, heq] using ih

theorem split_append {separator : Char} {part : List Char} (free : separator ∉ part)
    (cs : List Char) :
    split separator (part ++ separator :: cs) = part :: split separator cs := by
  induction part with
  | nil => simp [split]
  | cons c part ih =>
    obtain ⟨hc, free⟩ : separator ≠ c ∧ separator ∉ _ := by simpa using free
    simp [split, hc.symm, ih free]

theorem split_eq_self {separator : Char} {part : List Char} (free : separator ∉ part) :
    split separator part = [part] := by
  induction part with
  | nil => rfl
  | cons c part ih =>
    obtain ⟨hc, free⟩ : separator ≠ c ∧ separator ∉ _ := by simpa using free
    simp [split, hc.symm, ih free]

/-- Parts without the separator come out of the text that they make. -/
theorem split_intercalate {separator : Char} {parts : List (List Char)} (nonempty : parts ≠ [])
    (free : ∀ part ∈ parts, separator ∉ part) :
    split separator ([separator].intercalate parts) = parts := by
  induction parts with
  | nil => exact absurd rfl nonempty
  | cons part parts ih =>
    have here := free part (by simp)
    cases parts with
    | nil => simpa using split_eq_self here
    | cons other parts =>
      have rest := ih (by simp) fun p hp => free p (List.mem_cons_of_mem part hp)
      rw [List.intercalate_cons_cons, List.append_assoc]
      exact (split_append here _).trans (congrArg (part :: ·) rest)

/-- A text is cut where its first separator stands. -/
theorem cut_rejoin {separator : Char} {before : List Char} (free : separator ∉ before)
    (behind : Option (List Char)) :
    cut separator (rejoin separator (before, behind)) = (before, behind) := by
  induction before with
  | nil => cases behind <;> simp [rejoin, cut]
  | cons c before ih =>
    obtain ⟨hc, free⟩ : separator ≠ c ∧ separator ∉ _ := by simpa using free
    have rest := ih free
    cases behind <;> simp_all [rejoin, cut, hc.symm]

end Text

namespace SemVer

/-- Zero, or digits that do not start with zero. -/
def Numeric (cs : List Char) : Prop :=
  (∀ c ∈ cs, c.isDigit = true) ∧ (cs = ['0'] ∨ ∃ c rest, cs = c :: rest ∧ c ≠ '0')

/-- One or more letters, digits and hyphens. -/
def Identifier (cs : List Char) : Prop :=
  cs ≠ [] ∧ ∀ c ∈ cs, c.isAlphanum = true ∨ c = '-'

/-- An identifier, numeric if it is of digits alone. -/
def PrereleaseIdentifier (cs : List Char) : Prop :=
  Identifier cs ∧ ((∀ c ∈ cs, c.isDigit = true) → Numeric cs)

/-- Identifiers with points between them, behind a mark; or nothing. -/
inductive Suffix (mark : Char) (P : List Char → Prop) : List Char → Prop
  | absent : Suffix mark P []
  | marked (parts : List (List Char)) (nonempty : parts ≠ []) (each : ∀ part ∈ parts, P part) :
      Suffix mark P (mark :: ['.'].intercalate parts)

/-- A semantic version. -/
def Version (cs : List Char) : Prop :=
  ∃ major minor patch prerelease build,
    Numeric major ∧ Numeric minor ∧ Numeric patch ∧ Suffix '-' PrereleaseIdentifier prerelease ∧
      Suffix '+' Identifier build ∧
      cs = ['.'].intercalate [major, minor, patch] ++ prerelease ++ build

theorem numeric_of_isNumeric {cs : List Char} (h : isNumeric cs = true) : Numeric cs := by
  match cs, h with
  | [c], h =>
    refine ⟨by simpa [isNumeric] using h, ?_⟩
    by_cases zero : c = '0'
    · exact .inl (by rw [zero])
    · exact .inr ⟨c, [], rfl, zero⟩
  | c :: d :: rest, h =>
    simp only [isNumeric, Bool.and_eq_true, bne_iff_ne, ne_eq, List.all_eq_true] at h
    exact ⟨by simpa [h.1.1] using h.2, .inr ⟨c, d :: rest, rfl, h.1.2⟩⟩

theorem identifier_of_isBuildIdentifier {cs : List Char} (h : isBuildIdentifier cs = true) :
    Identifier cs := by
  simpa [isBuildIdentifier, isIdentifierChar, Identifier] using h

theorem prereleaseIdentifier_of_isPrereleaseIdentifier {cs : List Char}
    (h : isPrereleaseIdentifier cs = true) : PrereleaseIdentifier cs := by
  simp only [isPrereleaseIdentifier, Bool.and_eq_true, Bool.or_eq_true] at h
  refine ⟨identifier_of_isBuildIdentifier h.1, fun digits => ?_⟩
  rcases h.2 with letter | numeric
  · exact absurd (List.all_eq_true.mpr digits) (by simpa using letter)
  · exact numeric_of_isNumeric numeric

theorem suffix_of_split {mark : Char} {P : List Char → Prop} {p : List Char → Bool}
    (le : ∀ part, p part = true → P part) {cs : List Char} (h : (Text.split '.' cs).all p = true) :
    Suffix mark P (mark :: cs) := by
  have marked : Suffix mark P (mark :: ['.'].intercalate (Text.split '.' cs)) :=
    .marked _ (Text.split_ne_nil _ _) fun part hp => le part (List.all_eq_true.mp h part hp)
  rwa [Text.intercalate_split] at marked

theorem core_of_isCore {cs : List Char} (h : isCore cs = true) :
    ∃ major minor patch, Numeric major ∧ Numeric minor ∧ Numeric patch ∧
      cs = ['.'].intercalate [major, minor, patch] := by
  unfold isCore at h
  split at h
  next major minor patch heq =>
    simp only [Bool.and_eq_true] at h
    exact ⟨major, minor, patch, numeric_of_isNumeric h.1.1, numeric_of_isNumeric h.1.2,
      numeric_of_isNumeric h.2, by rw [← heq, Text.intercalate_split]⟩
  next => cases h

theorem release_of_isRelease {cs : List Char} (h : isRelease cs = true) :
    ∃ core prerelease, isCore core = true ∧ Suffix '-' PrereleaseIdentifier prerelease ∧
      cs = core ++ prerelease := by
  have joined := Text.rejoin_cut '-' cs
  unfold isRelease at h
  split at h
  next core heq =>
    rw [heq] at joined
    exact ⟨core, [], h, .absent, by simpa [Text.rejoin] using joined.symm⟩
  next core prerelease heq =>
    rw [heq] at joined
    simp only [Bool.and_eq_true] at h
    exact ⟨core, _, h.1,
      suffix_of_split (fun _ => prereleaseIdentifier_of_isPrereleaseIdentifier) h.2, joined.symm⟩

theorem version_of_accepts {cs : List Char} (h : accepts cs = true) : Version cs := by
  have joined := Text.rejoin_cut '+' cs
  have whole : ∃ release build, isRelease release = true ∧ Suffix '+' Identifier build ∧
      cs = release ++ build := by
    unfold accepts at h
    split at h
    next release heq =>
      rw [heq] at joined
      exact ⟨release, [], h, .absent, by simpa [Text.rejoin] using joined.symm⟩
    next release build heq =>
      rw [heq] at joined
      simp only [Bool.and_eq_true] at h
      exact ⟨release, _, h.1, suffix_of_split (fun _ => identifier_of_isBuildIdentifier) h.2,
        joined.symm⟩
  obtain ⟨release, build, hr, hb, rfl⟩ := whole
  obtain ⟨core, prerelease, hc, hp, rfl⟩ := release_of_isRelease hr
  obtain ⟨major, minor, patch, h₁, h₂, h₃, rfl⟩ := core_of_isCore hc
  exact ⟨major, minor, patch, prerelease, build, h₁, h₂, h₃, hp, hb, rfl⟩

theorem isNumeric_iff {cs : List Char} : isNumeric cs = true ↔ Numeric cs := by
  refine ⟨numeric_of_isNumeric, ?_⟩
  rintro ⟨digits, rfl | ⟨c, rest, rfl, nonzero⟩⟩
  · rfl
  · cases rest with
    | nil => simpa [isNumeric] using digits
    | cons d rest => simpa [isNumeric, nonzero] using digits

theorem isBuildIdentifier_iff {cs : List Char} : isBuildIdentifier cs = true ↔ Identifier cs := by
  simp [isBuildIdentifier, isIdentifierChar, Identifier]

theorem isPrereleaseIdentifier_iff {cs : List Char} :
    isPrereleaseIdentifier cs = true ↔ PrereleaseIdentifier cs := by
  refine ⟨prereleaseIdentifier_of_isPrereleaseIdentifier, fun ⟨identifier, numeric⟩ => ?_⟩
  rw [isPrereleaseIdentifier, isBuildIdentifier_iff.mpr identifier, Bool.true_and,
    Bool.or_eq_true, Bool.not_eq_true']
  by_cases digits : cs.all Char.isDigit = true
  · exact .inr (isNumeric_iff.mpr (numeric (List.all_eq_true.mp digits)))
  · exact .inl (by simpa using digits)

theorem not_mem_of_identifier {cs : List Char} (h : Identifier cs) : '.' ∉ cs ∧ '+' ∉ cs := by
  refine ⟨fun point => ?_, fun plus => ?_⟩
  · rcases h.2 _ point with letter | hyphen
    · exact absurd letter (by decide)
    · exact absurd hyphen (by decide)
  · rcases h.2 _ plus with letter | hyphen
    · exact absurd letter (by decide)
    · exact absurd hyphen (by decide)

theorem isCore_of_numeric {major minor patch : List Char} (h₁ : Numeric major)
    (h₂ : Numeric minor) (h₃ : Numeric patch) :
    isCore (['.'].intercalate [major, minor, patch]) = true := by
  have free : ∀ part ∈ [major, minor, patch], '.' ∉ part := by
    intro part hp point
    have digit : '.'.isDigit = true := by
      rcases List.mem_cons.mp hp with rfl | hp
      · exact h₁.1 _ point
      rcases List.mem_cons.mp hp with rfl | hp
      · exact h₂.1 _ point
      · obtain rfl := List.mem_singleton.mp hp
        exact h₃.1 _ point
    exact absurd digit (by decide)
  rw [isCore, Text.split_intercalate (by simp) free]
  simp [isNumeric_iff.mpr h₁, isNumeric_iff.mpr h₂, isNumeric_iff.mpr h₃]

/-- The characters of a core are points and digits. -/
theorem not_mem_core {major minor patch : List Char} (h₁ : Numeric major) (h₂ : Numeric minor)
    (h₃ : Numeric patch) {mark : Char} (point : mark ≠ '.') (digit : mark.isDigit = false) :
    mark ∉ ['.'].intercalate [major, minor, patch] := by
  intro h
  rcases mem_intercalate h with rfl | ⟨part, hp, hc⟩
  · exact point rfl
  · have digits : ∀ c ∈ part, c.isDigit = true := by
      rcases List.mem_cons.mp hp with rfl | hp
      · exact h₁.1
      rcases List.mem_cons.mp hp with rfl | hp
      · exact h₂.1
      · obtain rfl := List.mem_singleton.mp hp
        exact h₃.1
    rw [digits mark hc] at digit
    cases digit

theorem all_split {P : List Char → Prop} {p : List Char → Bool} (ge : ∀ part, P part → p part = true)
    (identifiers : ∀ part, P part → Identifier part) {parts : List (List Char)}
    (nonempty : parts ≠ []) (each : ∀ part ∈ parts, P part) :
    (Text.split '.' (['.'].intercalate parts)).all p = true := by
  rw [Text.split_intercalate nonempty fun part hp =>
    (not_mem_of_identifier (identifiers part (each part hp))).1]
  exact List.all_eq_true.mpr fun part hp => ge part (each part hp)

theorem isRelease_append {core prerelease : List Char} (hc : isCore core = true)
    (free : '-' ∉ core) (hp : Suffix '-' PrereleaseIdentifier prerelease) :
    isRelease (core ++ prerelease) = true := by
  cases hp with
  | absent =>
    have cut := Text.cut_rejoin free none
    simp only [Text.rejoin] at cut
    simp [isRelease, cut, hc]
  | marked parts nonempty each =>
    have cut := Text.cut_rejoin free (some (['.'].intercalate parts))
    simp only [Text.rejoin] at cut
    have all := all_split (fun _ => isPrereleaseIdentifier_iff.mpr) (fun _ h => h.1) nonempty each
    simp [isRelease, cut, hc, all]

theorem plus_not_mem {prerelease : List Char} (h : Suffix '-' PrereleaseIdentifier prerelease) :
    '+' ∉ prerelease := by
  cases h with
  | absent => simp
  | marked parts nonempty each =>
    intro plus
    rcases List.mem_cons.mp plus with hyphen | plus
    · exact absurd hyphen (by decide)
    rcases mem_intercalate plus with point | ⟨part, hp, hc⟩
    · exact absurd point (by decide)
    · exact (not_mem_of_identifier (each part hp).1).2 hc

/-- Every semantic version is accepted. -/
theorem accepts_of_version {cs : List Char} (h : Version cs) : accepts cs = true := by
  obtain ⟨major, minor, patch, prerelease, build, h₁, h₂, h₃, hp, hb, rfl⟩ := h
  have release := isRelease_append (isCore_of_numeric h₁ h₂ h₃)
    (not_mem_core h₁ h₂ h₃ (by decide) (by decide)) hp
  have free : '+' ∉ ['.'].intercalate [major, minor, patch] ++ prerelease := by
    rw [List.mem_append, not_or]
    exact ⟨not_mem_core h₁ h₂ h₃ (by decide) (by decide), plus_not_mem hp⟩
  cases hb with
  | absent =>
    have cut := Text.cut_rejoin free none
    simp only [Text.rejoin] at cut
    simp only [accepts, List.append_nil, cut, release]
  | marked parts nonempty each =>
    have cut := Text.cut_rejoin free (some (['.'].intercalate parts))
    simp only [Text.rejoin] at cut
    have all := all_split (fun _ => isBuildIdentifier_iff.mpr) (fun _ h => h) nonempty each
    simp only [accepts, cut, release, all, Bool.and_self]

theorem accepts_iff {cs : List Char} : accepts cs = true ↔ Version cs :=
  ⟨version_of_accepts, accepts_of_version⟩

end SemVer

end ShapedTree
