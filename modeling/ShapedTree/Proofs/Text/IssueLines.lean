import ShapedTree.Issue
import ShapedTree.Proofs.Text.Lines

namespace ShapedTree

open Text

theorem Text.oneLine_around {before s after : String} (hb : OneLine before) (hs : OneLine s)
    (ha : OneLine after) : OneLine (before ++ s ++ after) :=
  oneLine_append.mpr ⟨oneLine_append.mpr ⟨hb, hs⟩, ha⟩

theorem Text.oneLine_none : ∀ t ∈ (none : Option String), OneLine t := nofun

theorem Text.oneLine_some {s : String} (h : OneLine s) : ∀ t ∈ some s, OneLine t := by
  rintro t ⟨⟩
  exact h

/-- Every segment of a path is of one line. -/
def OneLinePath (path : List String) : Prop := ∀ segment ∈ path, OneLine segment

namespace OneLinePath

variable {path : List String}

theorem text (h : OneLinePath path) : OneLine (pathText path) := by
  unfold pathText
  split
  · decide
  · exact oneLine_intercalate (by decide) h

theorem extend (h : OneLinePath path) {label : String} (hl : OneLine label) :
    OneLinePath (extendPath path label) := by
  unfold extendPath
  split
  · exact h
  · split
    · exact List.forall_mem_singleton.mpr hl
    next last lastly =>
      refine List.forall_mem_append.mpr
        ⟨fun segment hs => h segment (List.mem_of_mem_dropLast hs), ?_⟩
      exact List.forall_mem_singleton.mpr
        (oneLine_append.mpr ⟨h last (List.mem_of_getLast? lastly), hl⟩)

theorem field (h : OneLinePath path) {schema name : String} (hs : OneLine schema)
    (hn : OneLine name) : OneLinePath (path ++ [s!"{schema}.{name}"]) :=
  List.forall_mem_append.mpr
    ⟨h, List.forall_mem_singleton.mpr (oneLine_append.mpr ⟨oneLine_append.mpr ⟨hs, by decide⟩, hn⟩)⟩

end OneLinePath

namespace Finding

/-- The texts of the input that a finding pastes as they are: a value that is no option, one that
spells a number, a key that occurs again. -/
inductive Pastes : Finding → String → Prop
  | option {s : String} {options : List String} {suggestion : Option String} :
      Pastes (.violation
        s!"the value '{s}' is not valid. Valid values are: {Fault.quoteList options}" suggestion) s
  | numeral {message s : String} {n : Number} :
      Pastes (.mismatch message (some s!"Use the number {n.text} instead of the string \"{s}\".")) s
  | key {k : String} :
      Pastes (.violation s!"after normalizing, the key '{k}' occurs more than once" none) k

/-- A finding is worded on one line. -/
structure OnOneLine (f : Finding) : Prop where
  message : OneLine f.message
  suggestion : ∀ s ∈ f.suggestion, OneLine s

/-- A finding is on one line if the texts that it pastes are. -/
def Readable (f : Finding) : Prop := (∀ s, f.Pastes s → OneLine s) → f.OnOneLine

/-- The texts that a finding on one line pastes are of one line. -/
theorem OnOneLine.pasted {f : Finding} (h : f.OnOneLine) {s : String} (pastes : f.Pastes s) :
    OneLine s := by
  cases pastes with
  | option =>
    have message := h.message
    simp only [violation, oneLine_append] at message
    exact message.1.1.2
  | numeral =>
    have suggestion := h.suggestion _ rfl
    simp only [oneLine_append] at suggestion
    exact suggestion.1.2
  | key =>
    have message := h.message
    simp only [violation, oneLine_append] at message
    exact message.1.2

end Finding

namespace Issue

/-- The texts of the input that an issue pastes as they are: those of a finding, and a key that a
schema does not declare. -/
inductive Pastes : Issue → String → Prop
  | finding {path : List String} {f : Finding} {received : Option String} {s : String}
      (h : f.Pastes s) : Pastes ⟨path, f.kind, f.message, f.suggestion, received⟩ s
  | key {path : List String} {schema key : String} {suggestion received : Option String} :
      Pastes ⟨path ++ [s!"{schema}.{key}"], .unknownField,
        s!"the field '{key}' is not declared by schema '{schema}'", suggestion, received⟩ key

theorem oneLine_format {i : Issue} : OneLine i.format ↔
    OneLine (pathText i.path) ∧ Finding.OnOneLine ⟨i.kind, i.message, i.suggestion⟩ := by
  have kind : OneLine i.kind.text := by cases i.kind <;> decide
  have line : OneLine s!"[{i.kind.text}] {pathText i.path}: {i.message}" ↔
      OneLine (pathText i.path) ∧ OneLine i.message := by
    simp only [oneLine_append]
    constructor
    · rintro ⟨⟨⟨-, path⟩, -⟩, message⟩
      exact ⟨path, message⟩
    · rintro ⟨path, message⟩
      exact ⟨⟨⟨⟨⟨by decide, kind⟩, by decide⟩, path⟩, by decide⟩, message⟩
  have split : OneLine i.format ↔ OneLine s!"[{i.kind.text}] {pathText i.path}: {i.message}" ∧
      ∀ s ∈ i.suggestion, OneLine s := by
    unfold format
    cases i.suggestion with
    | none => exact ⟨fun h => ⟨h, oneLine_none⟩, And.left⟩
    | some suggestion =>
      have only : (∀ s ∈ some suggestion, OneLine s) ↔ OneLine suggestion :=
        ⟨fun h => h _ rfl, oneLine_some⟩
      rw [only]
      simp only
      split
      next empty => exact ⟨fun h => ⟨h, empty ▸ by decide⟩, And.left⟩
      next =>
        rw [oneLine_append, oneLine_append]
        exact ⟨fun h => ⟨h.1.1, h.2⟩, fun h => ⟨⟨h.1, by decide⟩, h.2⟩⟩
  rw [split, line, and_assoc]
  exact and_congr_right fun _ => ⟨fun h => ⟨h.1, h.2⟩, fun h => ⟨h.message, h.suggestion⟩⟩

/-- The texts that an issue on one line pastes are of one line. -/
theorem oneLine_pasted {i : Issue} (h : OneLine i.format) {s : String} (pastes : i.Pastes s) :
    OneLine s := by
  have words := (oneLine_format.mp h).2
  cases pastes with
  | finding pastes => exact words.pasted pastes
  | key =>
    have message := words.message
    simp only [oneLine_append] at message
    exact message.1.1.1.2

/-- An issue is on one line if the texts that it pastes are. -/
def Readable (i : Issue) : Prop := (∀ s, i.Pastes s → OneLine s) → OneLine i.format

theorem readable_of_finding {path : List String} (hp : OneLinePath path) {f : Finding}
    (hf : f.Readable) (received : Option String) :
    Readable ⟨path, f.kind, f.message, f.suggestion, received⟩ := fun pasted =>
  oneLine_format.mpr ⟨hp.text, hf fun s pastes => pasted s (.finding pastes)⟩

/-- An issue about a key that is not declared can be read, where the schema's texts are of one line.
-/
theorem readable_of_key {path : List String} (hp : OneLinePath path) {schema key : String}
    (hs : OneLine schema) {suggestion : Option String} (hq : ∀ s ∈ suggestion, OneLine s)
    (received : Option String) :
    Readable ⟨path ++ [s!"{schema}.{key}"], .unknownField,
      s!"the field '{key}' is not declared by schema '{schema}'", suggestion, received⟩ := by
  intro pasted
  have hk : OneLine key := pasted key .key
  refine oneLine_format.mpr ⟨(hp.field hs hk).text, ?_, hq⟩
  exact oneLine_around (oneLine_around (by decide) hk (by decide)) hs (by decide)

end Issue

end ShapedTree
