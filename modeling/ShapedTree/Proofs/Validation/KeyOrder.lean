import ShapedTree.Proofs.Validation.Arrangement

namespace ShapedTree

/-- Of two raw values that differ only in the order in which records list their keys, at any depth,
both are valid or neither is, and they are valid as one and the same node. -/
theorem Registry.valid_iff_of_reordered {r : Registry}
    (builtin : r.Every (FieldSpec.Builtin r.kinds)) (fixed : r.Every FieldSpec.FixedPattern)
    (steady : r.Every FieldSpec.PureDefault) {raw raw' : Value} (alike : raw.Reordered raw')
    {memory memory' : Memory} {schema : String} {o : ValidateOptions}
    {result result' : ValidationResult}
    (first : (r.validate memory raw schema o).result = .ok result)
    (second : (r.validate memory' raw' schema o).result = .ok result') :
    ∀ n, result = .valid n ↔ result' = .valid n := by
  have plain : r.Every (FieldSpec.Memoryless r.kinds) := fun s hs top ht part hp =>
    ⟨builtin s hs top ht part hp, fixed s hs top ht part hp, steady s hs top ht part hp⟩
  exact (Rearranged.refl r).valid_iff plain plain alike first second

namespace Shelves

def shelf : Schema where
  name := "shelf"
  fields := [
    .mapping { name := "volumes", kind := "mapping" }
      (.leaf { name := "place", kind := "integerstring" })
      (.leaf { name := "volume", kind := "choice", constraints := { choice := some "part" } }),
    .leaf { name := "remarks", kind := "json" }]
  info := {}

/-- A registry of shelves, on which volumes stand under the integers of their places. -/
def registry : Registry where
  kinds := .builtin
  schemas := [Library.chapter, Library.note, shelf]
  choices := [("part", [("chapter", "chapter"), ("note", "note")])]
  frozen := true

theorem registry_builtin : registry.Every (FieldSpec.Builtin registry.kinds) := by
  simp only [Registry.Every, FieldSpec.Every, registry, Library.chapter, Library.note, shelf,
    Schema.allFields, Library.textField, FieldSpec.walk, List.forall_mem_cons, Option.map_none,
    Option.toList_none, List.append_nil, List.not_mem_nil, false_imp_iff, implies_true, and_true,
    List.cons_append, List.nil_append]
  exact ⟨⟨⟨.string, rfl, rfl⟩, ⟨.json, rfl, rfl⟩⟩, ⟨.string, rfl, rfl⟩,
    ⟨⟨.mapping, rfl, rfl⟩, ⟨.integerText, rfl, rfl⟩, ⟨.choice, rfl, rfl⟩⟩, ⟨.json, rfl, rfl⟩⟩

theorem registry_plain : registry.Every fun s => s.FixedPattern ∧ s.PureDefault := by
  simp [Registry.Every, FieldSpec.Every, registry, Library.chapter, Library.note, shelf,
    Schema.allFields, Library.textField, FieldSpec.walk, FieldSpec.FixedPattern,
    FieldSpec.PureDefault, FieldSpec.info]

/-- A chapter and a note, in the order in which they stand. -/
def ordered : Value := .record [
  ("volumes", .record [
    ("2", .record [("title", .text "Oak")] true),
    ("10", .record [("type", .text "note"), ("text", .text "Burnt.")] true)] true),
  ("remarks", .record [("a", .null), ("b", .list [])] true)] true

/-- The same with every record listed backwards. -/
def backwards : Value := .record [
  ("remarks", .record [("b", .list []), ("a", .null)] true),
  ("volumes", .record [
    ("10", .record [("text", .text "Burnt."), ("type", .text "note")] true),
    ("2", .record [("title", .text "Oak")] true)] true)] true

theorem ordered_reordered : ordered.Reordered backwards := by
  have pair : ∀ {k l : String} {v w : Value} {v' w' : Value}, k ≠ l → v.Reordered v' →
      w.Reordered w' →
      Value.Reordered (.record [(k, v), (l, w)] true) (.record [(l, w'), (k, v')] true) := by
    intro k l v w v' w' apart hv hw
    refine .record (by simpa using apart) (.swap l k []) fun key a b ha hb => ?_
    simp only [List.mem_cons, Prod.mk.injEq, List.not_mem_nil, or_false] at ha hb
    rcases ha with ⟨rfl, rfl⟩ | ⟨rfl, rfl⟩ <;> rcases hb with ⟨same, rfl⟩ | ⟨same, rfl⟩
    · exact absurd same apart
    · exact hv
    · exact hw
    · exact absurd same.symm apart
  refine pair (by decide) (pair (by decide) (.refl _) ?_) (pair (by decide) (.refl _) (.refl _))
  exact pair (by decide) (.refl _) (.refl _)

def oak : Value := .node ⟨"chapter", [("title", .text "Oak"), ("label", .list [.text "Oak"])],
  ["label"], some "chapter", []⟩

def burnt : Value := .node ⟨"note", [("text", .text "Burnt.")], [], some "note", []⟩

/-- A shelf with these volumes and remarks. -/
def filled (volumes remarks : Entries Value) : Node where
  schema := "shelf"
  values := [("volumes", .record volumes true), ("remarks", .record remarks true)]
  defaulted := []
  choiceType := none
  compactable := []

def stored : Node := filled [("2", oak), ("10", burnt)] [("a", .null), ("b", .list [])]

set_option maxRecDepth 4000 in
theorem validate_ordered :
    (registry.validate [] ordered "shelf" {}).result = .ok (.valid stored) := by
  have volumes : Kind.sortMapping true [("2", oak), ("10", burnt)] =
      [("2", oak), ("10", burnt)] := by
    rw [Kind.sortMapping, if_pos rfl, List.mergeSort_of_pairwise (by simp; rfl)]
    rfl
  have remarks : Value.sortEntries [("a", .null), ("b", .list [])] =
      [("a", .null), ("b", .list [])] := by
    rw [Value.sortEntries, List.mergeSort_of_pairwise (by simp; rfl)]
    rfl
  rw [stored, ← volumes, ← remarks]
  rfl

/-- Volumes and remarks listed backwards are stored in order. -/
theorem backwards_stored : ordered.Reordered backwards ∧
    (registry.validate [] ordered "shelf" {}).result = .ok (.valid stored) ∧
    ∃ result, (registry.validate [] backwards "shelf" {}).result = .ok result ∧
      ∀ n, ValidationResult.valid stored = .valid n ↔ result = .valid n := by
  have returned : (registry.validate [] backwards "shelf" {}).result = .ok (.valid (filled
      (Kind.sortMapping true [("2", oak), ("10", burnt)])
      (Value.sortEntries [("b", .list []), ("a", .null)]))) := rfl
  exact ⟨ordered_reordered, validate_ordered, _, returned, Registry.valid_iff_of_reordered
    registry_builtin (registry_plain.mono fun _ h => h.1) (registry_plain.mono fun _ h => h.2)
    ordered_reordered validate_ordered returned⟩

end Shelves

end ShapedTree
