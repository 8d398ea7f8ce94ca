import ShapedTree.Proofs.Schema.RegistrationOrder
import ShapedTree.Proofs.Validation.NodeEcho

namespace ShapedTree

open Validation

/-- Rules that differ in the arrangement of the registry and in when runs stop. -/
structure Rules.Rearranged (rules rules' : Rules) : Prop where
  registry : rules.registry.Rearranged rules'.registry
  unknownFields : rules.unknownFields = rules'.unknownFields
  maxDepth : rules.maxDepth = rules'.maxDepth

theorem Rules.Rearranged.symm {rules rules' : Rules} (h : rules.Rearranged rules') :
    rules'.Rearranged rules :=
  ⟨h.registry.symm, h.unknownFields.symm, h.maxDepth.symm⟩

namespace Validation

variable {rules rules' : Rules} {schema : Schema} {record record' : Entries Value}

theorem readKey_reordered {es fs : Entries Value} (h : es.Reordered fs)
    (key : String) : Option.Rel Value.Reordered (readKey es key) (readKey fs key) := by
  have held := h.lookup key
  unfold readKey
  generalize es.lookup key = left, fs.lookup key = right at held ⊢
  cases held with
  | none => exact .none
  | @some v w alike =>
    rw [Option.filter_some, Option.filter_some, alike.isUndefined_eq]
    split
    next => exact .some alike
    next => exact .none

theorem typeFits_reordered (h : record.Reordered record') (fits : TypeFits schema record) :
    TypeFits schema record' := by
  intro membership type' choice named'
  have named := readKey_reordered h "type"
  rw [named'] at named
  generalize left : readKey record "type" = type at named
  cases named with
  | some alike => rw [← alike.same_eq]; exact fits membership _ choice left

theorem keysFit_reordered (mode : rules.unknownFields = rules'.unknownFields)
    (h : record.Reordered record') (fits : KeysFit rules schema record) :
    KeysFit rules' schema record' := by
  intro strict f hf
  have known : f.1 ∈ record.map Prod.fst :=
    h.matched.keys_perm.mem_iff.mpr (List.mem_map_of_mem hf)
  obtain ⟨e, he, same⟩ := List.mem_map.mp known
  rw [← same]
  exact fits (mode.trans strict) e he

theorem recordsAlike_of_reordered (mode : rules.unknownFields = rules'.unknownFields)
    (h : record.Reordered record') :
    RecordsAlike rules rules' (fun _ => Value.Reordered) schema record record' :=
  ⟨fun spec _ => ⟨readKey_reordered h spec.name, fun _ v _ _ => .refl v⟩, typeFits_reordered h,
    keysFit_reordered mode h⟩

end Validation

namespace Choice

variable {raw raw' : Value}

theorem namedType?_reordered (alike : raw.Reordered raw') :
    Option.Rel Value.Reordered (namedType? raw) (namedType? raw') := by
  have shapes := alike.entries?
  rw [namedType?_eq, namedType?_eq]
  generalize raw.entries? = left, raw'.entries? = right at shapes ⊢
  cases shapes with
  | none => exact .none
  | some entries => exact readKey_reordered entries "type"

theorem member?_reordered (members : List (String × String)) (alike : raw.Reordered raw') :
    member? members raw = member? members raw' := by
  cases alike <;> rfl

theorem isEmptyRecord_reordered (alike : raw.Reordered raw') :
    isEmptyRecord raw = isEmptyRecord raw' := by
  have shapes := alike.entries?
  unfold isEmptyRecord
  generalize raw.entries? = left, raw'.entries? = right at shapes ⊢
  cases shapes with
  | none => rfl
  | @some es fs entries =>
    have length := entries.matched.keys_perm.length_eq
    cases es <;> cases fs <;> first | rfl | simp at length

theorem alike_of_reordered (members : List (String × String)) (alike : raw.Reordered raw') :
    Alike (fun _ => Value.Reordered) members raw raw' where
  named := optionRel_mono (fun _ _ => member?_reordered members) (namedType?_reordered alike)
  tried _ _ := alike
  empty _ := isEmptyRecord_reordered alike

end Choice

namespace Rules.Rearranged

variable {rules rules' : Rules}

theorem likens (h : rules.Rearranged rules') : rules.Likens rules' fun _ => Value.Reordered where
  kinds := h.registry.kinds
  found := h.registry.found
  maxDepth := h.maxDepth
  unknownFields strict := h.unknownFields.trans strict
  left _ := .refl _
  isNull alike := alike.isNull_eq
  isUndefined alike := alike.isUndefined_eq
  verdict _ _ alike := BuiltinKind.verdict_reordered _ _ alike
  target _ _ alike := alike
  group _ _ alike := alike
  items _ alike := alike.items?
  keys _ _ _ _ _ := .refl _
  entries _ alike := optionRel_mono (fun _ _ entries => entries.matched) alike.entries?
  form _ alike := ⟨alike.isPrimitive_eq, alike⟩
  records _ alike :=
    optionRel_mono (fun _ _ => recordsAlike_of_reordered h.unknownFields) alike.entries?
  shortform _ alike _ _ := alike
  expanded _ _ _ _ _ := recordsAlike_of_reordered h.unknownFields (.refl _)

theorem agree (h : rules.Rearranged rules') : rules.Agree rules' fun _ => Value.Reordered where
  forth := h.likens
  back := h.symm.likens
  symm := .symm
  members := h.registry.members
  typed := h.registry.typed
  choice := Choice.alike_of_reordered _

end Rules.Rearranged

namespace Registry

variable {r r' : Registry} {memory memory' : Memory} {raw raw' : Value} {schema : String}
  {o : ValidateOptions}

/-- What is valid in one arrangement is valid in another one, as the same node, if the validations
come to results. -/
theorem Rearranged.valid_iff (rearranged : r.Rearranged r')
    (plain : r.Every (FieldSpec.Memoryless r.kinds))
    (plain' : r'.Every (FieldSpec.Memoryless r'.kinds)) (alike : raw.Reordered raw')
    {result result' : ValidationResult}
    (first : (r.validate memory raw schema o).result = .ok result)
    (second : (r'.validate memory' raw' schema o).result = .ok result') (n : Node) :
    result = .valid n ↔ result' = .valid n :=
  have rules : (o.rules r).Rearranged (o.rules r') := ⟨rearranged, rfl, rfl⟩
  valid_iff_of_agree rules.agree plain plain' alike first second n

end Registry

end ShapedTree
