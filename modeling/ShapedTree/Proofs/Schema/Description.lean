import ShapedTree.Description
import ShapedTree.Proofs.Run.Ensures
import ShapedTree.Proofs.Schema.Calls
import ShapedTree.Proofs.Schema.References
import ShapedTree.Proofs.Validation.Acceptance

namespace ShapedTree

namespace Run

open ShapedTree.Computation

variable {α β : Type}

theorem Returns.mapM {f : α → Run β} {R : α → β → Prop} (h : ∀ a, Returns (f a) (R a))
    (as : List α) : Returns (as.mapM f) (List.Forall₂ R as) := by
  induction as with
  | nil => exact .pure .nil
  | cons a as ih =>
    rw [List.mapM_cons]
    exact (h a).bind_of fun b hb => ih.bind_of fun bs hbs => .pure (.cons hb hbs)

/-- From every state a computation comes to a result. -/
def Total (x : Run α) : Prop := ∀ s, ∃ a t, x s = (.ok a, t)

namespace Total

theorem pure (a : α) : Total (pure a) := fun s => ⟨a, s, rfl⟩

theorem bind {x : Run α} {f : α → Run β} (hx : Total x) (hf : ∀ a, Total (f a)) :
    Total (x >>= f) := by
  intro s
  obtain ⟨a, t, run⟩ := hx s
  rw [bind_of_ok run]
  exact hf a t

theorem lift {e : Except Fault α} (h : ∃ a, e = .ok a) : Total (liftM e) := by
  obtain ⟨a, rfl⟩ := h
  exact fun s => ⟨a, s, rfl⟩

theorem get : Total (get : Run RunState) := fun s => ⟨s, s, rfl⟩

theorem modify (f : RunState → RunState) : Total (modify f : Run Unit) := fun s => ⟨(), f s, rfl⟩

theorem mapM {f : α → Run β} {as : List α} (h : ∀ a ∈ as, Total (f a)) : Total (as.mapM f) := by
  induction as with
  | nil => exact .pure []
  | cons a as ih =>
    rw [List.mapM_cons]
    obtain ⟨first, rest⟩ := List.forall_mem_cons.mp h
    exact first.bind fun _ => (ih rest).bind fun _ => .pure _

end Total

end Run

namespace Description

open Run

variable {r : Registry}

theorem mem_unique {s : String} {ss : List String} : s ∈ unique ss ↔ s ∈ ss := by
  unfold unique Text.sortByUnits
  rw [(List.mergeSort_perm _ _).mem_iff, List.mem_eraseDups]

theorem references_eq (spec : FieldSpec) :
    references r spec = ownReferences r spec ++ spec.parts.flatMap (references r) := by
  cases spec <;> simp [references, FieldSpec.parts]

/-- A specification refers to what it names itself and to what its parts refer to. -/
theorem mem_references_iff {spec : FieldSpec} {name : String} :
    name ∈ references r spec ↔ ∃ part ∈ spec.walk, name ∈ ownReferences r part := by
  induction spec using FieldSpec.induction_parts with
  | h spec ih =>
    rw [references_eq, FieldSpec.walk_eq, List.mem_append, List.mem_flatMap,
      List.exists_mem_cons_iff]
    refine or_congr_right ?_
    constructor
    · rintro ⟨part, hpart, named⟩
      obtain ⟨below, hbelow, own⟩ := (ih part hpart).mp named
      exact ⟨below, List.mem_flatMap.mpr ⟨part, hpart, hbelow⟩, own⟩
    · rintro ⟨below, hbelow, own⟩
      obtain ⟨part, hpart, hbelow⟩ := List.mem_flatMap.mp hbelow
      exact ⟨part, hpart, (ih part hpart).mpr ⟨below, hbelow, own⟩⟩

theorem target_mem_ownReferences {spec : FieldSpec} {target : String}
    (kind : spec.kind = BuiltinKind.node.tag) (named : spec.info.constraints.target = some target) :
    target ∈ ownReferences r spec := by
  have kind : spec.kind = "node" := kind
  simp [ownReferences, named, kind]

theorem member_mem_ownReferences {spec : FieldSpec} {group type name : String}
    (kind : spec.kind = BuiltinKind.choice.tag) (named : spec.info.constraints.choice = some group)
    (member : (type, name) ∈ r.choiceMembers group) : name ∈ ownReferences r spec := by
  have kind : spec.kind = "choice" := kind
  simp only [ownReferences, named, kind, if_true]
  exact List.mem_append_right _ (List.mem_map.mpr ⟨_, member, rfl⟩)

/-- What a specification names itself, once nothing that it names is lacking, is registered. -/
theorem has_of_mem_ownReferences (coherent : r.Coherent) {spec : FieldSpec}
    (resolves : r.Resolves spec) {name : String} (named : name ∈ ownReferences r spec) :
    r.has name = true := by
  unfold ownReferences at named
  simp only [List.mem_append] at named
  rcases named with target | member
  · split at target
    next name' given =>
      split at target
      next kind =>
        rw [List.mem_singleton.mp target]
        exact resolves.target kind name' given
      next => cases target
    next => cases target
  · split at member
    next group _ =>
      split at member
      next =>
        obtain ⟨⟨type, name'⟩, listed, rfl⟩ := List.mem_map.mp member
        obtain ⟨s, found, -⟩ := (coherent.member_iff group type name').mp listed
        rw [Registry.has, found]
        rfl
      next => cases member
    next => cases member

/-- A description agrees with the schema that it describes. -/
structure Portrays (r : Registry) (name : String) (d : SchemaDescription) (s : Schema) : Prop where
  found : r.find? name = some s
  fields : List.Forall₂ (fun spec field => field.name = spec.name ∧
    field.references = unique (references r spec)) s.fields d.fields
  references : d.references = unique (d.fields.flatMap FieldDescription.references)
  referencedBy :
    d.referencedBy = unique ((r.schemas.filter fun t => refersTo r t name).map Schema.name)

theorem describeField_returns (spec : FieldSpec) :
    Returns (describeField r spec) fun d => d.name = spec.name ∧
      d.references = unique (references r spec) := by
  unfold describeField
  exact .bind fun _ => .pure ⟨rfl, rfl⟩

theorem lookup_eq_ok {name : String} {s : Schema} :
    r.lookup name = .ok s ↔ r.find? name = some s := by
  unfold Registry.lookup
  cases r.find? name <;> simp

theorem describeSchema_returns (name : String) :
    Returns (describeSchema r name) fun d => ∃ s, Portrays r name d s := by
  unfold describeSchema
  refine (Returns.lift (r.lookup name)).bind_of fun s found => ?_
  have registered : r.find? name = some s := lookup_eq_ok.mp found
  refine (Returns.mapM describeField_returns s.fields).bind_of fun fields described => ?_
  refine .pure ⟨s, registered, described, rfl, ?_⟩
  rw [Registry.name_of_find? registered]

namespace Portrays

variable {name reference : String} {d : SchemaDescription} {s : Schema}

theorem field (h : Portrays r name d s) {spec : FieldSpec} (declared : spec ∈ s.fields) :
    ∃ field ∈ d.fields, field.name = spec.name ∧
      ∀ reference, reference ∈ field.references ↔ reference ∈ Description.references r spec := by
  obtain ⟨field, listed, named, own⟩ := exists_left_of_mem h.fields.flip spec declared
  exact ⟨field, listed, named, fun reference => by rw [own, mem_unique]⟩

theorem mem_references (h : Portrays r name d s) :
    reference ∈ d.references ↔ refersTo r s reference = true := by
  rw [h.references, mem_unique, List.mem_flatMap, refersTo, List.any_eq_true]
  constructor
  · rintro ⟨field, listed, named⟩
    obtain ⟨spec, declared, -, own⟩ := exists_left_of_mem h.fields field listed
    rw [own, mem_unique] at named
    exact ⟨spec, declared, List.contains_iff_mem.mpr named⟩
  · rintro ⟨spec, declared, named⟩
    obtain ⟨field, listed, -, own⟩ := h.field declared
    exact ⟨field, listed, (own reference).mpr (List.contains_iff_mem.mp named)⟩

theorem mem_referencedBy (h : Portrays r name d s) (coherent : r.Coherent) {referring : String} :
    referring ∈ d.referencedBy ↔
      ∃ t, r.find? referring = some t ∧ refersTo r t name = true := by
  rw [h.referencedBy, mem_unique, List.mem_map]
  constructor
  · rintro ⟨t, ht, rfl⟩
    obtain ⟨registered, refers⟩ := List.mem_filter.mp ht
    exact ⟨t, coherent.find?_eq_some.mpr ⟨registered, rfl⟩, refers⟩
  · rintro ⟨t, found, refers⟩
    obtain ⟨registered, named⟩ := coherent.find?_eq_some.mp found
    exact ⟨t, List.mem_filter.mpr ⟨registered, refers⟩, named⟩

end Portrays

/-- Descriptions of a frozen registry refer to registered schemas only. -/
theorem describeSchema_registered (made : r.Made) (frozen : r.frozen = true) (name : String) :
    Returns (describeSchema r name) fun d =>
      ∀ reference ∈ d.references, r.has reference = true := by
  intro s d t run
  obtain ⟨schema, portrays⟩ := describeSchema_returns name s d t run
  intro reference hr
  obtain ⟨spec, hspec, named⟩ := List.any_eq_true.mp (portrays.mem_references.mp hr)
  obtain ⟨part, hpart, named⟩ := mem_references_iff.mp (List.contains_iff_mem.mp named)
  exact has_of_mem_ownReferences made.coherent
    ((made.resolved frozen).field portrays.found hspec part hpart) named

/-- One schema refers to another exactly if the other one is referred to by the first. -/
theorem references_iff_referencedBy (coherent : r.Coherent) (a b : String) :
    Returns (describeSchema r a) fun d => Returns (describeSchema r b) fun e =>
      (b ∈ d.references ↔ a ∈ e.referencedBy) := by
  intro s d t run s' e t' run'
  obtain ⟨A, first⟩ := describeSchema_returns a s d t run
  obtain ⟨B, second⟩ := describeSchema_returns b s' e t' run'
  rw [first.mem_references, second.mem_referencedBy coherent, first.found]
  simp

/-- A default that is a value, is computed, or is made by a factory that returns. -/
def Describable : FieldDefault → Prop
  | .constant _ | .computed _ => True
  | .factory made => ∃ v, made = .ok v
  | .counting _ make => ∀ count, ∃ v, make count = .ok v

theorem produce_total {d : FieldDefault} (h : Describable d) : Total (produce d) := by
  cases d with
  | constant v => exact .pure _
  | computed generate => exact .pure _
  | factory made => exact (Total.lift h).bind fun _ => .pure _
  | counting cell make =>
    refine Total.get.bind fun s => (Total.modify _).bind fun _ => ?_
    exact (Total.lift (h _)).bind fun _ => .pure _

/-- A registered schema whose factories return has a description. -/
theorem describeSchema_total {name : String} {s : Schema} (found : r.find? name = some s)
    (defaults : ∀ spec ∈ s.fields, ∀ d, spec.info.default? = some d → Describable d) :
    Total (describeSchema r name) := by
  have default : ∀ spec ∈ s.fields, Total (describeDefault spec.info.default?) := by
    intro spec declared
    unfold describeDefault
    split
    next => exact .pure _
    next d given =>
      refine (produce_total (defaults spec declared d given)).bind fun made => ?_
      cases made <;> exact .pure _
  unfold describeSchema
  rw [lookup_eq_ok.mpr found]
  show Total ((pure s : Run Schema) >>= _)
  rw [pure_bind]
  refine (Total.mapM fun spec declared => ?_).bind fun _ => .pure _
  exact (default spec declared).bind fun _ => .pure _

end Description

end ShapedTree
