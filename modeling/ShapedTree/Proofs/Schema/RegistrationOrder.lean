import Mathlib.Data.List.Perm.Basic
import ShapedTree.Proofs.Schema.Calls
import ShapedTree.Proofs.Schema.Occurrences

namespace ShapedTree

namespace Registry

/-- The registries know the same kinds, find the same schemas and list the same members of every
choice group, in any order. -/
structure Rearranged (r r' : Registry) : Prop where
  kinds : r.kinds = r'.kinds
  found : ∀ name, r.find? name = r'.find? name
  members : ∀ group, (r.choiceMembers group).Perm (r'.choiceMembers group)
  typed : ∀ group type,
    (r.choiceMembers group).lookup type = (r'.choiceMembers group).lookup type

namespace Rearranged

variable {r r' : Registry}

theorem refl (r : Registry) : r.Rearranged r :=
  ⟨rfl, fun _ => rfl, fun _ => .refl _, fun _ _ => rfl⟩

theorem symm (h : r.Rearranged r') : r'.Rearranged r :=
  ⟨h.kinds.symm, fun name => (h.found name).symm, fun group => (h.members group).symm,
    fun group type => (h.typed group type).symm⟩

theorem frozen (h : r.Rearranged r') (b b' : Bool) :
    Rearranged { r with frozen := b } { r' with frozen := b' } :=
  ⟨h.kinds, h.found, h.members, h.typed⟩

/-- Registries with the same schemas in any order. -/
theorem of_perm (made : r.Made) (made' : r'.Made) (kinds : r.kinds = r'.kinds)
    (schemas : r.schemas.Perm r'.schemas) : r.Rearranged r' := by
  have coherent := made.coherent
  have coherent' := made'.coherent
  have found : ∀ name, r.find? name = r'.find? name := by
    intro name
    refine Option.ext fun s => ?_
    rw [coherent.find?_eq_some, coherent'.find?_eq_some, schemas.mem_iff]
  have members : ∀ group, (r.choiceMembers group).Perm (r'.choiceMembers group) := by
    intro group
    refine (List.perm_ext_iff_of_nodup (coherent.types group).of_map
      (coherent'.types group).of_map).mpr fun (type, name) => ?_
    rw [coherent.member_iff, coherent'.member_iff, found]
  exact ⟨kinds, found, members, fun group type =>
    (Entries.lookup_perm (coherent.types group) (members group) type).symm⟩

theorem has_eq (h : r.Rearranged r') (name : String) : r.has name = r'.has name := by
  rw [has, has, h.found]

theorem hasChoice_eq (h : r.Rearranged r') (made : r.Made) (made' : r'.Made) (group : String) :
    r.hasChoice group = r'.hasChoice group := by
  have empty : r.choiceMembers group = [] ↔ r'.choiceMembers group = [] := by
    rw [← List.perm_nil, ← List.perm_nil]
    exact (h.members group).congr_left []
  rw [Bool.eq_iff_iff, made.hasChoice_iff, made'.hasChoice_iff, ne_eq, ne_eq, empty]

theorem unresolved_perm (h : r.Rearranged r') (made : r.Made) (made' : r'.Made)
    (schemas : r.schemas.Perm r'.schemas) : r.unresolved.Perm r'.unresolved := by
  have same : r.unresolvedIn = r'.unresolvedIn := by
    funext schema field spec
    simp only [unresolvedIn, h.kinds, h.has_eq, h.hasChoice_eq made made']
  unfold unresolved
  rw [same]
  exact schemas.flatMap_right _

end Rearranged

structure Registration where
  name : String
  fields : FieldList
  info : SchemaInfo

/-- Registrations one after another, up to the first one that fails. -/
def registerAll (r : Registry) : List Registration → Except Fault Registry
  | [] => .ok r
  | c :: rest => do
    let (next, _) ← r.register? c.name c.fields c.info
    registerAll next rest

/-- The schema that a registration adds, whatever is registered already. -/
def Registration.schema (c : Registration) : Except Fault Schema :=
  c.fields.resolve.map fun specs => ⟨c.name, specs, c.info⟩

theorem schema_of_register? {r r' : Registry} {c : Registration} {s : Schema}
    (h : r.register? c.name c.fields c.info = .ok (r', s)) : c.schema = .ok s := by
  obtain ⟨new, -, -, -, ⟨opened, -⟩, -⟩ := register?_eq_ok h
  have unused : r.has c.name = false := by rw [has, new, Option.isSome_none]
  simp only [register?, opened, unused, Bool.false_eq_true, if_false] at h
  obtain ⟨specs, resolved, h⟩ := bind_eq_ok h
  split at h
  next => cases h
  next =>
    obtain ⟨_, -, h⟩ := bind_eq_ok h
    obtain ⟨choices, -, h⟩ := bind_eq_ok h
    cases h
    simp only [Registration.schema, resolved, Except.map]

theorem registerAll_eq_ok {r r' : Registry} {cs : List Registration}
    (h : r.registerAll cs = .ok r') (made : r.Made) : r'.Made ∧ r'.kinds = r.kinds ∧
      r'.schemas = r.schemas ++ cs.filterMap fun c => c.schema.toOption := by
  induction cs generalizing r with
  | nil =>
    cases h
    exact ⟨made, rfl, by simp⟩
  | cons c rest ih =>
    obtain ⟨⟨next, s⟩, registered, h⟩ := bind_eq_ok h
    obtain ⟨made', kinds, schemas⟩ := ih h (.schema made registered)
    have first := schema_of_register? registered
    obtain ⟨-, -, -, -, -, choices, -, rfl⟩ := register?_eq_ok registered
    refine ⟨made', kinds, ?_⟩
    rw [schemas, List.filterMap_cons_some (b := s) (by rw [first]; rfl), List.append_assoc]
    rfl

/-- Registrations in another order make a registry of the same schemas. -/
theorem registerAll_perm {r r₁ r₂ : Registry} {cs₁ cs₂ : List Registration} (made : r.Made)
    (first : r.registerAll cs₁ = .ok r₁) (second : r.registerAll cs₂ = .ok r₂)
    (perm : cs₁.Perm cs₂) : r₁.schemas.Perm r₂.schemas ∧ r₁.Rearranged r₂ := by
  obtain ⟨made₁, kinds₁, schemas₁⟩ := registerAll_eq_ok first made
  obtain ⟨made₂, kinds₂, schemas₂⟩ := registerAll_eq_ok second made
  have schemas : r₁.schemas.Perm r₂.schemas := by
    rw [schemas₁, schemas₂]
    exact (perm.filterMap _).append_left r.schemas
  exact ⟨schemas, .of_perm made₁ made₂ (kinds₁.trans kinds₂.symm) schemas⟩

end Registry

end ShapedTree
