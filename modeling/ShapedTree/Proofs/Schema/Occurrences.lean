import Mathlib.Data.List.Basic
import ShapedTree.Proofs.Lists
import ShapedTree.Proofs.Schema.References

namespace ShapedTree

namespace FieldSpec

/-- The part that an address leads to: each step of it is the number of a part. -/
def at? (s : FieldSpec) : List Nat → Option FieldSpec
  | [] => some s
  | i :: address => s.parts[i]?.bind fun part => part.at? address

/-- The parts of a specification at any depth with their addresses, from the outside in. -/
def addressed : FieldSpec → List (List Nat × FieldSpec)
  | .leaf info => [([], .leaf info)]
  | .list info item => ([], .list info item) :: item.addressed.map (Prod.map (0 :: ·) id)
  | .mapping info key value => ([], .mapping info key value) ::
      (key.addressed.map (Prod.map (0 :: ·) id) ++ value.addressed.map (Prod.map (1 :: ·) id))
  | .either info primitive complex => ([], .either info primitive complex) ::
      (primitive.addressed.map (Prod.map (0 :: ·) id) ++
        complex.addressed.map (Prod.map (1 :: ·) id))

theorem addressed_eq (s : FieldSpec) : s.addressed = ([], s) ::
    s.parts.zipIdx.flatMap fun p => p.1.addressed.map (Prod.map (p.2 :: ·) id) := by
  cases s <;> simp [addressed, parts]

theorem addressed_map_snd (s : FieldSpec) : s.addressed.map Prod.snd = s.walk := by
  induction s with
  | leaf => rfl
  | list info item ih => simp [addressed, walk, ← ih, Function.comp_def]
  | mapping info key value ihKey ihValue =>
    simp [addressed, walk, ← ihKey, ← ihValue, Function.comp_def]
  | either info primitive complex ihPrimitive ihComplex =>
    simp [addressed, walk, ← ihPrimitive, ← ihComplex, Function.comp_def]

theorem mem_addressed_iff {s part : FieldSpec} {address : List Nat} :
    (address, part) ∈ s.addressed ↔ s.at? address = some part := by
  induction s using induction_parts generalizing address part with
  | h s ih =>
    rw [addressed_eq, List.mem_cons, List.mem_flatMap]
    cases address with
    | nil => simp [at?, eq_comm]
    | cons i address =>
      simp only [at?, Option.bind_eq_some_iff]
      constructor
      · rintro (here | ⟨⟨top, j⟩, htop, hpart⟩)
        · cases here
        · obtain ⟨⟨below, same⟩, hbelow, heq⟩ := List.mem_map.mp hpart
          cases heq
          have htop := List.mem_zipIdx_iff_getElem?.mp htop
          exact ⟨top, htop, (ih top (List.mem_of_getElem? htop)).mp hbelow⟩
      · rintro ⟨top, htop, hbelow⟩
        have hbelow := (ih top (List.mem_of_getElem? htop)).mpr hbelow
        exact .inr ⟨(top, i), List.mem_zipIdx_iff_getElem?.mpr htop,
          List.mem_map.mpr ⟨(address, part), hbelow, rfl⟩⟩

/-- The order of the addresses is the order from the outside in. -/
theorem addressed_pairwise (s : FieldSpec) : s.addressed.Pairwise fun a b => a.1 < b.1 := by
  induction s using induction_parts with
  | h s ih =>
    rw [addressed_eq, List.pairwise_cons]
    constructor
    · intro b hb
      obtain ⟨p, -, hb⟩ := List.mem_flatMap.mp hb
      obtain ⟨a, -, rfl⟩ := List.mem_map.mp hb
      exact List.nil_lt_cons p.2 a.1
    · apply pairwise_flatMap_zipIdx
      · rintro ⟨part, i⟩ hpart
        have below := ih part (List.mem_of_getElem? (List.mem_zipIdx_iff_getElem?.mp hpart))
        refine List.pairwise_map.mpr (below.imp fun {a b} hab => ?_)
        exact List.Lex.cons hab
      · rintro ⟨part, i⟩ ⟨part', j⟩ hij a ha b hb
        obtain ⟨a, -, rfl⟩ := List.mem_map.mp ha
        obtain ⟨b, -, rfl⟩ := List.mem_map.mp hb
        exact List.Lex.rel hij

end FieldSpec

/-- Where a reference stands: the number of its schema, the number of the field there, the address
of the part, and what the reference should be to. -/
structure Occurrence where
  schema : Nat
  field : Nat
  part : List Nat
  kind : ReferenceKind

/-- One specification may have a reference of each sort; they are listed in this order. -/
def ReferenceKind.rank : ReferenceKind → Nat
  | .kind => 0
  | .schema => 1
  | .choice => 2

namespace Occurrence

def address (o : Occurrence) : List Nat := o.schema :: o.field :: o.part

/-- One occurrence comes before another one: in an earlier schema, in an earlier field, further out
or further to the front, or as an earlier sort of reference. -/
def Before (a b : Occurrence) : Prop :=
  a.address < b.address ∨ a.address = b.address ∧ a.kind.rank < b.kind.rank

theorem Before.irrefl (o : Occurrence) : ¬ o.Before o := by
  rintro (lt | ⟨-, lt⟩)
  · exact List.lt_irrefl _ lt
  · exact Nat.lt_irrefl _ lt

end Occurrence

namespace Registry

/-- A specification names something that is not there: a kind that is not known, a schema that is
not registered, or a choice group without members. -/
inductive Lacks (r : Registry) (spec : FieldSpec) : ReferenceKind → String → Prop
  | kind (unknown : r.kinds.has spec.kind = false) : Lacks r spec .kind spec.kind
  | schema {target : String} (kind : spec.kind = "node")
      (named : spec.info.constraints.target = some target) (absent : r.has target = false) :
      Lacks r spec .schema target
  | choice {group : String} (kind : spec.kind = "choice")
      (named : spec.info.constraints.choice = some group) (empty : r.choiceMembers group = []) :
      Lacks r spec .choice group

/-- A reference that refers to nothing, and where it stands. -/
def Dangles (r : Registry) (o : Occurrence) (reference : UnresolvedReference) : Prop :=
  ∃ s top spec, r.schemas[o.schema]? = some s ∧ s.allFields[o.field]? = some top ∧
    top.at? o.part = some spec ∧ r.Lacks spec o.kind reference.target ∧
    reference = ⟨s.name, top.name, o.kind, reference.target⟩

/-- A group that was never joined has no members, and any other one has some. -/
theorem Made.hasChoice_iff {r : Registry} (made : r.Made) (group : String) :
    r.hasChoice group = true ↔ r.choiceMembers group ≠ [] := by
  unfold hasChoice choiceMembers
  rw [Entries.has_iff]
  cases members : r.choices.lookup group with
  | none => simpa using Entries.lookup_eq_none_iff.mp members
  | some ms =>
    have known : group ∈ r.choices.map Prod.fst := by
      by_contra absent
      rw [Entries.lookup_eq_none_iff.mpr absent] at members
      cases members
    simpa [known] using made.populated group ms members

theorem mem_unresolvedIn_iff {r : Registry} (made : r.Made) {schema field : String}
    {spec : FieldSpec} {reference : UnresolvedReference} :
    reference ∈ r.unresolvedIn schema field spec ↔
      r.Lacks spec reference.kind reference.target ∧
        reference = ⟨schema, field, reference.kind, reference.target⟩ := by
  have groups : ∀ group, r.hasChoice group = false ↔ r.choiceMembers group = [] := by
    intro group
    rw [← Bool.not_eq_true, made.hasChoice_iff, not_not]
  simp only [unresolvedIn, List.mem_append]
  constructor
  -- The kind, the target and the group are looked for separately.
  · rintro ((unknown | unregistered) | empty)
    · split at unknown
      next => cases unknown
      next absent =>
        cases List.mem_singleton.mp unknown
        exact ⟨.kind (Bool.eq_false_iff.mpr absent), rfl⟩
    · split at unregistered
      next target named =>
        split at unregistered
        next dangling =>
          cases List.mem_singleton.mp unregistered
          exact ⟨.schema dangling.1 named (Bool.eq_false_iff.mpr dangling.2), rfl⟩
        next => cases unregistered
      next => cases unregistered
    · split at empty
      next group named =>
        split at empty
        next dangling =>
          cases List.mem_singleton.mp empty
          exact ⟨.choice dangling.1 named ((groups _).mp (Bool.eq_false_iff.mpr dangling.2)), rfl⟩
        next => cases empty
      next => cases empty
  · obtain ⟨schema', field', sort, target⟩ := reference
    rintro ⟨lacks, same⟩
    cases same
    cases lacks with
    | kind unknown =>
      rw [if_neg (Bool.eq_false_iff.mp unknown)]
      exact .inl (.inl (List.mem_singleton.mpr rfl))
    | schema kind named absent => simp [kind, named, absent]
    | choice kind named empty => simp [kind, named, (groups _).mpr empty]

theorem unresolvedIn_pairwise (r : Registry) (schema field : String) (spec : FieldSpec) :
    (r.unresolvedIn schema field spec).Pairwise fun a b => a.kind.rank < b.kind.rank := by
  simp only [unresolvedIn]
  split <;> split <;> split <;> repeat split
  all_goals simp [ReferenceKind.rank]

/-- What is unresolved, with where it stands. -/
def occurrences (r : Registry) : List (Occurrence × UnresolvedReference) :=
  r.schemas.zipIdx.flatMap fun s =>
    s.1.allFields.zipIdx.flatMap fun top =>
      top.1.addressed.flatMap fun part =>
        (r.unresolvedIn s.1.name top.1.name part.2).map fun reference =>
          (⟨s.2, top.2, part.1, reference.kind⟩, reference)

theorem occurrences_map_snd (r : Registry) : r.occurrences.map Prod.snd = r.unresolved := by
  have unnumbered : ∀ {α β : Type} (l : List α) (f : α → List β),
      l.zipIdx.flatMap (fun p => f p.1) = l.flatMap f := by
    intro α β l f
    rw [← List.flatMap_map, List.zipIdx_map_fst]
  have parts : ∀ (s : Schema) (top : FieldSpec),
      top.addressed.flatMap (fun part => r.unresolvedIn s.name top.name part.2) =
        top.walk.flatMap (r.unresolvedIn s.name top.name) := by
    intro s top
    rw [← top.addressed_map_snd, List.flatMap_map]
  have fields : ∀ s : Schema, s.allFields.zipIdx.flatMap
      (fun top => top.1.walk.flatMap (r.unresolvedIn s.name top.1.name)) =
        s.allFields.flatMap fun top => top.walk.flatMap (r.unresolvedIn s.name top.name) :=
    fun s => unnumbered s.allFields fun top => top.walk.flatMap (r.unresolvedIn s.name top.name)
  simp only [occurrences, List.map_flatMap, List.map_map, Function.comp_def, List.map_id', parts,
    fields]
  exact unnumbered r.schemas fun s =>
    s.allFields.flatMap fun top => top.walk.flatMap (r.unresolvedIn s.name top.name)

theorem mem_occurrences_iff {r : Registry} (made : r.Made) {o : Occurrence}
    {reference : UnresolvedReference} :
    (o, reference) ∈ r.occurrences ↔ r.Dangles o reference := by
  simp only [occurrences, List.mem_flatMap, List.mem_map]
  constructor
  · rintro ⟨⟨s, i⟩, hs, ⟨top, j⟩, htop, ⟨address, part⟩, hpart, reference, listed, same⟩
    cases same
    obtain ⟨lacks, same⟩ := (mem_unresolvedIn_iff made).mp listed
    exact ⟨s, top, part, List.mem_zipIdx_iff_getElem?.mp hs, List.mem_zipIdx_iff_getElem?.mp htop,
      FieldSpec.mem_addressed_iff.mp hpart, lacks, same⟩
  · obtain ⟨i, j, address, sort⟩ := o
    rintro ⟨s, top, part, hs, htop, hpart, lacks, same⟩
    have sorts : reference.kind = sort := by rw [same]
    subst sorts
    exact ⟨(s, i), List.mem_zipIdx_iff_getElem?.mpr hs, (top, j),
      List.mem_zipIdx_iff_getElem?.mpr htop, (address, part),
      FieldSpec.mem_addressed_iff.mpr hpart, reference,
      (mem_unresolvedIn_iff made).mpr ⟨lacks, same⟩, rfl⟩

theorem occurrences_pairwise (r : Registry) :
    r.occurrences.Pairwise fun a b => a.1.Before b.1 := by
  unfold occurrences
  apply pairwise_flatMap_zipIdx
  · rintro ⟨s, i⟩ -
    apply pairwise_flatMap_zipIdx
    · rintro ⟨top, j⟩ -
      refine List.pairwise_flatMap.mpr ⟨?_, ?_⟩
      · rintro ⟨address, part⟩ -
        refine List.pairwise_map.mpr ((r.unresolvedIn_pairwise s.name top.name part).imp ?_)
        exact fun earlier => .inr ⟨rfl, earlier⟩
      · refine top.addressed_pairwise.imp fun {p q} hpq => ?_
        intro a ha b hb
        obtain ⟨_, -, rfl⟩ := List.mem_map.mp ha
        obtain ⟨_, -, rfl⟩ := List.mem_map.mp hb
        exact .inl (.cons (.cons hpq))
    · rintro ⟨top, j⟩ ⟨top', j'⟩ hj a ha b hb
      obtain ⟨p, -, ha⟩ := List.mem_flatMap.mp ha
      obtain ⟨q, -, hb⟩ := List.mem_flatMap.mp hb
      obtain ⟨_, -, rfl⟩ := List.mem_map.mp ha
      obtain ⟨_, -, rfl⟩ := List.mem_map.mp hb
      exact .inl (.cons (.rel hj))
  · rintro ⟨s, i⟩ ⟨s', i'⟩ hi a ha b hb
    obtain ⟨top, -, ha⟩ := List.mem_flatMap.mp ha
    obtain ⟨top', -, hb⟩ := List.mem_flatMap.mp hb
    obtain ⟨p, -, ha⟩ := List.mem_flatMap.mp ha
    obtain ⟨q, -, hb⟩ := List.mem_flatMap.mp hb
    obtain ⟨_, -, rfl⟩ := List.mem_map.mp ha
    obtain ⟨_, -, rfl⟩ := List.mem_map.mp hb
    exact .inl (.rel hi)

/-- Nothing that a specification names is lacking. -/
def Whole (r : Registry) (spec : FieldSpec) : Prop := ∀ sort target, ¬ r.Lacks spec sort target

theorem unresolved_eq_nil_iff {r : Registry} (made : r.Made) :
    r.unresolved = [] ↔ r.Every r.Whole := by
  have part : ∀ schema field spec, r.unresolvedIn schema field spec = [] ↔ r.Whole spec := by
    intro schema field spec
    rw [List.eq_nil_iff_forall_not_mem]
    constructor
    · intro none sort target lacks
      exact none ⟨schema, field, sort, target⟩ ((mem_unresolvedIn_iff made).mpr ⟨lacks, rfl⟩)
    · intro whole reference listed
      exact whole _ _ ((mem_unresolvedIn_iff made).mp listed).1
  simp only [unresolved, List.flatMap_eq_nil_iff, part, Registry.Every, FieldSpec.Every]

theorem Resolves.whole {r : Registry} (made : r.Made) {spec : FieldSpec} (h : r.Resolves spec) :
    r.Whole spec := by
  intro sort target lacks
  cases lacks with
  | kind unknown => cases unknown.symm.trans h.kind
  | schema kind named absent => cases absent.symm.trans (h.target kind _ named)
  | choice kind named empty => exact (made.hasChoice_iff _).mp (h.group kind _ named) empty

/-- A freeze lists what is unresolved, also when the registry is frozen already. -/
theorem Made.freeze?_snd {r : Registry} (made : r.Made) : r.freeze?.2 = r.unresolved := by
  cases frozen : r.frozen with
  | true =>
    have none : r.unresolved = [] :=
      (unresolved_eq_nil_iff made).mpr ((made.resolved frozen).mono fun _ h => h.whole made)
    rw [none, freeze?, frozen, if_pos rfl]
  | false =>
    unfold freeze?
    rw [frozen, if_neg Bool.false_ne_true]
    by_cases none : r.unresolved = []
    · rw [if_pos none, none]
    · rw [if_neg none]

theorem Made.freeze?_frozen_iff {r : Registry} (made : r.Made) :
    r.freeze?.1.frozen = true ↔ r.freeze?.2 = [] := by
  rcases freeze?_eq r with ⟨heq, refused⟩ | ⟨-, -, heq⟩
  · constructor
    · intro frozen
      rw [heq] at frozen
      rw [made.freeze?_snd]
      exact (unresolved_eq_nil_iff made).mpr ((made.resolved frozen).mono fun _ h => h.whole made)
    · intro none
      rw [heq]
      by_contra opened
      exact refused (Bool.eq_false_iff.mpr opened) none
  · simp [heq]

/-- A freeze succeeds exactly where nothing is lacking, and lists every dangling reference once, in
the order of the schemas and from the outside in. -/
theorem Made.freeze?_lists {r : Registry} (made : r.Made) :
    (r.freeze?.1.frozen = true ↔ r.freeze?.2 = []) ∧ (r.freeze?.2 = [] ↔ r.Every r.Whole) ∧
      ∃ listed : List (Occurrence × UnresolvedReference), r.freeze?.2 = listed.map Prod.snd ∧
        listed.Pairwise (fun a b => a.1.Before b.1) ∧ (listed.map Prod.fst).Nodup ∧
        ∀ o reference, (o, reference) ∈ listed ↔ r.Dangles o reference := by
  have once : (r.occurrences.map Prod.fst).Nodup := by
    refine List.pairwise_map.mpr (r.occurrences_pairwise.imp fun {a b} before same => ?_)
    rw [same] at before
    exact before.irrefl
  refine ⟨made.freeze?_frozen_iff, ?_, r.occurrences, ?_, r.occurrences_pairwise, once,
    fun o reference => mem_occurrences_iff made⟩
  · rw [made.freeze?_snd]
    exact unresolved_eq_nil_iff made
  · rw [made.freeze?_snd, occurrences_map_snd]

end Registry

end ShapedTree
