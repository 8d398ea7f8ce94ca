import ShapedTree.Proofs.Kind.Standard
import ShapedTree.Proofs.Record.Lookup

namespace ShapedTree

namespace Registry

/-- The registry comes about from an empty one; calls that fail leave it as it was. -/
inductive Made : Registry → Prop
  | empty (kinds : KindCatalog) : Made { kinds }
  | kind {r : Registry} (made : Made r) (tag : String) (d : KindDefinition) :
      Made { r with kinds := r.kinds.register tag d }
  | schema {r r' : Registry} {name : String} {fields : FieldList} {info : SchemaInfo} {s : Schema}
      (made : Made r) (registered : r.register? name fields info = .ok (r', s)) : Made r'
  | freeze {r : Registry} (made : Made r) : Made r.freeze?.1

/-- Names are unique, and the members of a choice group are the schemas that say so. -/
structure Coherent (r : Registry) : Prop where
  names : r.names.Nodup
  fields : ∀ s ∈ r.schemas, s.fieldNames.Nodup
  types : ∀ group, ((r.choiceMembers group).map Prod.fst).Nodup
  member_iff : ∀ group type name, (type, name) ∈ r.choiceMembers group ↔
    ∃ s, r.find? name = some s ∧ s.info.choice = some ⟨group, type⟩

theorem name_of_find? {r : Registry} {name : String} {s : Schema} (h : r.find? name = some s) :
    s.name = name := by simpa using List.find?_some h

theorem duplicate?_eq_none {seen names : List String} (h : duplicate? seen names = none) :
    names.Nodup ∧ ∀ name ∈ names, name ∉ seen := by
  induction names generalizing seen with
  | nil => simp
  | cons name rest ih =>
    unfold duplicate? at h
    split at h
    next => cases h
    next new =>
      obtain ⟨nodup, apart⟩ := ih h
      refine ⟨List.nodup_cons.mpr ⟨fun hm => apart name hm (by simp), nodup⟩, ?_⟩
      intro other hother
      rcases List.mem_cons.mp hother with rfl | hother
      · simpa using new
      · exact fun hseen => apart other hother (List.mem_cons_of_mem _ hseen)

theorem bind_eq_ok {α β : Type} {x : Except Fault α} {f : α → Except Fault β} {b : β}
    (h : (x >>= f) = .ok b) : ∃ a, x = .ok a ∧ f a = .ok b := by
  cases x with
  | error e => cases h
  | ok a => exact ⟨a, rfl, h⟩

theorem checkVersion_eq_ok {name version : String} {u : Unit}
    (h : checkVersion name (some version) = .ok u) : isSemVer version = true := by
  unfold checkVersion at h
  simp only at h
  split at h
  next valid => exact valid
  next => cases h

/-- What a successful registration has checked and what it adds. -/
theorem register?_eq_ok {r r' : Registry} {name : String} {fields : FieldList} {info : SchemaInfo}
    {s : Schema} (h : r.register? name fields info = .ok (r', s)) :
    r.find? name = none ∧ s.name = name ∧ s.info = info ∧ s.fieldNames.Nodup ∧
      (r.frozen = false ∧ ∀ version, info.version = some version → isSemVer version = true) ∧
      ∃ choices, r.addMember name info.choice = .ok choices ∧
        r' = { r with schemas := r.schemas ++ [s], choices } := by
  cases frozen : r.frozen with
  | true =>
    simp only [register?, frozen, if_true] at h
    cases h
  | false =>
    cases old : r.has name with
    | true =>
      simp only [register?, frozen, old, Bool.false_eq_true, if_false, if_true] at h
      cases h
    | false =>
      simp only [register?, frozen, old, Bool.false_eq_true, if_false] at h
      obtain ⟨specs, -, h⟩ := bind_eq_ok h
      split at h
      next => cases h
      next different =>
        obtain ⟨_, checked, h⟩ := bind_eq_ok h
        obtain ⟨choices, added, h⟩ := bind_eq_ok h
        cases h
        have new : r.find? name = none := by simpa [has] using old
        have nodup : (specs.map FieldSpec.name).Nodup := (duplicate?_eq_none different).1
        have versions : ∀ version, info.version = some version → isSemVer version = true := by
          intro version given
          rw [given] at checked
          exact checkVersion_eq_ok checked
        exact ⟨new, rfl, rfl, nodup, ⟨rfl, versions⟩, choices, added, rfl⟩

/-- The group of a schema takes it under a type that is new there; other groups stay. -/
theorem addMember_eq_ok {r : Registry} {name : String} {choice : Option Membership}
    {choices : List (String × List (String × String))}
    (h : r.addMember name choice = .ok choices) (group : String) :
    (∃ type, choice = some ⟨group, type⟩ ∧ type ∉ (r.choiceMembers group).map Prod.fst ∧
      (choices.lookup group).getD [] = r.choiceMembers group ++ [(type, name)]) ∨
    (∀ type, choice ≠ some ⟨group, type⟩) ∧
      (choices.lookup group).getD [] = r.choiceMembers group := by
  cases choice with
  | none =>
    cases h
    exact .inr ⟨by simp, rfl⟩
  | some membership =>
    obtain ⟨joined, type⟩ := membership
    unfold addMember at h
    simp only at h
    split at h
    next => cases h
    next free =>
      cases h
      rw [Entries.lookup_put]
      by_cases same : group = joined
      · subst same
        have new : type ∉ (r.choiceMembers group).map Prod.fst :=
          Entries.lookup_eq_none_iff.mp free
        have fresh : Entries.has (r.choiceMembers group) type = false := by
          rw [← Bool.not_eq_true, Entries.has_iff]
          exact new
        exact .inl ⟨type, rfl, new, by simp [Entries.put, fresh]⟩
      · refine .inr ⟨fun other heq => same ?_, by simp [same, choiceMembers]⟩
        cases heq
        rfl

/-- Freezing changes an open registry without unresolved references, and no other. -/
theorem freeze?_eq (r : Registry) :
    r.freeze? = (r, r.freeze?.2) ∧ (r.frozen = false → r.freeze?.2 ≠ []) ∨
      r.frozen = false ∧ r.unresolved = [] ∧ r.freeze? = ({ r with frozen := true }, []) := by
  unfold freeze?
  cases frozen : r.frozen with
  | true => simp
  | false =>
    simp only [Bool.false_eq_true, if_false]
    by_cases complete : r.unresolved = []
    · rw [if_pos complete]
      exact .inr ⟨trivial, complete, rfl⟩
    · rw [if_neg complete]
      exact .inl ⟨rfl, fun _ => complete⟩

theorem freeze?_fst (r : Registry) : ∃ frozen, r.freeze?.1 = { r with frozen } := by
  rcases freeze?_eq r with ⟨heq, -⟩ | ⟨-, -, heq⟩
  · exact ⟨r.frozen, by rw [heq]⟩
  · exact ⟨true, by rw [heq]⟩

/-- No choice group is empty. -/
def Populated (choices : List (String × List (String × String))) : Prop :=
  ∀ group members, choices.lookup group = some members → members ≠ []

theorem Populated.addMember {r : Registry} {name : String} {choice : Option Membership}
    {choices : List (String × List (String × String))} (populated : Populated r.choices)
    (h : r.addMember name choice = .ok choices) : Populated choices := by
  cases choice with
  | none =>
    cases h
    exact populated
  | some membership =>
    obtain ⟨joined, type⟩ := membership
    unfold Registry.addMember at h
    simp only at h
    split at h
    next => cases h
    next =>
      cases h
      intro group members hm
      rw [Entries.lookup_put] at hm
      split at hm
      next =>
        have member : (Entries.put (r.choiceMembers joined) type name).lookup type = some name := by
          rw [Entries.lookup_put, if_pos rfl]
        intro empty
        cases hm
        rw [empty] at member
        cases member
      next => exact populated group members hm

namespace Coherent

variable {r : Registry}

theorem empty (kinds : KindCatalog) : Coherent { kinds } where
  names := by simp [Registry.names]
  fields := by simp
  types := by simp [choiceMembers]
  member_iff := by simp [choiceMembers, find?]

theorem schema {r' : Registry} {name : String} {fields : FieldList} {info : SchemaInfo}
    {s : Schema} (coherent : r.Coherent) (h : r.register? name fields info = .ok (r', s)) :
    r'.Coherent := by
  obtain ⟨new, rfl, rfl, distinct, -, choices, added, rfl⟩ := register?_eq_ok h
  have found : ∀ other, Registry.find? { r with schemas := r.schemas ++ [s], choices } other =
      if other = s.name then some s else r.find? other := by
    intro other
    unfold Registry.find? at new ⊢
    rw [List.find?_append]
    by_cases same : other = s.name
    · subst same
      simp [new]
    · have no : (s.name == other) = false := beq_eq_false_iff_ne.mpr (Ne.symm same)
      simp [same, no]
  have members := addMember_eq_ok added
  constructor
  · have unused : s.name ∉ r.names := by
      intro hm
      obtain ⟨t, ht, same⟩ := List.mem_map.mp hm
      have := List.find?_eq_none.mp new t ht
      simp [same] at this
    exact nodup_map_concat.mpr ⟨unused, coherent.names⟩
  · intro t ht
    rcases List.mem_append.mp ht with ht | ht
    · exact coherent.fields t ht
    · rw [List.mem_singleton.mp ht]
      exact distinct
  · intro group
    rcases members group with ⟨type, -, apart, heq⟩ | ⟨-, heq⟩
    · rw [choiceMembers, heq]
      exact nodup_map_concat.mpr ⟨apart, coherent.types group⟩
    · rw [choiceMembers, heq]
      exact coherent.types group
  · intro group type name
    have before := coherent.member_iff group type name
    -- No schema that was listed before has the name of the new one.
    have old : (∃ t, r.find? name = some t ∧ t.info.choice = some ⟨group, type⟩) →
        name ≠ s.name := by
      rintro ⟨t, ht, -⟩ rfl
      cases new.symm.trans ht
    rw [choiceMembers, found]
    rcases members group with ⟨joined, hjoined, -, heq⟩ | ⟨apart, heq⟩
    · rw [heq, List.mem_append, before, List.mem_singleton, Prod.mk.injEq]
      by_cases same : name = s.name
      · simp [same, hjoined, new, eq_comm]
      · simp [same]
    · rw [heq, before]
      by_cases same : name = s.name
      · simp [same, new, apart]
      · simp [same]

theorem kind (coherent : r.Coherent) (tag : String) (d : KindDefinition) :
    Coherent { r with kinds := r.kinds.register tag d } :=
  ⟨coherent.names, coherent.fields, coherent.types, coherent.member_iff⟩

/-- A schema is a member of a group under one type. -/
theorem members (coherent : r.Coherent) (group : String) :
    ((r.choiceMembers group).map Prod.snd).Nodup := by
  refine List.Nodup.map_on ?_ (coherent.types group).of_map
  rintro ⟨type, name⟩ first ⟨type', name'⟩ second rfl
  obtain ⟨s, found, choice⟩ := (coherent.member_iff group type name).mp first
  obtain ⟨s', found', choice'⟩ := (coherent.member_iff group type' name).mp second
  cases found.symm.trans found'
  cases choice.symm.trans choice'
  rfl

theorem freeze (coherent : r.Coherent) : r.freeze?.1.Coherent := by
  obtain ⟨frozen, heq⟩ := freeze?_fst r
  rw [heq]
  exact ⟨coherent.names, coherent.fields, coherent.types, coherent.member_iff⟩

end Coherent

theorem Made.coherent {r : Registry} (made : r.Made) : r.Coherent := by
  induction made with
  | empty kinds => exact .empty kinds
  | kind _ tag d ih => exact ih.kind tag d
  | schema _ registered ih => exact ih.schema registered
  | freeze _ ih => exact ih.freeze

theorem Made.frozen {r : Registry} (made : r.Made) (opened : r.frozen = false)
    (complete : r.unresolved = []) : Made { r with frozen := true } := by
  have heq : r.freeze?.1 = { r with frozen := true } := by simp [freeze?, opened, complete]
  exact heq ▸ made.freeze

/-- In every history, no choice group is empty. -/
theorem Made.populated {r : Registry} (made : r.Made) : Populated r.choices := by
  induction made with
  | empty kinds =>
    intro group members h
    cases h
  | kind _ tag d ih => exact ih
  | schema _ registered ih =>
    obtain ⟨-, -, -, -, -, choices, added, rfl⟩ := register?_eq_ok registered
    exact ih.addMember added
  | @freeze r _ ih =>
    obtain ⟨frozen, heq⟩ := freeze?_fst r
    rw [heq]
    exact ih

/-- In every history, the schemas have semantic versions, where they have one. -/
theorem Made.versions {r : Registry} (made : r.Made) :
    ∀ s ∈ r.schemas, ∀ version, s.info.version = some version → isSemVer version = true := by
  induction made with
  | empty kinds => simp
  | kind _ tag d ih => exact ih
  | schema _ registered ih =>
    obtain ⟨-, -, rfl, -, ⟨-, versions⟩, choices, -, rfl⟩ := register?_eq_ok registered
    intro t ht
    rcases List.mem_append.mp ht with ht | ht
    · exact ih t ht
    · rw [List.mem_singleton.mp ht]
      exact versions
  | @freeze r _ ih =>
    obtain ⟨frozen, heq⟩ := freeze?_fst r
    rw [heq]
    exact ih

end Registry

namespace Library

def textField (name : String) : FieldSpec := .leaf { name, kind := "string" }

/-- A chapter with a label that is made of its title and the titles above. -/
def chapter : Schema where
  name := "chapter"
  fields := [textField "title",
    .leaf {
      name := "label", kind := "json", required := false
      default? := some (.computed fun a => .ok (.list
        (a.stack.filterMap (·.get? "title") ++ (a.siblings.get? "title").toList))) }]
  info := { choice := some ⟨"part", "chapter"⟩ }

def note : Schema where
  name := "note"
  fields := [textField "text"]
  info := { choice := some ⟨"part", "note"⟩ }

def book : Schema where
  name := "book"
  fields := [textField "title",
    .list { name := "parts", kind := "list" }
      (.leaf { name := "part", kind := "choice", constraints := { choice := some "part" } }),
    .leaf {
      name := "rank", kind := "integer", required := false
      default? := some (.constant (.number 1)) }]

/-- A registry of books, whose parts are chapters and notes. -/
def registry : Registry where
  kinds := .builtin
  schemas := [chapter, note, book]
  choices := [("part", [("chapter", "chapter"), ("note", "note")])]
  frozen := true

/-- The registry before it is frozen. -/
theorem registry_opened : Registry.Made { registry with frozen := false } := by
  have chapters := Registry.Made.schema (.empty .builtin) (show Registry.register? _ chapter.name
    (.specs chapter.fields) chapter.info = .ok (_, chapter) from rfl)
  have notes := Registry.Made.schema chapters (show Registry.register? _ note.name
    (.specs note.fields) note.info = .ok (_, note) from rfl)
  exact .schema notes (show Registry.register? _ book.name
    (.specs book.fields) book.info = .ok (_, book) from rfl)

theorem registry_made : registry.Made := .freeze registry_opened

theorem registry_builtin : registry.Every (FieldSpec.Builtin registry.kinds) := by
  simp only [Registry.Every, FieldSpec.Every, registry, chapter, note, book, Schema.allFields,
    textField, FieldSpec.walk, List.forall_mem_cons, Option.map_none, Option.toList_none,
    List.append_nil, List.not_mem_nil, false_imp_iff, implies_true, and_true]
  exact ⟨⟨⟨.string, rfl, rfl⟩, ⟨.json, rfl, rfl⟩⟩, ⟨.string, rfl, rfl⟩, ⟨.string, rfl, rfl⟩,
    ⟨⟨.list, rfl, rfl⟩, ⟨.choice, rfl, rfl⟩⟩, ⟨.integer, rfl, rfl⟩⟩

theorem registry_plain : registry.Every fun s =>
    s.FixedPattern ∧ s.TextKeys ∧ s.PrimitiveForms ∧ s.PureDefault := by
  simp [Registry.Every, FieldSpec.Every, registry, chapter, note, book, Schema.allFields, textField,
    FieldSpec.walk, FieldSpec.FixedPattern, FieldSpec.TextKeys, FieldSpec.PrimitiveForms,
    FieldSpec.PureDefault, FieldSpec.info]

end Library

end ShapedTree
