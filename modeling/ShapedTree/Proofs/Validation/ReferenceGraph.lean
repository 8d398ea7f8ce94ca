import ShapedTree.Proofs.Kind.MappingOrder
import ShapedTree.Proofs.Schema.Description
import ShapedTree.Proofs.Validation.Conformance
import ShapedTree.Proofs.Validation.Supply
import ShapedTree.Proofs.Value.Reordering

namespace ShapedTree

/-- A value holds a node directly: through lists and records, not below another node. -/
inductive Value.Bears : Value → NodeOf Value → Prop
  | node (n : NodeOf Value) : Bears (.node n) n
  | item {vs : List Value} {v : Value} {n : NodeOf Value} (mem : v ∈ vs) (bears : Bears v n) :
      Bears (.list vs) n
  | entry {es : List (String × Value)} {plain : Bool} {e : String × Value} {n : NodeOf Value}
      (mem : e ∈ es) (bears : Bears e.2 n) : Bears (.record es plain) n

/-- A node is a node of a tree: its root, or below a node that the root holds. -/
inductive NodeOf.Reaches : NodeOf Value → NodeOf Value → Prop
  | root (n : NodeOf Value) : Reaches n n
  | step {n c p : NodeOf Value} {e : String × Value} (mem : e ∈ n.values) (bears : e.2.Bears c)
      (reaches : Reaches c p) : Reaches n p

/-- Plain data, which is its own copy, holds no node. -/
theorem Value.Bears.jsonCopy?_eq {v : Value} {n : Node} (h : v.Bears n) : v.jsonCopy? = none := by
  induction h with
  | node n => rfl
  | @item vs v n mem _ ih =>
    refine Option.eq_none_iff_forall_ne_some.mpr fun c copy => ?_
    obtain ⟨cs, copies, -⟩ := Option.map_eq_some_iff.mp copy
    obtain ⟨d, -, copy⟩ :=
      exists_left_of_mem (copyItems?_eq_some.mp copies).flip v mem
    exact Option.some_ne_none d (copy.symm.trans ih)
  | @entry es plain e n mem _ ih =>
    refine Option.eq_none_iff_forall_ne_some.mpr fun c copy => ?_
    obtain ⟨cs, copies, -⟩ := Option.map_eq_some_iff.mp copy
    obtain ⟨d, -, -, copy⟩ :=
      exists_left_of_mem (copyEntries?_eq_some.mp copies).flip e mem
    exact Option.some_ne_none _ (copy.symm.trans ih)

theorem BuiltinKind.Holds.bears {k : BuiltinKind} {c : Constraints} {v : Value} {n : Node}
    (h : k.Holds c v) : ¬ v.Bears n := fun bears =>
  Option.some_ne_none v (h.steady.copy.symm.trans bears.jsonCopy?_eq)

/-- The schema of a node refers to the schema of every node that the node holds, in the field that
holds it. -/
def NodeOf.Wired (r : Registry) (p : NodeOf Value) : Prop :=
  ∃ s, r.find? p.schema = some s ∧ ∀ e ∈ p.values, ∃ spec ∈ s.fields, spec.name = e.1 ∧
    ∀ c, e.2.Bears c → c.schema ∈ Description.references r spec

namespace Validation

open Run Description

variable {r : Registry} {rules : Rules}

/-- The nodes of a tree are wired. -/
def Linked (r : Registry) (n : Node) : Prop := ∀ p, n.Reaches p → p.Wired r

/-- What the references say of an accepted node. -/
structure Joined (r : Registry) (name : String) (raw : Value) (n : Node) : Prop where
  made : NodeOf.MadeFrom r name raw n
  linked : Linked r n

/-- What the references say of an accepted value. -/
structure Linking (r : Registry) (spec : FieldSpec) (raw v : Value) : Prop where
  made : Value.MadeFrom r spec raw v
  refers : ∀ c, v.Bears c → c.schema ∈ references r spec ∧ Linked r c

theorem schema_of_madeFrom {name : String} {raw : Value} {n : Node}
    (h : NodeOf.MadeFrom r name raw n) : n.schema = name := by
  cases h with
  | intro _ _ named => exact named

theorem own_subset (spec : FieldSpec) : ownReferences r spec ⊆ references r spec := by
  rw [references_eq]
  exact List.subset_append_left _ _

theorem part_subset {spec part : FieldSpec} (h : part ∈ spec.parts) :
    references r part ⊆ references r spec := by
  intro name named
  rw [references_eq]
  exact List.mem_append_right _ (List.mem_flatMap.mpr ⟨part, h, named⟩)

theorem Linking.of_part {spec part : FieldSpec} {raw v : Value} (h : Linking r part raw v)
    (mem : part ∈ spec.parts) : ∀ c, v.Bears c → c.schema ∈ references r spec ∧ Linked r c :=
  fun c bears => (h.refers c bears).imp_left fun named => part_subset mem named

/-- A kind makes nothing of parts that link but values that link. -/
theorem KindMakes.linking {spec : FieldSpec} {raw v : Value}
    (h : KindMakes r (Joined r) (Linking r) spec raw v) : Linking r spec raw v := by
  refine ⟨(h.imp (fun _ _ _ h => h.made) fun _ _ _ h => h.made).madeFrom, fun c bears => ?_⟩
  cases h with
  | null => cases bears
  | scalar _ _ _ held => exact (held.bears bears).elim
  | node known named taken =>
    cases bears
    rw [schema_of_madeFrom taken.made]
    exact ⟨own_subset _ (target_mem_ownReferences known.1 named), taken.linked⟩
  | choice known named member taken =>
    cases bears
    rw [schema_of_madeFrom taken.made]
    exact ⟨own_subset _ (member_mem_ownReferences known.1 named member), taken.linked⟩
  | list _ _ taken =>
    cases bears with
    | item mem bears =>
      obtain ⟨raw, -, part⟩ := exists_left_of_mem taken _ mem
      exact part.of_part (by simp [FieldSpec.parts]) c bears
  | mapping _ _ _ taken =>
    cases bears with
    | entry mem bears =>
      obtain ⟨e, -, -, part⟩ := exists_left_of_mem taken _
        (Record.mem_of_mem_ofList (Kind.mem_of_mem_sortMapping mem))
      exact part.of_part (by simp [FieldSpec.parts]) c bears
  | primitive _ _ taken => exact taken.of_part (by simp [FieldSpec.parts]) c bears
  | complex _ _ taken => exact taken.of_part (by simp [FieldSpec.parts]) c bears

/-- The tree of an accepted node is wired if its values link. -/
theorem NodeAccepts.linked (coherent : rules.registry.Coherent) {raw : Value} {name : String}
    {here : Setting} {n : Node}
    (h : NodeAccepts rules (fun spec raw _ v => Defined (Linking rules.registry) spec raw v) raw
      name here n) : Linked rules.registry n := by
  obtain ⟨found, -, -, -, accepted⟩ := h
  rename_i schema record
  have distinct : schema.fieldNames.Nodup :=
    coherent.fields schema (List.mem_of_find?_eq_some found)
  obtain ⟨last, rfl, hschema, -, kept⟩ := accepted.draft distinct
  have links : ∀ e ∈ (last.finish schema.fieldNames schema.choiceType schema.compactable).values,
      ∃ spec ∈ schema.fields, spec.name = e.1 ∧
        ∀ c, e.2.Bears c → c.schema ∈ references rules.registry spec ∧ Linked rules.registry c := by
    intro e he
    rw [Draft.values_finish distinct] at he
    obtain ⟨declared, value⟩ := Draft.mem_entries.mp he
    obtain ⟨spec, hspec, same⟩ := List.mem_map.mp declared
    refine ⟨spec, hspec, same, ?_⟩
    rcases kept spec hspec with ⟨raw, v, before, -, taken, held, -⟩ | ⟨lacks, -⟩
    · rw [← same, Draft.value?_of_get? held taken.2] at value
      cases value
      exact taken.1.refers
    · rw [← same, Draft.value?_of_none lacks.1] at value
      cases value
  intro p reaches
  cases reaches with
  | root =>
    have named : (last.finish schema.fieldNames schema.choiceType schema.compactable).schema =
        name := hschema.trans (Registry.name_of_find? found)
    refine ⟨schema, named.symm ▸ found, fun e he => ?_⟩
    obtain ⟨spec, hspec, same, refers⟩ := links e he
    exact ⟨spec, hspec, same, fun c bears => (refers c bears).1⟩
  | step mem bears reaches =>
    obtain ⟨_, _, _, refers⟩ := links _ mem
    exact (refers _ bears).2 p reaches

/-- The tree of a node that a run accepts without issues is wired. -/
theorem checkNodeAt_joined (coherent : rules.registry.Coherent)
    (traceable : rules.registry.Every (FieldSpec.Traceable rules.registry.kinds)) (levels : Nat)
    (raw : Value) (name : String) (place : Place) :
    Ensures (checkNodeAt rules levels raw name place)
      (Answers (Joined rules.registry name raw)) := by
  induction levels generalizing raw name place with
  | zero => exact .throw
  | succ levels ih =>
    have linking : Ensures (checkNodeAt rules (levels + 1) raw name place)
        (Answers (Linked rules.registry)) := by
      refine (checkNodeWith_ensures traceable (fun spec hspec raw place => ?_) raw name place).mono
        fun answer accepted => accepted.mono fun n h => NodeAccepts.linked coherent h
      rw [checkValue_eq]
      exact checkSpec_makes ih (fun keeps h => h.made.text keeps) KindMakes.linking hspec raw place
    refine ((checkNodeAt_madeFrom coherent traceable _ raw name place).and linking).mono ?_
    rintro _ ⟨⟨n, rfl, made⟩, ⟨m, same, linked⟩⟩
    cases same
    exact ⟨n, rfl, made, linked⟩

end Validation

open Run Description in
/-- The descriptions of the schemas list every edge of an accepted tree, in the field that holds the
node and in both directions. References are symmetric, and every registered schema whose factories
return has a description. -/
theorem Registry.references_complete {r : Registry} (made : r.Made)
    (builtin : r.Every (FieldSpec.Builtin r.kinds)) (keys : r.Every FieldSpec.TextualKeys) :
    (∀ memory raw schema o tree, (r.validate memory raw schema o).result = .ok (.valid tree) →
      ∀ p, tree.Reaches p → ∃ s, r.find? p.schema = some s ∧
        ∀ spec ∈ s.fields, ∀ v, p.get? spec.name = some v → ∀ c, v.Bears c →
          Returns (describeSchema r p.schema) (fun d => c.schema ∈ d.references ∧
            ∃ field ∈ d.fields, field.name = spec.name ∧ c.schema ∈ field.references) ∧
          Returns (describeSchema r c.schema) fun d => p.schema ∈ d.referencedBy) ∧
    (∀ a b, Returns (describeSchema r a) fun d => Returns (describeSchema r b) fun e =>
      (b ∈ d.references ↔ a ∈ e.referencedBy)) ∧
    ∀ name s, r.find? name = some s →
      (∀ spec ∈ s.fields, ∀ d, spec.info.default? = some d → Describable d) →
      Total (describeSchema r name) := by
  have traceable : r.Every (FieldSpec.Traceable r.kinds) := fun s hs top ht part hp =>
    ⟨builtin s hs top ht part hp, keys s hs top ht part hp⟩
  refine ⟨fun memory raw schema o tree valid p reaches => ?_,
    references_iff_referencedBy made.coherent, fun _ _ => describeSchema_total⟩
  obtain ⟨-, t, run, clean⟩ := validate_eq_valid_iff.mp valid
  have coherent : (o.rules r).registry.Coherent := made.coherent
  obtain ⟨m, same, joined⟩ :=
    (Validation.checkNodeAt_joined coherent traceable _ raw schema _ _ _ _ run).2 clean
  cases same
  obtain ⟨s, found, wired⟩ := joined.linked p reaches
  refine ⟨s, found, fun spec declared v held c bears => ?_⟩
  obtain ⟨other, listed, same, refers⟩ := wired _ (Entries.mem_of_lookup held)
  have distinct : s.fieldNames.Nodup := made.coherent.fields s (List.mem_of_find?_eq_some found)
  cases List.inj_on_of_nodup_map distinct listed declared same
  have referring : refersTo r s c.schema = true :=
    List.any_eq_true.mpr ⟨spec, declared, List.contains_iff_mem.mpr (refers c bears)⟩
  constructor
  · intro state d t run
    obtain ⟨_, portrays⟩ := describeSchema_returns p.schema state d t run
    cases found.symm.trans portrays.found
    obtain ⟨field, described, named, own⟩ := portrays.field declared
    exact ⟨portrays.mem_references.mpr referring, field, described, named,
      (own _).mpr (refers c bears)⟩
  · intro state d t run
    obtain ⟨_, portrays⟩ := describeSchema_returns c.schema state d t run
    exact (portrays.mem_referencedBy made.coherent).mpr ⟨s, found, referring⟩

namespace Library

/-- The chapter of the edition is held by its parts, and the descriptions of books and chapters list
that. -/
theorem edition_references :
    (registry.validate [] draft "book" {}).result = .ok (.valid edition) ∧
      ∃ book chapter t u, Description.describeSchema registry "book" {} = (.ok book, t) ∧
        Description.describeSchema registry "chapter" {} = (.ok chapter, u) ∧
        "chapter" ∈ book.references ∧ "book" ∈ chapter.referencedBy := by
  have textual : registry.Every FieldSpec.TextualKeys :=
    registry_plain.mono fun s h => FieldSpec.TextKeys.textual h.2.1
  obtain ⟨edges, -, total⟩ := Registry.references_complete registry_made registry_builtin textual
  obtain ⟨s, found, references⟩ := edges _ _ _ _ _ validate_draft edition (.root _)
  obtain rfl : book = s := Option.some.inj found
  have parts : book.fields[1] ∈ book.fields := List.getElem_mem _
  obtain ⟨listed, referred⟩ := references _ parts _ rfl _
    (.item (List.mem_cons_self ..) (.node _))
  obtain ⟨d, t, described⟩ := total "book" book rfl (by
    simp [book, textField, FieldSpec.info, Description.Describable]) {}
  obtain ⟨e, u, describedPart⟩ := total "chapter" chapter rfl (by
    simp [chapter, textField, FieldSpec.info, Description.Describable]) {}
  exact ⟨validate_draft, d, e, t, u, described, describedPart, (listed _ _ _ described).1,
    referred _ _ _ describedPart⟩

end Library

end ShapedTree
