import ShapedTree.Proofs.Validation.FailFast
import ShapedTree.Proofs.Validation.Provenance

namespace ShapedTree

namespace Validation

variable {c : KindCatalog} {VL : ValueLaw} {record : Entries Value} {here : Setting}
  {d d' : Draft}

/-- A law of values, together with where the raw ones come from. -/
def Sourcing (VL : ValueLaw) (record : Entries Value) : ValueLaw := fun spec raw here v =>
  VL spec raw here v ∧ Source record spec raw

/-- What a slot says of the record is true. -/
structure Slot.Faithful (record : Entries Value) (slot : Slot) : Prop where
  waiting : ∀ raw mark, slot.waiting = some (raw, mark) →
    Starts record slot.spec (some (raw, mark))
  unsupplied : slot.supplied = false → readKey record slot.spec.name = none

theorem Starts.unsupplied {spec : FieldSpec} {raw : Value} {mark : Bool}
    (start : Starts record spec (some (raw, mark))) (h : (!mark) = false) :
    readKey record spec.name = none := by
  cases start with
  | supplied => cases h
  | produced left => exact left

/-- A field that is supplied comes from nothing else. -/
theorem Source.eq_of_supplied {spec : FieldSpec} {raw raw' : Value} (h : Source record spec raw')
    (given : readKey record spec.name = some raw) : raw' = raw := by
  cases h with
  | started start =>
    cases start with
    | supplied given' => exact Option.some.inj (given'.symm.trans given)
    | produced left => cases left.symm.trans given
  | computed left => cases left.symm.trans given

theorem FirstPass.sourced {specs : List FieldSpec} {slots : List Slot}
    (h : FirstPass c VL record here d specs slots d') :
    FirstPass c (Sourcing VL record) record here d specs slots d' ∧
      ∀ slot ∈ slots, slot.Faithful record := by
  induction h with
  | done d => exact ⟨.done d, by simp⟩
  | absent start _ ih =>
    refine ⟨.absent start ih.1, List.forall_mem_cons.mpr ⟨⟨nofun, fun _ => ?_⟩, ih.2⟩⟩
    cases start with
    | computed left => exact left
    | absent left => exact left
  | waits start waits _ ih =>
    refine ⟨.waits start waits ih.1, List.forall_mem_cons.mpr ⟨⟨?_, start.unsupplied⟩, ih.2⟩⟩
    intro raw mark same
    cases same
    exact start
  | fills start ready taken _ ih =>
    have source := Source.started start
    exact ⟨.fills start ready ⟨taken, source⟩ ih.1,
      List.forall_mem_cons.mpr ⟨⟨nofun, start.unsupplied⟩, ih.2⟩⟩

theorem SecondPass.sourced {earlier : List String} {slots : List Slot}
    (h : SecondPass VL here earlier d slots d') (faithful : ∀ slot ∈ slots, slot.Faithful record) :
    SecondPass (Sourcing VL record) here earlier d slots d' := by
  induction h with
  | done earlier d => exact .done earlier d
  | waited waiting taken _ ih =>
    obtain ⟨first, rest⟩ := List.forall_mem_cons.mp faithful
    exact .waited waiting ⟨taken, .started (first.waiting _ _ waiting)⟩ (ih rest)
  | computed waiting unsupplied default made taken _ ih =>
    obtain ⟨first, rest⟩ := List.forall_mem_cons.mp faithful
    have source := Source.computed (first.unsupplied unsupplied) default made
    exact .computed waiting unsupplied default made ⟨taken, source⟩ (ih rest)
  | settled settled _ ih =>
    obtain ⟨-, rest⟩ := List.forall_mem_cons.mp faithful
    exact .settled settled (ih rest)

/-- The draft of an accepted node holds every field but those that the record does not supply. -/
theorem FieldsAccept.sourced {rules : Rules} {schema : Schema} {n : Node}
    (h : FieldsAccept rules VL schema record here n) (distinct : schema.fieldNames.Nodup) :
    ∃ last : Draft, n = last.finish schema.fieldNames schema.choiceType schema.compactable ∧
      last.schema = schema.name ∧ ∀ spec ∈ schema.fields,
        Holds (Sourcing VL record) here last spec ∨
          Lacks last spec ∧ readKey record spec.name = none := by
  obtain ⟨-, -, explicit, nested, -, -⟩ := h
  rename_i slots first last
  obtain ⟨explicit, faithful⟩ := explicit.sourced
  have nested := nested.sourced faithful
  have names : slots.map Slot.name = schema.fieldNames := by
    rw [Schema.fieldNames, ← explicit.specs_eq, List.map_map]
    rfl
  have stands := explicit.stands distinct fun s _ => ⟨rfl, rfl⟩
  refine ⟨last, rfl, nested.schema_eq.trans explicit.schema_eq, fun spec hspec => ?_⟩
  rw [← explicit.specs_eq] at hspec
  obtain ⟨slot, hslot, rfl⟩ := List.mem_map.mp hspec
  rcases nested.ends (names ▸ distinct) stands slot hslot with holds | ⟨lacks, unsupplied, -⟩
  · exact .inl holds
  · exact .inr ⟨lacks, (faithful slot hslot).unsupplied unsupplied⟩

/-- A field of a finished node against the raw value it was made from. -/
structure Origin (r : Registry) (record : Entries Value) (n : Node) (spec : FieldSpec)
    (raw : Value) : Prop where
  supplied : (readKey record spec.name).isSome = true → n.has spec.name = true
  source : n.has spec.name = true → Source record spec raw
  made : ∀ v, n.values.lookup spec.name = some v → Value.MadeFrom r spec raw v

/-- The law of values that are made from what they are accepted for. -/
def MakesValues (r : Registry) : ValueLaw := fun spec raw _ v => Sourced r spec raw v

theorem origin_of_held {r : Registry} {schema : Schema} {last : Draft} {spec : FieldSpec}
    (distinct : schema.fieldNames.Nodup) (hspec : spec ∈ schema.fields)
    (held : Holds (Sourcing (MakesValues r) record) here last spec ∨
      Lacks last spec ∧ readKey record spec.name = none) :
    ∃ raw, Origin r record
      (last.finish schema.fieldNames schema.choiceType schema.compactable) spec raw := by
  have declared : spec.name ∈ schema.fieldNames := List.mem_map_of_mem hspec
  have present : (last.finish schema.fieldNames schema.choiceType schema.compactable).has
      spec.name = true ↔ spec.name ∈ schema.fieldNames ∧ (last.value? spec.name).isSome = true :=
    Draft.has_finish distinct
  rcases held with ⟨raw, v, before, -, ⟨taken, source⟩, value, -⟩ | ⟨lacks, unsupplied⟩
  · have shown := Draft.value?_of_get? value taken.defined
    refine ⟨raw, fun _ => present.mpr ⟨declared, by rw [shown]; rfl⟩, fun _ => source, ?_⟩
    intro w hw
    rw [Draft.lookup_finish distinct declared, shown] at hw
    cases hw
    exact taken.made
  · have shown := Draft.value?_of_none lacks.1
    refine ⟨.undefined, fun given => ?_, fun held => ?_, fun w hw => ?_⟩
    · rw [unsupplied] at given
      cases given
    · have some := (present.mp held).2
      rw [shown] at some
      cases some
    · rw [Draft.lookup_finish distinct declared, shown] at hw
      cases hw

/-- A node is made from a raw value if the rules accept it with values that are. -/
theorem NodeAccepts.madeFrom {rules : Rules} (coherent : rules.registry.Coherent) {raw : Value}
    {name : String} {n : Node} (h : NodeAccepts rules (MakesValues rules.registry) raw name here n) :
    NodeOf.MadeFrom rules.registry name raw n := by
  obtain ⟨found, -, -, expands, accepted⟩ := h
  rename_i schema record
  have distinct : schema.fieldNames.Nodup :=
    coherent.fields schema (List.mem_of_find?_eq_some found)
  obtain ⟨last, rfl, hschema, held⟩ := accepted.sourced distinct
  have origin : ∀ field, ∃ raw, ∀ spec ∈ schema.fields, spec.name = field →
      Origin rules.registry record
        (last.finish schema.fieldNames schema.choiceType schema.compactable) spec raw := by
    intro field
    by_cases declared : ∃ spec ∈ schema.fields, spec.name = field
    · obtain ⟨spec, hspec, rfl⟩ := declared
      obtain ⟨raw, origin⟩ := origin_of_held distinct hspec (held spec hspec)
      refine ⟨raw, fun other hother same => ?_⟩
      rwa [List.inj_on_of_nodup_map distinct hother hspec same]
    · exact ⟨.undefined, fun spec hspec same => absurd ⟨spec, hspec, same⟩ declared⟩
  choose source horigin using origin
  have expansion : Value.ExpandsTo rules.registry schema raw record := by
    cases expands with
    | record shape => exact .record shape
    | shortform shape declared taken expanded => exact .shortform shape declared taken.made expanded
  exact .intro source found (hschema.trans (Registry.name_of_find? found)) expansion
    (fun spec hspec => (horigin _ spec hspec rfl).supplied)
    (fun spec hspec => (horigin _ spec hspec rfl).source)
    (fun spec hspec => (horigin _ spec hspec rfl).made)

theorem checkNodeAt_madeFrom {rules : Rules} (coherent : rules.registry.Coherent)
    (traceable : rules.registry.Every (FieldSpec.Traceable rules.registry.kinds)) (levels : Nat)
    (raw : Value) (name : String) (place : Place) :
    Run.Ensures (checkNodeAt rules levels raw name place)
      (Run.Answers (NodeOf.MadeFrom rules.registry name raw)) := by
  induction levels generalizing raw name place with
  | zero => exact .throw
  | succ levels ih =>
    have values : ∀ spec, spec.Every (FieldSpec.Traceable rules.registry.kinds) →
        ∀ raw place, Run.Ensures (checkValue rules (checkNodeAt rules levels) questionLimit spec
          raw place) (Run.Answers (MakesValues rules.registry spec raw place.setting)) := by
      intro spec hspec raw place
      rw [checkValue_eq]
      exact checkSpec_sourced ih hspec raw place
    refine (checkNodeWith_ensures traceable values raw name place).mono fun answer accepted => ?_
    exact accepted.mono fun n h => NodeAccepts.madeFrom coherent h

theorem outcome_eq_valid_iff {answer : Option Node} {s : RunState} {n : Node} :
    outcome (.ok answer, s) = .ok (.valid n) ↔ answer = some n ∧ s.issues = #[] := by
  cases answer with
  | none => simp [outcome]
  | some m =>
    by_cases clean : s.issues = #[]
    · simp [outcome, clean]
    · simp [outcome, clean]

theorem outcome_eq_invalid {answer : Option Node} {s : RunState} {issues : List Issue}
    (h : outcome (.ok answer, s) = .ok (.invalid issues)) :
    issues = s.issues.toList ∧ (answer = none ∨ s.issues ≠ #[]) := by
  cases answer with
  | none =>
    cases h
    exact ⟨rfl, .inl rfl⟩
  | some m =>
    by_cases clean : s.issues = #[]
    · simp [outcome, clean] at h
    · simp only [outcome, Array.isEmpty_iff, clean, if_false, Except.ok.injEq,
        ValidationResult.invalid.injEq] at h
      exact ⟨h.symm, .inr clean⟩

end Validation

namespace Registry

open Validation

/-- No silent failure: a run that returns is valid exactly if it recorded no issue, an invalid
result carries issues, and a valid tree is made from the raw value so that no supplied value is
missing in any of its nodes. -/
theorem validate_keeps_supplied {r : Registry} (made : r.Made)
    (builtin : r.Every (FieldSpec.Builtin r.kinds)) (keys : r.Every FieldSpec.TextualKeys)
    (memory : Memory) (raw : Value) (schema : String) (o : ValidateOptions) :
    (∀ answer s, r.frozen = true → o.run r raw schema { memory } = (.ok answer, s) →
      ((∃ n, (r.validate memory raw schema o).result = .ok (.valid n)) ↔ s.issues = #[])) ∧
    (∀ issues, (r.validate memory raw schema o).result = .ok (.invalid issues) → issues ≠ []) ∧
    ∀ n, (r.validate memory raw schema o).result = .ok (.valid n) →
      NodeOf.MadeFrom r schema raw n := by
  have traceable : r.Every (FieldSpec.Traceable r.kinds) := fun s hs top ht part hp =>
    ⟨builtin s hs top ht part hp, keys s hs top ht part hp⟩
  have coherent : (o.rules r).registry.Coherent := made.coherent
  have answers : ∀ answer s, o.run r raw schema { memory } = (.ok answer, s) → s.issues = #[] →
      ∃ n, answer = some n ∧ NodeOf.MadeFrom r schema raw n := fun answer s run =>
    (checkNodeAt_madeFrom coherent traceable _ raw schema _ _ answer s run).2
  refine ⟨fun answer s frozen run => ?_, fun issues invalid => ?_, fun n valid => ?_⟩
  · rw [(validate_eq frozen memory raw schema o).1, run]
    constructor
    · rintro ⟨n, valid⟩
      exact (outcome_eq_valid_iff.mp valid).2
    · intro clean
      obtain ⟨n, rfl, -⟩ := answers answer s run clean
      exact ⟨n, outcome_eq_valid_iff.mpr ⟨rfl, clean⟩⟩
  · rw [(validate_eq (frozen_of_ok invalid) memory raw schema o).1] at invalid
    obtain ⟨answer, s, run⟩ := outcome_eq_ok invalid
    rw [run] at invalid
    obtain ⟨rfl, flawed⟩ := outcome_eq_invalid invalid
    intro empty
    have clean : s.issues = #[] := Array.toList_eq_nil_iff.mp empty
    obtain ⟨n, rfl, -⟩ := answers answer s run clean
    rcases flawed with no | recorded
    · cases no
    · exact recorded clean
  · rw [(validate_eq (frozen_of_ok valid) memory raw schema o).1] at valid
    obtain ⟨answer, s, run⟩ := outcome_eq_ok valid
    rw [run] at valid
    obtain ⟨rfl, clean⟩ := outcome_eq_valid_iff.mp valid
    obtain ⟨m, same, madeFrom⟩ := answers (some n) s run clean
    cases same
    exact madeFrom

end Registry

namespace Posts

/-- The name of a tag is a text. -/
def named : FieldSpec :=
  .either { name := "key", kind := "either" }
    (.leaf { name := "primitive", kind := "string" }) (.leaf { name := "complex", kind := "json" })

/-- The name of a tag is a list of flags, or one of them. -/
def flagged : FieldSpec :=
  .either { name := "key", kind := "either" }
    (.leaf {
      name := "primitive", kind := "multiselection"
      constraints := { options := some ["new", "hot"] } })
    (.leaf { name := "complex", kind := "json" })

def tags (key : FieldSpec) : FieldSpec :=
  .mapping { name := "tags", kind := "mapping" } key (.leaf { name := "value", kind := "integer" })

def post (key : FieldSpec) : Schema where
  name := "post"
  fields := [tags key]

/-- A post that is written as a list of tags. -/
def brief (key : FieldSpec) : Schema where
  name := "brief"
  fields := [.leaf { name := "title", kind := "string" }]
  info := { shortform := some ⟨.list { name := "tags", kind := "list" } (tags key),
    fun _ => .ok [("title", .text "Untitled")]⟩ }

def opened (key : FieldSpec) : Registry where
  kinds := .builtin
  schemas := [post key, brief key]

/-- Posts with tags, of which the first kind names the tags by a text and the second by flags. -/
def registry (key : FieldSpec) : Registry := { opened key with frozen := true }

def tagged : Value := .record [("hot", .number 1)] true

theorem registry_made {key : FieldSpec} (complete : (opened key).unresolved = []) :
    (registry key).Made := by
  have posts := Registry.Made.schema (.empty .builtin) (show Registry.register? _ (post key).name
    (.specs (post key).fields) (post key).info = .ok (_, post key) from rfl)
  have briefs := Registry.Made.schema posts (show Registry.register? _ (brief key).name
    (.specs (brief key).fields) (brief key).info = .ok (_, brief key) from rfl)
  exact .frozen briefs rfl complete

theorem registry_builtin {key : FieldSpec} (h : key.Every (FieldSpec.Builtin .builtin)) :
    (registry key).Every (FieldSpec.Builtin (registry key).kinds) := by
  have tagged : (tags key).Every (FieldSpec.Builtin .builtin) := by
    intro part hp
    simp only [tags, FieldSpec.walk, List.mem_cons, List.mem_append, List.not_mem_nil,
      or_false] at hp
    rcases hp with rfl | hp | rfl
    · exact ⟨.mapping, rfl, rfl⟩
    · exact h part hp
    · exact ⟨.integer, rfl, rfl⟩
  simp only [Registry.Every, registry, opened, post, brief, Schema.allFields, List.forall_mem_cons,
    List.forall_mem_append, Option.map_none, Option.map_some, Option.toList_none,
    Option.toList_some, List.not_mem_nil, false_imp_iff, implies_true, and_true]
  refine ⟨tagged, ?_, ?_⟩
  · intro part hp
    rw [List.mem_singleton.mp hp]
    exact ⟨.string, rfl, rfl⟩
  · intro part hp
    rcases List.mem_cons.mp hp with rfl | hp
    · exact ⟨.list, rfl, rfl⟩
    · exact tagged part hp

theorem named_builtin : named.Every (FieldSpec.Builtin .builtin) := by
  simp only [FieldSpec.Every, named, FieldSpec.walk, List.forall_mem_cons, List.forall_mem_append,
    List.not_mem_nil, false_imp_iff, implies_true, and_true]
  exact ⟨⟨.either, rfl, rfl⟩, ⟨.string, rfl, rfl⟩, ⟨.json, rfl, rfl⟩⟩

theorem flagged_builtin : flagged.Every (FieldSpec.Builtin .builtin) := by
  simp only [FieldSpec.Every, flagged, FieldSpec.walk, List.forall_mem_cons,
    List.forall_mem_append, List.not_mem_nil, false_imp_iff, implies_true, and_true]
  exact ⟨⟨.either, rfl, rfl⟩, ⟨.multiselection, rfl, rfl⟩, ⟨.json, rfl, rfl⟩⟩

/-- The tag of a post is kept. -/
theorem post_keeps_tags :
    ((registry named).validate [] (.record [("tags", tagged)] true) "post" {}).result =
        .ok (.valid ⟨"post", [("tags", tagged)], [], none, []⟩) ∧
      NodeOf.MadeFrom (registry named) "post" (.record [("tags", tagged)] true)
        ⟨"post", [("tags", tagged)], [], none, []⟩ := by
  have keys : (registry named).Every FieldSpec.TextualKeys := by
    have textual : named.KeepsTexts := .either rfl (.plain (k := .string) rfl rfl)
    simpa [Registry.Every, FieldSpec.Every, registry, opened, post, brief, tags, named,
      Schema.allFields, FieldSpec.walk, FieldSpec.TextualKeys] using textual
  have sorted : Kind.sortMapping false [("hot", .number 1)] = [("hot", .number 1)] := by
    have word : Record.index? "hot" = none := rfl
    simp [Kind.sortMapping, Record.ofList, Record.merge, Record.insert, Entries.has, word]
  have valid : ((registry named).validate [] (.record [("tags", tagged)] true) "post" {}).result =
      .ok (.valid ⟨"post", [("tags",
        .record (Kind.sortMapping false [("hot", .number 1)]) true)], [], none, []⟩) := rfl
  rw [sorted] at valid
  exact ⟨valid, (Registry.validate_keeps_supplied (registry_made rfl)
    (registry_builtin named_builtin) keys _ _ _ _).2.2 _ valid⟩

/-- Where a key is made into something else than a text, its entry fails without an issue: a
required field is missing from a valid tree, and an invalid result says nothing. -/
theorem post_loses_tags :
    (registry flagged).Made ∧ (registry flagged).Every (FieldSpec.Builtin .builtin) ∧
      ((registry flagged).validate [] (.record [("tags", tagged)] true) "post" {}).result =
        .ok (.valid ⟨"post", [], [], none, []⟩) ∧
      ((registry flagged).validate [] (.list [tagged]) "brief" {}).result = .ok (.invalid []) :=
  ⟨registry_made rfl, registry_builtin flagged_builtin, rfl, rfl⟩

end Posts

end ShapedTree
