import ShapedTree.Proofs.Validation.DraftInvariants
import ShapedTree.Proofs.Validation.HeldNodes
import ShapedTree.Proofs.Validation.Inference
import ShapedTree.Proofs.Validation.Provenance
import ShapedTree.Proofs.Validation.Resolution

namespace ShapedTree

open Run ShapedTree.Computation

/-- The text is accepted as itself, if at all. -/
inductive FieldSpec.KeepsText (c : KindCatalog) (t : String) : FieldSpec → Prop
  | plain {s : FieldSpec} {k : BuiltinKind} (known : c.Knows k s) (flat : k.isNested = false)
      (keeps : ∀ v, k.verdict s.info.constraints.patternless (.text t) = .ok v → v = .text t) :
      KeepsText c t s
  | refuses {s : FieldSpec} {k : BuiltinKind} (known : c.Knows k s)
      (parts : k = .list ∨ k = .mapping) : KeepsText c t s
  | either {info : FieldInfo} {primitive complex : FieldSpec}
      (known : c.Knows .either (.either info primitive complex)) (form : KeepsText c t primitive) :
      KeepsText c t (.either info primitive complex)

/-- A field called `type` stores nothing but the given type: its specification accepts that text as
itself, and its default makes nothing else. -/
def Schema.KeepsType (c : KindCatalog) (s : Schema) (type : String) : Prop :=
  ∀ spec ∈ s.fields, spec.name = "type" → spec.KeepsText c type ∧
    ∀ d v, spec.info.default? = some d → d.Makes v → v = .text type

/-- A node has the type of its schema, and so has its value under `type` if there is one. -/
def NodeOf.Discriminated (r : Registry) (c : Node) : Prop :=
  ∃ s, r.find? c.schema = some s ∧ c.choiceType = s.choiceType ∧
    ∀ t, s.choiceType = some t → s.KeepsType r.kinds t → ∀ v, ("type", v) ∈ c.values → v = .text t

/-- A node that has its type is written with it. -/
theorem Node.lookup_type_serialize {c : Node} {t : String} (typed : c.choiceType = some t)
    (stored : ∀ v, ("type", v) ∈ c.values → v = .text t) (o : Omission) :
    (c.serialize o).lookup "type" = some (.text t) := by
  let written := typeEntry c.choiceType ++
    (Value.serializeEntries o c.values).filter fun e => c.keeps o e.1
  have only : ∀ v, ("type", v) ∈ written → v = .text t := by
    intro v mem
    rcases List.mem_append.mp mem with first | kept
    · rw [typed] at first
      simpa [typeEntry] using first
    · have mem := (List.mem_filter.mp kept).1
      rw [Value.serializeEntries_eq_map] at mem
      obtain ⟨⟨key, w⟩, held, same⟩ := List.mem_map.mp mem
      cases same
      rw [stored w held]
      rfl
  cases found : (c.serialize o).lookup "type" with
  | none =>
    refine absurd ?_ (Entries.lookup_eq_none_iff.mp found)
    exact Record.mem_keys_ofList.mpr (by simp [typed, typeEntry])
  | some v =>
    rw [only v (Record.mem_of_mem_ofList (Entries.mem_of_lookup found))]

theorem FieldSpec.KeepsText.string {c : KindCatalog} {t : String} {s : FieldSpec}
    (known : c.Knows .string s) : s.KeepsText c t := by
  refine .plain known rfl fun v taken => ?_
  obtain ⟨s, same, -, rfl⟩ := BuiltinKind.verdict_string.mp taken
  exact same.symm

namespace Validation

variable {rules : Rules} {node : NodeRun} {other value : ValueRun} {t : String}

/-- What a kind makes of a text is answered, if no text fails the extra check. -/
theorem checkWith_grants {law : Value → Prop} {spec : FieldSpec} {k : BuiltinKind}
    (known : rules.registry.kinds.Knows k spec) {parts : PartChecks Run} {place : Place}
    (checked : Grants (k.check (context rules node other spec place) parts spec.info (.text t))
      (Kind.Allows law)) :
    Grants (checkWith rules (context rules node other spec place) parts spec (.text t) place.path)
      (Permits law) := by
  refine checkWith_holds (L := .granting rules)
    (fun _ _ _ => ⟨fun no => no.elim, fun _ _ => trivial⟩) (fun no => no.elim) nofun fun _ => ?_
  rw [known.check_eq]
  exact checked

/-- What a kind without parts answers a text with has its verdict. -/
theorem checkSpec_text {law : Value → Prop} {spec : FieldSpec} {k : BuiltinKind}
    (known : rules.registry.kinds.Knows k spec) (flat : k.isNested = false)
    (lawful : ∀ v, k.verdict spec.info.constraints.patternless (.text t) = .ok v → law v)
    (place : Place) :
    Grants (checkSpec rules node other spec (.text t) place) (Permits law) := by
  rw [checkSpec_eq]
  refine checkWith_grants known ((BuiltinKind.check_grants flat rfl _ _).mono
    fun result settles v same => ?_)
  rcases settles with ⟨f, fs, no⟩ | ⟨w, taken, verdict⟩
  · cases same.symm.trans no
  · cases same.symm.trans taken
    exact lawful v verdict

/-- A specification that keeps a text answers it with that text. -/
theorem checkSpec_keeps {spec : FieldSpec} (keeps : spec.KeepsText rules.registry.kinds t)
    (place : Place) :
    Grants (checkSpec rules node other spec (.text t) place) (Permits (· = .text t)) := by
  induction keeps generalizing place with
  | plain known flat keeps => exact checkSpec_text known flat keeps place
  | refuses known parts =>
    rw [checkSpec_eq]
    refine checkWith_grants known ?_
    rcases parts with rfl | rfl <;> exact .pure .error
  | @either info primitive complex known form ih =>
    refine checkWith_grants known ?_
    refine (ih _).bind fun answer held => ?_
    cases answer with
    | none => exact .pure .error
    | some v => exact .pure (.ok (held v rfl))

variable {schema : Schema} {record : Entries Value} {place : Place} {P : Node → Prop}
  {Q : String → Value → Prop}

/-- The values of a node's fields, whatever of the record feeds them, satisfy a law by the name of
the field. -/
def FieldsGrant (Q : String → Value → Prop) (value : ValueRun) (schema : Schema)
    (record : Entries Value) : Prop :=
  ∀ spec ∈ schema.fields, ∀ raw, Feeds record spec raw → ∀ place,
    Grants (value spec raw place) (Permits (Q spec.name))

/-- A draft of a schema whose values satisfy a law by their names. -/
structure Drafted (schema : Schema) (Q : String → Value → Prop) (d : Draft) : Prop where
  schema : d.schema = schema.name
  values : ∀ e ∈ d.values, Q e.1 e.2

theorem resolve_grants (fields : FieldsGrant Q value schema record) {spec : FieldSpec}
    (declared : spec ∈ schema.fields) {raw : Value} (fed : Feeds record spec raw) {draft : Draft}
    (drafted : Drafted schema Q draft) (mark : Bool) :
    Grants (resolve value place draft spec raw mark) (Drafted schema Q) := by
  refine (fields spec declared raw fed _).bind fun answer lawful => ?_
  cases answer with
  | none => exact .pure drafted
  | some v =>
    refine .pure ⟨drafted.schema, fun e he => ?_⟩
    rcases Entries.mem_of_mem_put he with rfl | old
    · exact lawful v rfl
    · exact drafted.values e old

theorem checkType_flags :
    Flags rules (checkType rules schema record place) fun _ => TypeFits schema record := by
  unfold checkType
  split
  next membership type choice named =>
    split
    next =>
      intro s a t run
      obtain ⟨shown, s', read, run⟩ := bind_eq_ok run
      obtain ⟨-, rfl⟩ := Prod.mk.inj read
      exact (Flags.report s a t run).imp_right fun flagged => .inr (flagged.resolve_left id)
    next same =>
      refine .pure fun membership' type' choice' named' => ?_
      cases choice.symm.trans choice'
      cases named.symm.trans named'
      simpa using same
  next none => exact .pure fun membership type choice named => (none _ _ choice named).elim

theorem fill_flags (fields : FieldsGrant Q value schema record) :
    Flags rules (fill rules value schema record place) fun d =>
      TypeFits schema record ∧ Drafted schema Q d := by
  refine (checkType_flags.bind (R := fun _ => Drafted schema Q) fun _ => ?_).mono
    fun _ ⟨_, h⟩ => h
  refine (Grants.of_ensures (checkKeys_ensures record)).bind fun _ _ => ?_
  refine (firstPass_invariant schema.fields (fun _ h => h)
    (fun spec declared raw fed _ draft mark h => resolve_grants fields declared fed h mark)
    ⟨rfl, List.forall_mem_nil _⟩).bind fun r hr => ?_
  refine (secondPass_invariant r.1 hr.1
    (fun slot hslot raw fed draft mark h =>
      resolve_grants fields (hr.1 slot hslot).declared fed h mark) [] hr.2).bind
    fun last drafted => ?_
  exact (Grants.of_ensures (checkMissing_ensures r.1)).bind fun _ _ => .pure drafted

/-- A finished node comes of a record that names no other type. -/
theorem checkFields_grants (fields : FieldsGrant Q value schema record) :
    Grants (checkFields rules value schema record place) (Permits fun n =>
      TypeFits schema record ∧ n.schema = schema.name ∧ n.choiceType = schema.choiceType ∧
        ∀ e ∈ n.values, Q e.1 e.2) := by
  refine (checkFields_finishes (fill_flags fields)).mono fun answer finished n same => ?_
  obtain ⟨draft, ⟨fits, drafted⟩, rfl⟩ := finished n same
  refine ⟨fits, drafted.schema, rfl, fun e he => ?_⟩
  have entry := Draft.mem_entries.mp (Entries.mem_of_mem_ofList he)
  exact drafted.values _ (Draft.mem_values_of_value? entry.2)

/-- A field called `type` takes no other text from a record that fits and from the default. -/
theorem text_of_feeds {t : String} {spec : FieldSpec} {raw : Value}
    (keeps : schema.KeepsType rules.registry.kinds t) (typed : schema.choiceType = some t)
    (fits : TypeFits schema record) (declared : spec ∈ schema.fields) (named : spec.name = "type")
    (fed : Feeds record spec raw) :
    raw = .text t ∧ spec.KeepsText rules.registry.kinds t := by
  obtain ⟨form, default⟩ := keeps spec declared named
  refine ⟨?_, form⟩
  rcases fed with given | ⟨d, hd, made⟩
  · obtain ⟨membership, choice, rfl⟩ := Option.map_eq_some_iff.mp typed
    have same := fits membership raw choice (named ▸ given)
    cases raw with
    | text a => rw [show a = membership.type by simpa [Value.same] using same]
    | _ => simp [Value.same] at same
  · exact default d raw hd made

/-- The values of a node's fields hold nodes that have their types, and if there is one under `type`
it is the type of the schema. -/
theorem fields_discriminated {levels : Nat} (relays : rules.registry.kinds.Relays)
    (hnode : NodesGrant (NodeOf.Discriminated rules.registry) (checkNodeAt rules levels)) :
    FieldsGrant (fun name v => v.AllNodes (NodeOf.Discriminated rules.registry) ∧
        (TypeFits schema record → ∀ t, schema.choiceType = some t →
          schema.KeepsType rules.registry.kinds t → name = "type" → v = .text t))
      (checkValue rules (checkNodeAt rules levels) questionLimit) schema record := by
  intro spec declared raw fed place
  have held := checkValue_grants relays hnode questionLimit spec raw place
  intro s answer u run
  obtain ⟨before, nodes⟩ := held s answer u run
  refine ⟨before, fun v taken => ⟨nodes v taken, fun fits t typed keeps named => ?_⟩⟩
  obtain ⟨rfl, form⟩ := text_of_feeds keeps typed fits declared named fed
  rw [checkValue_eq] at run
  exact (checkSpec_keeps form place s answer u run).2 v taken

theorem expand_grants (values : ValuesGrant P value) (raw : Value) :
    Grants (expand rules value raw schema place) fun _ => True := by
  unfold expand
  split
  next => exact .pure trivial
  next =>
    split
    next => exact Grants.report.bind fun _ _ => .pure trivial
    next short _ =>
      refine (values short.field raw _).bind fun answer _ => ?_
      cases answer with
      | none => exact .pure trivial
      | some v => exact (Grants.lift _).bind fun _ _ => .pure trivial

/-- What a record comes to is discriminated if the nodes below are. -/
theorem expanded_discriminated (relays : rules.registry.kinds.Relays) {levels : Nat}
    (h : NodesGrant (NodeOf.Discriminated rules.registry) (checkNodeAt rules levels))
    {schema : Schema} {name : String} (found : rules.registry.find? name = some schema)
    (raw : Value) (place : Place) :
    Grants (expand rules (checkValue rules (checkNodeAt rules levels) questionLimit) raw schema
      place >>= fun
      | none => pure none
      | some record => checkFields rules
          (checkValue rules (checkNodeAt rules levels) questionLimit) schema record place)
      (Permits fun n => (Value.node n).AllNodes (NodeOf.Discriminated rules.registry)) := by
  refine (expand_grants (checkValue_grants relays h questionLimit) raw).bind fun answer _ => ?_
  cases answer with
  | none => exact .pure .none
  | some record =>
    refine (checkFields_grants (fields_discriminated relays h)).mono ?_
    intro answer finished n same
    obtain ⟨fits, named, typed, stored⟩ := finished n same
    have known : rules.registry.find? n.schema = some schema := by
      rw [named, Registry.name_of_find? found, found]
    refine .node ⟨schema, known, typed, fun t ht keeps v mem => ?_⟩ fun e he => (stored e he).1
    exact (stored _ mem).2 fits t ht keeps rfl

/-- Every node that a run comes to has its type, and so has every node below. -/
theorem checkNodeAt_discriminated (relays : rules.registry.kinds.Relays) (levels : Nat) :
    NodesGrant (NodeOf.Discriminated rules.registry) (checkNodeAt rules levels) := by
  induction levels with
  | zero => exact fun _ _ _ _ _ _ no => by cases no
  | succ levels ih =>
    intro raw name place
    show Grants (checkNodeWith rules (checkValue rules (checkNodeAt rules levels) questionLimit) raw
      name place) _
    unfold checkNodeWith
    refine Grants.halted.bind fun stopped _ => ?_
    cases stopped with
    | true => exact .pure .none
    | false =>
      simp only [Bool.false_eq_true, if_false]
      split
      next => exact Grants.report.bind fun _ _ => .pure .none
      next schema found =>
        split
        next => exact Grants.report.bind fun _ _ => .pure .none
        next =>
          have whole := expanded_discriminated relays ih found raw place
          split
          next => exact fun _ _ _ no => by cases no
          next => exact whole

end Validation

open Validation

/-- The type of a choice member survives serialization, unless a field called `type` stores
something else: whatever is omitted, the record of the node has that type, and a choice of the group
that reads the record takes it for the same member. -/
theorem Registry.type_survives {r : Registry} (made : r.Made) (relays : r.kinds.Relays)
    {memory : Memory} {raw : Value} {name : String} {o : ValidateOptions} {tree : Node}
    (valid : (r.validate memory raw name o).result = .ok (.valid tree)) {c : Node}
    (reached : tree.Reaches c) {group t : String} (member : (t, c.schema) ∈ r.choiceMembers group)
    (keeps : ∀ s, r.find? c.schema = some s → s.KeepsType r.kinds t) (omission : Omission) :
    (c.serialize omission).lookup "type" = some (.text t) ∧
      ∀ (reading : ValidateOptions) (node : NodeRun) (place : Place) (s : RunState),
        ¬ s.Stopped reading.errors →
        Choice.check (reading.rules r) node (.record (c.serialize omission) true) group place s =
          node (.record (c.serialize omission) true) c.schema place s := by
  obtain ⟨-, u, run, -⟩ := validate_eq_valid_iff.mp valid
  have granted : NodesGrant (NodeOf.Discriminated r)
      (checkNodeAt (o.rules r) (Validation.levels o.maxDepth)) := checkNodeAt_discriminated relays _
  obtain ⟨schema, found, same, stored⟩ :=
    (granted raw name _ _ _ _ run).2 tree rfl tree (.node tree) c reached
  obtain ⟨schema', found', choice⟩ := (made.coherent.member_iff group t c.schema).mp member
  cases found.symm.trans found'
  have typed : schema.choiceType = some t := by simp [Schema.choiceType, choice]
  have written := Node.lookup_type_serialize (same.trans typed)
    (stored t typed (keeps schema found)) omission
  refine ⟨written, fun reading node place s going => ?_⟩
  have named : Choice.namedType? (.record (c.serialize omission) true) = some (.text t) := by
    simp [Choice.namedType?, Value.entries?, written, Value.isUndefined]
  exact Choice.check_named made.coherent going named member

namespace Emblems

def radius : FieldSpec := .leaf { name := "radius", kind := "integer" }

/-- A text field called `type` with a default. -/
def typeField (default : String) : FieldSpec :=
  .leaf { name := "type", kind := "string", default? := some (.constant (.text default)) }

/-- An emblem with a field called `type`. -/
def emblem (name default : String) : Schema where
  name := name
  fields := [typeField default, radius]
  info := { choice := some ⟨"emblem", name⟩ }

def crest : Schema where
  name := "crest"
  fields := [
    .leaf { name := "emblem", kind := "choice", constraints := { choice := some "emblem" } }]

/-- The default of a disc is its own type, that of a band is the type of a disc. -/
def registry : Registry where
  kinds := .builtin
  schemas := [emblem "disc" "disc", emblem "band" "disc", crest]
  choices := [("emblem", [("disc", "disc"), ("band", "band")])]
  frozen := true

theorem registry_made : registry.Made := by
  have discs := Registry.Made.schema (.empty .builtin) (show Registry.register? _ "disc"
    (.specs (emblem "disc" "disc").fields) (emblem "disc" "disc").info =
      .ok (_, emblem "disc" "disc") from rfl)
  have bands := Registry.Made.schema discs (show Registry.register? _ "band"
    (.specs (emblem "band" "disc").fields) (emblem "band" "disc").info =
      .ok (_, emblem "band" "disc") from rfl)
  have crests := Registry.Made.schema bands (show Registry.register? _ crest.name
    (.specs crest.fields) crest.info = .ok (_, crest) from rfl)
  exact .freeze crests

/-- A figure that does not name its type. -/
def figure : Value := .record [("radius", .number 2)] true

/-- A node of an emblem, with the type that its field stores. -/
def worn (name type : String) : Node :=
  ⟨name, [("type", .text type), ("radius", .number 2)], ["type"], some name, []⟩

/-- The type of a disc is written as it is, and a choice reads it. -/
theorem disc_survives :
    (registry.validate [] figure "disc" {}).result = .ok (.valid (worn "disc" "disc")) ∧
      ((worn "disc" "disc").serialize .none).lookup "type" = some (.text "disc") := by
  have valid : (registry.validate [] figure "disc" {}).result =
    .ok (.valid (worn "disc" "disc")) := rfl
  have keeps : ∀ s, registry.find? "disc" = some s → s.KeepsType registry.kinds "disc" := by
    intro s found spec declared named
    cases found
    rcases List.mem_pair.mp declared with rfl | rfl
    · exact ⟨.string ⟨rfl, rfl⟩, fun d v same made => by cases same; exact made⟩
    · exact absurd named (by decide)
  exact ⟨valid, (Registry.type_survives registry_made .builtin valid (.root _)
    (show ("disc", "disc") ∈ registry.choiceMembers "emblem" from .head _) keeps .none).1⟩

/-- A band is written as a disc, because of the default of its field `type`, and a crest that reads
the record has a disc. -/
theorem band_lost :
    registry.Made ∧ ("band", "band") ∈ registry.choiceMembers "emblem" ∧
      (registry.validate [] figure "band" {}).result = .ok (.valid (worn "band" "disc")) ∧
      ((worn "band" "disc").serialize .none).lookup "type" = some (.text "disc") ∧
      (registry.validate [] (.record [("emblem",
        .record ((worn "band" "disc").serialize .none) true)] true) "crest" {}).result =
          .ok (.valid ⟨"crest", [("emblem", .node { worn "disc" "disc" with defaulted := [] })], [],
            none, []⟩) :=
  ⟨registry_made, .tail _ (.head _), rfl, rfl, rfl⟩

end Emblems

end ShapedTree
