import ShapedTree.Proofs.Kind.Wording
import ShapedTree.Proofs.Text.UnitOrder
import ShapedTree.Proofs.Validation.Resolution

namespace ShapedTree

open Run Text

/-- The texts that a specification gives to issues are of one line: its options, what it refers to
and the messages of its extra check. -/
structure FieldSpec.Worded (s : FieldSpec) : Prop where
  options : ∀ o ∈ Kind.optionsOf s.info.constraints, OneLine o
  target : ∀ name ∈ s.info.constraints.target, OneLine name
  group : ∀ name ∈ s.info.constraints.choice, OneLine name
  check : ∀ check, s.info.constraints.validator = some check → ∀ v message,
    check v = .ok (.failWith message) → OneLine message

/-- The specification is worded on one line and of a registered kind. -/
structure FieldSpec.Voiced (c : KindCatalog) (s : FieldSpec) : Prop extends s.Worded where
  known : c.has s.kind = true

/-- A dialogue finds nothing that cannot be read, and whatever it asks for is named on one line. -/
inductive Dialogue.Voiced (c : KindCatalog) : Dialogue → Prop
  | answer {result : KindResult} (h : Kind.Reads result) : Voiced c (.answer result)
  | fail (fault : Fault) : Voiced c (.fail fault)
  | halted {next : Bool → Dialogue} (h : ∀ stopped, Voiced c (next stopped)) :
      Voiced c (.halted next)
  | node {raw : Value} {schema : String} {kwargs : Option (Entries Value)}
      {next : Option Node → Dialogue} (named : OneLine schema)
      (h : ∀ answer, Voiced c (next answer)) : Voiced c (.node raw schema kwargs next)
  | choice {raw : Value} {group : String} {kwargs : Option (Entries Value)}
      {next : Option Node → Dialogue} (named : OneLine group)
      (h : ∀ answer, Voiced c (next answer)) : Voiced c (.choice raw group kwargs next)
  | value {spec : FieldSpec} {raw : Value} {label : String} {next : Option Value → Dialogue}
      (asked : spec.Every (FieldSpec.Voiced c)) (labelled : OneLine label)
      (h : ∀ answer, Voiced c (next answer)) : Voiced c (.value spec raw label next)
  | afresh {spec : FieldSpec} {rest : Dialogue} (h : Voiced c rest) : Voiced c (.afresh spec rest)

/-- A custom kind speaks on one line wherever its specification does. -/
def CustomKind.Voiced (c : KindCatalog) (k : CustomKind) : Prop :=
  ∀ spec : FieldSpec, spec.Every (FieldSpec.Voiced c) → ∀ raw path kwargs, OneLinePath path →
    (k raw spec path kwargs).Voiced c

/-- The texts that a schema gives to issues are of one line: its name and its type, the names of its
fields with their help, and the messages of its check. -/
structure Schema.Worded (s : Schema) : Prop where
  name : OneLine s.name
  type : ∀ type ∈ s.choiceType, OneLine type
  fields : ∀ spec ∈ s.allFields, OneLine spec.name ∧ OneLine spec.info.help
  check : ∀ check, s.info.validator = some check → ∀ args message,
    check args = .ok (.failWith message) → OneLine message

/-- The texts of a registry are of one line. -/
structure Registry.Worded (r : Registry) : Prop where
  schemas : ∀ s ∈ r.schemas, s.Worded
  specs : r.Every FieldSpec.Worded
  kinds : ∀ tag d k, r.kinds.find? tag = some d → d.rule = .custom k → k.Voiced r.kinds

namespace Schema.Worded

variable {s : Schema}

theorem fieldName (h : s.Worded) {spec : FieldSpec} (hs : spec ∈ s.fields) : OneLine spec.name :=
  (h.fields spec (List.mem_append_left _ hs)).1

theorem fieldHelp (h : s.Worded) {spec : FieldSpec} (hs : spec ∈ s.fields) :
    OneLine spec.info.help := (h.fields spec (List.mem_append_left _ hs)).2

theorem shortName (h : s.Worded) {short : Shortform} (declared : s.info.shortform = some short) :
    OneLine short.field.name := (h.fields _ (by simp [Schema.allFields, declared])).1

theorem fieldNames (h : s.Worded) : ∀ name ∈ s.fieldNames, OneLine name := by
  intro name hn
  obtain ⟨spec, hs, rfl⟩ := List.mem_map.mp hn
  exact h.fieldName hs

/-- What a group calls a node of the schema. -/
theorem title (h : s.Worded) : OneLine (s.choiceType.getD s.name) := by
  cases type : s.choiceType with
  | none => exact h.name
  | some t => exact h.type t type

end Schema.Worded

namespace Registry

variable {r : Registry}

theorem Worded.found (h : r.Worded) {name : String} {s : Schema} (found : r.find? name = some s) :
    s.Worded := h.schemas s (List.mem_of_find?_eq_some found)

theorem Worded.names (h : r.Worded) : ∀ name ∈ r.names, OneLine name := by
  intro name hn
  obtain ⟨s, hs, rfl⟩ := List.mem_map.mp hn
  exact (h.schemas s hs).name

theorem Worded.member (h : r.Worded) (coherent : r.Coherent) {group : String}
    {m : String × String} (member : m ∈ r.choiceMembers group) : OneLine m.1 ∧ OneLine m.2 := by
  obtain ⟨s, found, choice⟩ := (coherent.member_iff group m.1 m.2).mp member
  have worded := h.found found
  exact ⟨worded.type _ (by simp [Schema.choiceType, choice]), name_of_find? found ▸ worded.name⟩

theorem Worded.voiced (h : r.Worded) (made : r.Made) (frozen : r.frozen = true) :
    r.Every (FieldSpec.Voiced r.kinds) := fun s hs top ht part hp =>
  ⟨h.specs s hs top ht part hp, ((made.resolved frozen s hs top ht part hp).whole made).known⟩

end Registry

/-- Whatever a computation adds to the issues can be read, and whatever it returns satisfies `post`.
-/
abbrev Run.Readably {α : Type} (x : Run α) (post : α → Prop) : Prop :=
  Coincides anywhere Issue.Readable x x post

namespace Run.Readably

variable {α : Type} {rules : Rules} {P : α → Prop}

theorem guard {x y : Run α} (hy : Readably y P) (hx : Readably x P) :
    Readably (do if ← Run.halted rules then y else x) P :=
  Coincides.guard hy (hx.restrict fun _ _ => trivial)

variable {path : List String} {kind : IssueKind} {message : String} {suggestion : Option String}
  {raw : Option Value}

theorem report (hp : OneLinePath path) (hm : OneLine message) (hs : ∀ s ∈ suggestion, OneLine s) :
    Readably (report rules path kind message suggestion raw) fun _ => True :=
  Coincides.report
    (Issue.readable_of_finding hp (f := ⟨kind, message, suggestion⟩) fun _ => ⟨hm, hs⟩)

/-- A report without advice. -/
theorem tells (hp : OneLinePath path) (hm : OneLine message) :
    Readably (Run.report rules path kind message none raw) fun _ => True := report hp hm oneLine_none

theorem reports (hp : OneLinePath path) {raw : Value} {fs : List Finding}
    (h : ∀ f ∈ fs, f.Readable) :
    Readably (fs.forM (reportFinding rules path raw)) fun _ => True := by
  induction fs with
  | nil => exact .pure trivial
  | cons f fs ih =>
    obtain ⟨first, others⟩ := List.forall_mem_cons.mp h
    exact (Coincides.report (Issue.readable_of_finding hp first)).bind fun _ _ => ih others

end Run.Readably

namespace Kind

variable {rules : Rules}

theorem checkItems_readably {item : PartCheck Run}
    (h : ∀ raw label, OneLine label → Readably (item raw label) fun _ => True) (index : Nat)
    (items : List Value) :
    Readably (checkItems (halted rules) item index items) fun _ => True := by
  induction items generalizing index with
  | nil => exact .pure trivial
  | cons raw rest ih =>
    have label : OneLine s!"[{index}]" := oneLine_around (by decide) (oneLine_count _) (by decide)
    refine (h raw _ label).bind fun first _ => Readably.guard (.pure trivial) ?_
    refine (ih _).bind fun others _ => ?_
    split <;> exact .pure trivial

theorem checkEntries_readably {byInteger : Bool} {key value : PartCheck Run}
    (hkey : ∀ raw label, OneLine label → Readably (key raw label) fun _ => True)
    (hvalue : ∀ raw label, OneLine label → Readably (value raw label) fun _ => True)
    (failed : Bool) (done : Entries Value) (es : List (String × Value)) :
    Readably (checkEntries (halted rules) byInteger key value failed done es) Reads := by
  have last : ∀ (failed : Bool) (done : Entries Value), Reads (if failed then reported else
      (.ok (.record (sortMapping byInteger done) true) : KindResult)) := by
    intro failed done
    cases failed with
    | true => exact .reported
    | false => exact .ok
  induction es generalizing failed done with
  | nil => exact .pure (last failed done)
  | cons e rest ih =>
    have label : OneLine ("[" ++ quote e.1 ++ "]") :=
      oneLine_around (by decide) (oneLine_quote _) (by decide)
    refine (hkey _ _ label).bind fun k _ => (hvalue _ _ label).bind fun v _ => ?_
    split
    next k v =>
      split
      next =>
        refine .pure (.found fun pasted => ⟨?_, oneLine_none⟩)
        have verbatim : OneLine k := pasted k .key
        exact oneLine_around (by decide) verbatim (by decide)
      next => exact Readably.guard (.pure (last _ _)) (ih _ _)
    next => exact Readably.guard (.pure (last _ _)) (ih _ _)

theorem checkText_readably (c : Constraints) (raw : Value) :
    Readably (checkText Run.test c raw) Reads := by
  unfold checkText
  split
  next =>
    split
    next f outside => exact .pure (.found (readable_of_textLength outside))
    next =>
      split
      next => exact .pure .ok
      next p pattern =>
        refine (Coincides.test p _).bind fun found _ => ?_
        cases found with
        | true => exact .pure .ok
        | false =>
          refine .pure (.found fun _ => ⟨?_, oneLine_none⟩)
          exact oneLine_append.mpr ⟨by decide, Pattern.oneLine_text p⟩
  next =>
    have message : OneLine "the value must be a string" := by decide
    exact .pure (.found fun _ => ⟨message, oneLine_textHint raw⟩)

end Kind

namespace Validation

variable {rules : Rules}

/-- What the checks of a registry's values and nodes rely on to say what can be read. -/
structure Voices (rules : Rules) : Prop where
  coherent : rules.registry.Coherent
  worded : rules.registry.Worded
  voiced : rules.registry.Every (FieldSpec.Voiced rules.registry.kinds)

/-- Checks of nodes that can be read; a group can name the nodes that they return. -/
def NodesReadably (node : NodeRun) : Prop :=
  ∀ raw name place, OneLine name → OneLinePath place.path → Readably (node raw name place)
    (Permits fun n => OneLine (n.choiceType.getD n.schema))

/-- Checks of values that can be read. -/
def ValuesReadably (rules : Rules) (value : ValueRun) : Prop :=
  ∀ spec : FieldSpec, spec.Every (FieldSpec.Voiced rules.registry.kinds) → ∀ raw place,
    OneLinePath place.path → Readably (value spec raw place) fun _ => True

end Validation

open Validation

namespace Choice

variable {rules : Rules} {node : NodeRun} {raw : Value} {place : Place} {group : String}

theorem matching_readably (rules : Rules) (hnode : NodesReadably node) (hp : OneLinePath place.path)
    {names : List String} (named : ∀ name ∈ names, OneLine name) :
    Readably (matching node raw place names) fun found =>
      ∀ m ∈ found, OneLine (m.node.choiceType.getD m.node.schema) := by
  induction names with
  | nil => exact .pure (List.forall_mem_nil _)
  | cons name rest ih =>
    obtain ⟨first, others⟩ := List.forall_mem_cons.mp named
    have tried : Coincides (going rules) Issue.Readable (node raw name place) (node raw name place)
        (Permits fun n => OneLine (n.choiceType.getD n.schema)) :=
      (hnode raw name place first hp).restrict fun _ _ => trivial
    refine tried.trial.bind fun (found, issues, log) title => (ih others).bind fun more titles => ?_
    cases found with
    | none => exact .pure titles
    | some n =>
      simp only
      split
      next => exact .pure (List.forall_mem_cons.mpr ⟨title n rfl, titles⟩)
      next => exact .pure titles

variable {members : List (String × String)} {types : List String}

theorem oneLine_validTypes (ht : ∀ type ∈ types, OneLine type) : OneLine (validTypes types) :=
  oneLine_append.mpr ⟨by decide, Fault.oneLine_quoteList ht⟩

theorem byType_readably (hnode : NodesReadably node) (hp : OneLinePath place.path)
    (hg : OneLine group) (hm : ∀ m ∈ members, OneLine m.2) (ht : ∀ type ∈ types, OneLine type)
    (type : Value) : Readably (byType rules node raw group place members types type)
      (Permits fun n => OneLine (n.choiceType.getD n.schema)) := by
  unfold byType
  split
  next target named =>
    refine hnode raw target place ?_ hp
    unfold member? at named
    split at named
    next t => exact hm _ (Entries.mem_of_lookup named)
    next => cases named
  next =>
    refine (Coincides.lift _).bind fun shown shows => ?_
    refine (Readably.report hp ?_ ?_).bind fun _ _ => .pure .none
    · exact oneLine_append.mpr ⟨oneLine_around (oneLine_around (by decide)
        (Value.oneLine_json shows) (by decide)) hg (by decide), oneLine_validTypes ht⟩
    · split
      next => exact oneLine_didYouMean ht
      next => exact oneLine_none

theorem byFit_readably (hnode : NodesReadably node) (hp : OneLinePath place.path)
    (hg : OneLine group) (hm : ∀ m ∈ members, OneLine m.2) (ht : ∀ type ∈ types, OneLine type) :
    Readably (byFit rules node raw group place members types)
      (Permits fun n => OneLine (n.choiceType.getD n.schema)) := by
  have named : ∀ name ∈ members.map Prod.snd, OneLine name := List.forall_mem_map.mpr hm
  unfold byFit
  refine (matching_readably rules hnode hp named).bind fun found titles => ?_
  split
  next only =>
    exact (Coincides.adopt _).bind fun _ _ => .pure (.some (titles only (by simp)))
  next =>
    refine (Readably.report hp ?_ (oneLine_some (by decide))).bind fun _ _ => .pure .none
    split
    next =>
      exact oneLine_append.mpr ⟨oneLine_around (by decide) hg (by decide), oneLine_validTypes ht⟩
    next =>
      exact oneLine_append.mpr ⟨oneLine_around (by decide) hg (by decide),
        Fault.oneLine_quoteList (List.forall_mem_map.mpr titles)⟩

theorem check_readably (voices : Voices rules) (hnode : NodesReadably node)
    (hp : OneLinePath place.path) (hg : OneLine group) :
    Readably (check rules node raw group place)
      (Permits fun n => OneLine (n.choiceType.getD n.schema)) := by
  have member : ∀ m ∈ rules.registry.choiceMembers group, OneLine m.1 ∧ OneLine m.2 :=
    fun m hm => voices.worded.member voices.coherent hm
  have names : ∀ m ∈ rules.registry.choiceMembers group, OneLine m.2 := fun m hm => (member m hm).2
  have types : ∀ type ∈ sortByUnits ((rules.registry.choiceMembers group).map Prod.fst),
      OneLine type := by
    intro type ht
    obtain ⟨m, hm, rfl⟩ := List.mem_map.mp (mem_sortByUnits.mp ht)
    exact (member m hm).1
  unfold check
  refine Readably.guard (.pure .none) ?_
  simp only
  split
  next type _ => exact byType_readably hnode hp hg names types type
  next =>
    split
    next type only listed =>
      have member : (type, only) ∈ rules.registry.choiceMembers group := by simp [listed]
      exact hnode raw only place (names _ member) hp
    next =>
      split
      next =>
        refine (Readably.tells hp ?_).bind fun _ _ => .pure .none
        exact oneLine_append.mpr ⟨by decide, oneLine_validTypes types⟩
      next => exact byFit_readably hnode hp hg names types

end Choice

namespace Validation

variable {rules : Rules} {node : NodeRun} {value other : ValueRun} {place : Place}

/-- Checks of the parts of a specification that can be read. -/
inductive PartsReadably : PartChecks Run → Prop
  | none : PartsReadably .none
  | list {item : PartCheck Run}
      (h : ∀ raw label, OneLine label → Readably (item raw label) fun _ => True) :
      PartsReadably (.list item)
  | mapping {byInteger : Bool} {key value : PartCheck Run}
      (hkey : ∀ raw label, OneLine label → Readably (key raw label) fun _ => True)
      (hvalue : ∀ raw label, OneLine label → Readably (value raw label) fun _ => True) :
      PartsReadably (.mapping byInteger key value)
  | either {primitive complex : PartCheck Run}
      (hprimitive : ∀ raw label, OneLine label → Readably (primitive raw label) fun _ => True)
      (hcomplex : ∀ raw label, OneLine label → Readably (complex raw label) fun _ => True) :
      PartsReadably (.either primitive complex)

theorem context_node (hnode : NodesReadably node) {spec : FieldSpec} (hp : OneLinePath place.path)
    {raw : Value} {name : String} (hn : OneLine name) {overrides : Option (Entries Value)} :
    Readably ((context rules node other spec place).node raw name overrides)
      (Permits fun n => OneLine (n.choiceType.getD n.schema)) := hnode raw name _ hn hp

theorem context_choice (voices : Voices rules) (hnode : NodesReadably node) {spec : FieldSpec}
    (hp : OneLinePath place.path) {raw : Value} {group : String} (hg : OneLine group)
    {overrides : Option (Entries Value)} :
    Readably ((context rules node other spec place).choice raw group overrides)
      (Permits fun n => OneLine (n.choiceType.getD n.schema)) := by
  have below : OneLinePath ((place.inside spec).below overrides).path := hp
  exact Choice.check_readably voices hnode below hg

theorem builtin_readably (voices : Voices rules) (hnode : NodesReadably node) (k : BuiltinKind)
    {spec : FieldSpec} (worded : spec.Worded) {parts : PartChecks Run}
    (hparts : PartsReadably parts) (hp : OneLinePath place.path) (raw : Value) :
    Readably (k.check (context rules node other spec place) parts spec.info raw) Kind.Reads := by
  cases nested : k.isNested with
  | false =>
    have text := Kind.checkText_readably spec.info.constraints raw
    cases k with
    | number => exact .pure (Kind.checkNumber_reads _ _)
    | integer => exact .pure (Kind.checkInteger_reads _ _)
    | boolean => exact .pure (Kind.checkBoolean_reads _)
    | selection => exact .pure (Kind.checkSelection_reads worded.options _)
    | multiselection => exact .pure (Kind.checkMultiselection_reads worded.options _)
    | json => exact .pure (Kind.checkJson_reads _)
    | integerText => exact .pure (Kind.checkIntegerText_reads _ _)
    | string => exact text.bind fun result reads => .pure reads.map
    | identifier =>
      exact text.bind fun result reads => .pure (reads.bind Kind.checkIdentifier_reads)
    | pattern => exact text.bind fun result reads => .pure (reads.bind Kind.checkPattern_reads)
    | node | choice | list | mapping | either => cases nested
  | true =>
    obtain ⟨q, asks, same⟩ := BuiltinKind.check_asks nested spec.info raw
    rw [same]
    cases asks with
    | mismatch message known =>
      exact .pure (.mismatch (Kind.oneLine_objections message known) oneLine_none)
    | length _ broken => exact .pure (.found (Kind.readable_of_listLength broken))
    | node named =>
      exact (context_node hnode hp (worded.target _ named)).bind
        fun answer _ => .pure (Kind.ofNode_reads answer)
    | choice named =>
      exact (context_choice voices hnode hp (worded.group _ named)).bind
        fun answer _ => .pure (Kind.ofNode_reads answer)
    | @items vs =>
      cases hparts with
      | list h =>
        exact (Kind.checkItems_readably h 0 vs).bind
          fun answer _ => .pure (Kind.ofItems_reads answer)
      | _ => exact .pure (.mismatch (by decide) oneLine_none)
    | @entries es =>
      cases hparts with
      | mapping hkey hvalue => exact Kind.checkEntries_readably hkey hvalue _ _ es
      | _ => exact .pure (.mismatch (by decide) oneLine_none)
    | form =>
      cases hparts with
      | either hprimitive hcomplex =>
        refine Coincides.bind (P := fun _ => True) ?_
          fun answer _ => .pure (Kind.ofForm_reads answer)
        split
        next => exact hprimitive raw "" (by decide)
        next => exact hcomplex raw "" (by decide)
      | _ => exact .pure (.mismatch (by decide) oneLine_none)

/-- What comes of a dialogue can be read, where the answers of the validation can. -/
theorem dialogue_readably (voices : Voices rules) (hnode : NodesReadably node)
    (hother : ValuesReadably rules other) (spec : FieldSpec) (hp : OneLinePath place.path)
    {d : Dialogue} (h : d.Voiced rules.registry.kinds) :
    Readably (d.run (context rules node other spec place)) Kind.Reads := by
  induction h with
  | answer reads => exact .pure reads
  | fail fault => exact .throw
  | halted _ ih => exact Coincides.halted.bind fun stopped _ => ih stopped
  | node named _ ih => exact (context_node hnode hp named).bind fun answer _ => ih answer
  | choice named _ ih =>
    exact (context_choice voices hnode hp named).bind fun answer _ => ih answer
  | value asked labelled _ ih =>
    exact (hother _ asked _ _ (hp.extend labelled)).bind fun answer _ => ih answer
  | afresh _ ih => exact .afresh ih

/-- What a kind finds can be read, where the checks of nodes, parts and other values can. -/
theorem kind_readably (voices : Voices rules) (hnode : NodesReadably node)
    (hother : ValuesReadably rules other) {spec : FieldSpec}
    (own : spec.Every (FieldSpec.Voiced rules.registry.kinds)) {parts : PartChecks Run}
    (hparts : PartsReadably parts) (hp : OneLinePath place.path) (raw : Value) :
    Readably (rules.registry.kinds.check spec.kind (context rules node other spec place) parts spec
      raw) Kind.Reads := by
  obtain ⟨d, found⟩ := Option.isSome_iff_exists.mp own.self.known
  simp only [KindCatalog.check, found, KindDefinition.check]
  split
  next k _ => exact builtin_readably voices hnode k own.self.toWorded hparts hp raw
  next k custom =>
    exact dialogue_readably voices hnode hother spec hp
      (voices.worded.kinds _ d k found custom spec own _ _ _ hp)

theorem checkAccepted_readably {spec : FieldSpec} (worded : spec.Worded) {path : List String}
    (hp : OneLinePath path) (raw v : Value) :
    Readably (checkAccepted rules spec raw v path) fun _ => True := by
  unfold checkAccepted
  simp only
  split
  next => exact .pure trivial
  next check declared =>
    refine (Coincides.lift _).bind fun verdict said => ?_
    cases verdict with
    | pass => exact .pure trivial
    | fail => exact (Readably.tells hp (by decide)).bind fun _ _ => .pure trivial
    | failWith message =>
      have hm : OneLine message := worded.check check declared v message said
      exact (Readably.tells hp hm).bind fun _ _ => .pure trivial

theorem checkWith_readably {ctx : KindContext Run} {parts : PartChecks Run} {spec : FieldSpec}
    (worded : spec.Worded) {raw : Value} {path : List String} (hp : OneLinePath path)
    (h : Readably (rules.registry.kinds.check spec.kind ctx parts spec raw) Kind.Reads) :
    Readably (checkWith rules ctx parts spec raw path) fun _ => True := by
  have hint : ∀ s ∈ spec.info.default?.map fun _ => "Leave the field out to use its default.",
      OneLine s := by
    intro s given
    obtain ⟨-, -, rfl⟩ := Option.map_eq_some_iff.mp given
    decide
  unfold checkWith
  refine Readably.guard (.pure trivial) ?_
  split
  next =>
    split
    next => exact .pure trivial
    next => exact (Readably.report hp (by decide) hint).bind fun _ _ => .pure trivial
  next =>
    split
    next => exact (Readably.tells hp (by decide)).bind fun _ _ => .pure trivial
    next =>
      refine h.bind fun result reads => ?_
      cases result with
      | error fs => exact (Readably.reports hp (reads fs rfl)).bind fun _ _ => .pure trivial
      | ok v => exact checkAccepted_readably worded hp raw v

theorem checkSpec_readably (voices : Voices rules) (hnode : NodesReadably node)
    (hother : ValuesReadably rules other) : ValuesReadably rules (checkSpec rules node other) := by
  intro spec own raw place hp
  have whole : ∀ {spec : FieldSpec} {parts : PartChecks Run} {raw : Value} {place : Place},
      spec.Every (FieldSpec.Voiced rules.registry.kinds) → OneLinePath place.path →
      PartsReadably parts → Readably (checkWith rules (context rules node other spec place) parts
        spec raw place.path) fun _ => True := fun own hp hparts =>
    checkWith_readably own.self.toWorded hp (kind_readably voices hnode hother own hparts hp _)
  induction spec generalizing raw place with
  | leaf info => exact whole own hp .none
  | list info item ih =>
    exact whole own hp (.list fun raw label hl => ih own.item raw _ (hp.extend hl))
  | mapping info key value ihKey ihValue =>
    exact whole own hp (.mapping (fun raw label hl => ihKey own.key raw _ (hp.extend hl))
      fun raw label hl => ihValue own.value raw _ (hp.extend hl))
  | either info primitive complex ihPrimitive ihComplex =>
    exact whole own hp (.either
      (fun raw label hl => ihPrimitive own.primitive raw _ (hp.extend hl))
      fun raw label hl => ihComplex own.complex raw _ (hp.extend hl))

theorem checkValue_readably (voices : Voices rules) (hnode : NodesReadably node)
    (questions : Nat) : ValuesReadably rules (checkValue rules node questions) := by
  induction questions with
  | zero => exact checkSpec_readably voices hnode fun _ _ _ _ _ => .throw
  | succ questions ih => exact checkSpec_readably voices hnode ih

variable {schema : Schema} {record : Entries Value}

theorem checkType_readably (worded : schema.Worded) (hp : OneLinePath place.path) :
    Readably (checkType rules schema record place) fun _ => True := by
  unfold checkType
  split
  next membership type member _ =>
    have typed : OneLine membership.type :=
      worded.type _ (by simp [Schema.choiceType, member])
    split
    next =>
      refine (Coincides.lift _).bind fun shown shows => Readably.report (hp.field worded.name ?_) ?_ ?_
      · decide
      · exact oneLine_around (oneLine_around (by decide) (Value.oneLine_json shows) (by decide))
          worded.name (by decide)
      · exact oneLine_some (oneLine_around (by decide) typed (by decide))
    next => exact .pure trivial
  next => exact .pure trivial

/-- A key that is not declared is pasted; all else that is said of keys is of one line. -/
theorem checkKeys_readably (worded : schema.Worded) (hp : OneLinePath place.path)
    (es : List (String × Value)) :
    Readably (checkKeys rules schema place es) fun _ => True := by
  induction es with
  | nil => exact .pure trivial
  | cons e rest ih =>
    unfold checkKeys
    split
    next =>
      split
      next =>
        have asks : ∀ question ∈ didYouMean e.1 schema.fieldNames, OneLine question :=
          oneLine_didYouMean worded.fieldNames
        exact (Coincides.report (Issue.readable_of_key hp worded.name asks)).bind fun _ _ => ih
      next => exact (Coincides.log _ _).bind fun _ _ => ih
    next => exact ih

theorem start_readably (spec : FieldSpec) :
    Readably (start schema record spec) fun _ => True := by
  unfold start
  split
  next =>
    split
    next => exact (Coincides.log _ _).bind fun _ _ => .pure trivial
    next => exact .pure trivial
  next =>
    split
    next => exact .pure trivial
    next => exact (Coincides.produce _).bind fun _ _ => .pure trivial

/-- The check of a field's value can be read, wherever the value stands. -/
def FieldReadably (value : ValueRun) (spec : FieldSpec) : Prop :=
  OneLine spec.name ∧ ∀ raw place, OneLinePath place.path →
    Readably (value spec raw place) fun _ => True

theorem resolve_readably {spec : FieldSpec} (field : FieldReadably value spec)
    (hp : OneLinePath place.path) {draft : Draft} (named : OneLine draft.schema) (raw : Value)
    (mark : Bool) : Readably (resolve value place draft spec raw mark) fun d => OneLine d.schema := by
  refine (field.2 raw _ (hp.field named field.1)).bind fun answer _ => ?_
  cases answer <;> exact .pure named

theorem firstPass_readably {specs : List FieldSpec}
    (fields : ∀ spec ∈ specs, FieldReadably value spec) (hp : OneLinePath place.path)
    {draft : Draft} (named : OneLine draft.schema) :
    Readably (firstPass rules value schema record place draft specs) fun r =>
      OneLine r.2.schema := by
  induction specs generalizing draft with
  | nil => exact .pure named
  | cons spec rest ih =>
    obtain ⟨first, others⟩ := List.forall_mem_cons.mp fields
    have next : ∀ (draft : Draft) (slot : Slot), OneLine draft.schema → Readably (do
        let r ← firstPass rules value schema record place draft rest
        return (slot :: r.1, r.2)) fun r => OneLine r.2.schema :=
      fun draft slot named => (ih others named).bind fun r hr => .pure hr
    unfold firstPass
    refine Readably.guard (next draft _ named) ((start_readably spec).bind fun started _ => ?_)
    cases started with
    | none => exact next draft _ named
    | some started =>
      simp only
      split
      next => exact next draft _ named
      next => exact (resolve_readably first hp named _ _).bind fun draft hd => next draft _ hd

theorem secondPass_readably {slots : List Slot}
    (fields : ∀ slot ∈ slots, FieldReadably value slot.spec) (hp : OneLinePath place.path)
    (earlier : List String) {draft : Draft} (named : OneLine draft.schema) :
    Readably (secondPass rules value place earlier draft slots) fun d => OneLine d.schema := by
  induction slots generalizing earlier draft with
  | nil => exact .pure named
  | cons slot rest ih =>
    obtain ⟨first, others⟩ := List.forall_mem_cons.mp fields
    unfold secondPass
    refine Readably.guard (ih others _ named) ?_
    split
    next => exact (resolve_readably first hp named _ _).bind fun _ hd => ih others _ hd
    next =>
      refine (Coincides.lift _).bind fun raw _ => ?_
      exact (resolve_readably first hp named _ _).bind fun _ hd => ih others _ hd
    next => exact ih others _ named

theorem checkMissing_readably (worded : schema.Worded) (hp : OneLinePath place.path)
    {slots : List Slot} (declared : ∀ slot ∈ slots, slot.spec ∈ schema.fields) :
    Readably (checkMissing rules schema place slots) fun _ => True := by
  induction slots with
  | nil => exact .pure trivial
  | cons slot rest ih =>
    obtain ⟨first, others⟩ := List.forall_mem_cons.mp declared
    have name := worded.fieldName first
    unfold checkMissing
    simp only
    split
    next =>
      refine (Readably.report (hp.field worded.name name) ?_ ?_).bind fun _ _ => ih others
      · exact oneLine_around (by decide) name (by decide)
      · split
        next => exact oneLine_none
        next =>
          exact oneLine_some (oneLine_append.mpr
            ⟨oneLine_around (by decide) name (by decide), worded.fieldHelp first⟩)
    next => exact ih others

theorem checkNode_readably (worded : schema.Worded) (hp : OneLinePath place.path) (draft : Draft) :
    Readably (checkNode rules schema draft place) fun _ => True := by
  unfold checkNode
  split
  next => exact .pure trivial
  next check declared =>
    refine (Coincides.lift _).bind fun verdict said => ?_
    cases verdict with
    | pass => exact .pure trivial
    | fail =>
      refine (Readably.tells hp ?_).bind fun _ _ => .pure trivial
      exact oneLine_around (by decide) worded.name (by decide)
    | failWith message =>
      have hm : OneLine message := worded.check check declared _ message said
      exact (Readably.tells hp hm).bind fun _ _ => .pure trivial

theorem expand_readably (worded : schema.Worded) (hp : OneLinePath place.path)
    (short : ∀ short, schema.info.shortform = some short → FieldReadably value short.field)
    (raw : Value) : Readably (expand rules value raw schema place) fun _ => True := by
  unfold expand
  split
  next => exact .pure trivial
  next =>
    split
    next =>
      refine (Readably.report hp ?_ ?_).bind fun _ _ => .pure trivial
      · exact oneLine_around (by decide) worded.name (by decide)
      · have fields : OneLine (", ".intercalate schema.fieldNames) :=
          oneLine_intercalate (by decide) worded.fieldNames
        exact oneLine_some (oneLine_around (oneLine_around (by decide) worded.name (by decide))
          fields (by decide))
    next declared =>
      obtain ⟨name, field⟩ := short _ declared
      refine (field raw _ (hp.field worded.name name)).bind fun answer _ => ?_
      cases answer with
      | none => exact .pure trivial
      | some v => exact (Coincides.lift _).bind fun _ _ => .pure trivial

theorem checkFields_readably (worded : schema.Worded) (hp : OneLinePath place.path)
    (fields : ∀ spec ∈ schema.fields, FieldReadably value spec) :
    Readably (checkFields rules value schema record place)
      (Permits fun n => OneLine (n.choiceType.getD n.schema)) := by
  rw [checkFields_eq]
  have filled : Readably (fill rules value schema record place) fun d => OneLine d.schema := by
    refine (checkType_readably worded hp).bind fun _ _ => ?_
    refine (checkKeys_readably worded hp record).bind fun _ _ => ?_
    have passed : Readably
        (firstPass rules value schema record place { schema := schema.name } schema.fields)
        fun r => OneLine r.2.schema := firstPass_readably fields hp worded.name
    refine (passed.returns (firstPass_returns schema.fields _)).bind
      fun (slots, draft) ⟨named, specs⟩ => ?_
    have declared : ∀ slot ∈ slots, slot.spec ∈ schema.fields :=
      fun slot hslot => specs ▸ List.mem_map_of_mem hslot
    refine (secondPass_readably (fun slot hslot => fields _ (declared slot hslot)) hp [] named).bind
      fun last hlast => ?_
    exact (checkMissing_readably worded hp declared).bind fun _ _ => .pure hlast
  refine filled.watched.bind fun (last, flawed) named => ?_
  cases flawed with
  | true => exact .pure .none
  | false =>
    refine Readably.guard (.pure .none) ((checkNode_readably worded hp last).bind fun passed _ => ?_)
    cases passed with
    | false => exact .pure .none
    | true =>
      refine .pure (.some ?_)
      show OneLine (schema.choiceType.getD last.schema)
      cases type : schema.choiceType with
      | none => exact named
      | some t => exact worded.type t type

/-- The node of a schema, from what it was written as. -/
theorem expanded_readably (worded : schema.Worded) (hp : OneLinePath place.path)
    (fields : ∀ spec ∈ schema.fields, FieldReadably value spec)
    (short : ∀ short, schema.info.shortform = some short → FieldReadably value short.field)
    (raw : Value) : Readably (expand rules value raw schema place >>= fun
      | none => pure none
      | some record => checkFields rules value schema record place)
      (Permits fun n => OneLine (n.choiceType.getD n.schema)) := by
  refine (expand_readably worded hp short raw).bind fun answer _ => ?_
  cases answer with
  | none => exact .pure .none
  | some record => exact checkFields_readably worded hp fields

theorem checkNodeWith_readably (voices : Voices rules) (hvalue : ValuesReadably rules value) :
    NodesReadably (checkNodeWith rules value) := by
  intro raw name place hn hp
  unfold checkNodeWith
  refine Readably.guard (.pure .none) ?_
  split
  next =>
    refine (Readably.report hp ?_ ?_).bind fun _ _ => .pure .none
    · exact oneLine_around (by decide) hn (by decide)
    · exact oneLine_didYouMean voices.worded.names
  next schema found =>
    have worded := voices.worded.found found
    split
    next =>
      refine (Readably.tells hp ?_).bind fun _ _ => .pure .none
      exact oneLine_append.mpr ⟨by decide, oneLine_number _⟩
    next =>
      have fields : ∀ spec ∈ schema.fields, FieldReadably value spec := fun spec hspec =>
        ⟨worded.fieldName hspec, hvalue spec (voices.voiced.field found hspec)⟩
      have short : ∀ short, schema.info.shortform = some short → FieldReadably value short.field :=
        fun short declared =>
          ⟨worded.shortName declared, hvalue _ (voices.voiced.shortform found declared)⟩
      simp only
      split
      next =>
        refine Coincides.bind (P := fun _ => True) .throw fun _ _ => ?_
        exact expanded_readably worded hp fields short raw
      next => exact expanded_readably worded hp fields short raw

/-- Whatever a validation says of a node can be read. -/
theorem checkNodeAt_readably (voices : Voices rules) (levels : Nat) :
    NodesReadably (checkNodeAt rules levels) := by
  induction levels with
  | zero => exact fun _ _ _ _ _ => .throw
  | succ levels ih =>
    exact checkNodeWith_readably voices (checkValue_readably voices ih questionLimit)

end Validation

/-- Every issue of a validation from a registry whose texts are of one line each is rendered on one
line exactly if the texts of the input that it pastes are of one line. -/
theorem Registry.Made.oneLine_format_iff {r : Registry} (made : r.Made) (worded : r.Worded)
    {name : String} (hn : OneLine name) {memory : Memory} {raw : Value} {o : ValidateOptions}
    {issues : List Issue}
    (returned : (r.validate memory raw name o).result = .ok (.invalid issues)) :
    ∀ i ∈ issues, OneLine i.format ↔ ∀ s, i.Pastes s → OneLine s := by
  intro i hi
  have voices : Voices (o.rules r) :=
    ⟨made.coherent, worded, worded.voiced made (frozen_of_ok returned)⟩
  have readable : i.Readable := lawful_of_validate
    (checkNodeAt_readably voices (levels o.maxDepth) raw name ⟨[], o.stack, o.kwargs, 1⟩ hn nofun)
    returned i hi
  exact ⟨fun line s pastes => i.oneLine_pasted line pastes, readable⟩

namespace Library

/-- A note without its text and with a key that is not declared. -/
def stained : Value := .record [("ink", .null)] true

/-- A note with a key of two lines. -/
def scrawled : Value := .record [("text", .text "Ink"), ("a\nb", .null)] true

def undeclared (key : String) : Issue where
  path := [s!"note.{key}"]
  kind := .unknownField
  message := s!"the field '{key}' is not declared by schema 'note'"
  received := some "null"

def textMissing : Issue where
  path := ["note.text"]
  kind := .missingField
  message := "the required field 'text' is missing"

theorem registry_worded : registry.Worded := by
  refine ⟨?_, ?_, fun _ _ _ found custom => (KindCatalog.builtin_rule found custom).elim⟩
  · simp only [registry, List.forall_mem_cons, List.not_mem_nil, false_imp_iff, implies_true,
      and_true]
    refine ⟨?_, ?_, ?_⟩
    all_goals exact ⟨by decide, by decide, by decide, by rintro _ ⟨⟩⟩
  · simp only [Registry.Every, FieldSpec.Every, registry, chapter, note, book, Schema.allFields,
      textField, FieldSpec.walk, List.forall_mem_cons, Option.map_none, Option.toList_none,
      List.append_nil, List.not_mem_nil, false_imp_iff, implies_true, and_true]
    refine ⟨⟨?_, ?_⟩, ?_, ?_, ⟨?_, ?_⟩, ?_⟩
    all_goals exact ⟨by rintro _ ⟨⟩, by rintro _ ⟨⟩, by decide, by rintro _ ⟨⟩⟩

/-- The issues of a note are on one line each, for the key that one of them pastes is. -/
theorem stained_on_one_line :
    (registry.validate [] stained "note" { unknownFields := .strict }).result =
      .ok (.invalid [undeclared "ink", textMissing]) ∧
    ∀ i ∈ [undeclared "ink", textMissing], OneLine i.format ↔ ∀ s, i.Pastes s → OneLine s := by
  have named : OneLine "note" := by decide
  have returned : (registry.validate [] stained "note" { unknownFields := .strict }).result =
      .ok (.invalid [undeclared "ink", textMissing]) := rfl
  exact ⟨returned, registry_made.oneLine_format_iff registry_worded named returned⟩

/-- The key of two lines takes its issue to a second line. -/
theorem scrawled_on_two_lines : registry.Made ∧ registry.Worded ∧ OneLine "note" ∧
    (registry.validate [] scrawled "note" { unknownFields := .strict }).result =
      .ok (.invalid [undeclared "a\nb"]) ∧
    ¬ OneLine (undeclared "a\nb").format :=
  ⟨registry_made, registry_worded, by decide, rfl, by decide⟩

end Library

end ShapedTree
