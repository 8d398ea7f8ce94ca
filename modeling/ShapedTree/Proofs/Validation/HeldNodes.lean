import ShapedTree.Proofs.Validation.ReferenceGraph
import ShapedTree.Proofs.Validation.ValueLogic

namespace ShapedTree

open Run

/-- Every node that a value holds directly satisfies `P`. -/
def Value.BearsOnly (P : Node → Prop) (v : Value) : Prop := ∀ n, v.Bears n → P n

namespace Value.BearsOnly

variable {P : Node → Prop}

theorem of_bare {v : Value} (bare : ∀ n, ¬ v.Bears n) : v.BearsOnly P :=
  fun n bears => (bare n bears).elim

theorem node {n : Node} (h : P n) : (Value.node n).BearsOnly P := by
  rintro m ⟨⟩
  exact h

theorem list {vs : List Value} (h : ∀ v ∈ vs, v.BearsOnly P) : (Value.list vs).BearsOnly P := by
  rintro n (_ | ⟨mem, bears⟩)
  exact h _ mem n bears

theorem record {es : Entries Value} {plain : Bool} (h : ∀ e ∈ es, e.2.BearsOnly P) :
    (Value.record es plain).BearsOnly P := by
  rintro n (_ | _ | ⟨mem, bears⟩)
  exact h _ mem n bears

end Value.BearsOnly

/-- Every node that a value holds, at any depth, satisfies `P`. -/
def Value.AllNodes (P : Node → Prop) (v : Value) : Prop := ∀ n, v.Bears n → ∀ c, n.Reaches c → P c

namespace Value.AllNodes

variable {P : Node → Prop}

theorem of_bare {v : Value} (bare : ∀ n, ¬ v.Bears n) : v.AllNodes P := BearsOnly.of_bare bare

theorem list {vs : List Value} (h : ∀ v ∈ vs, v.AllNodes P) : (Value.list vs).AllNodes P :=
  BearsOnly.list h

theorem record {es : Entries Value} {plain : Bool} (h : ∀ e ∈ es, e.2.AllNodes P) :
    (Value.record es plain).AllNodes P := BearsOnly.record h

theorem node {n : Node} (own : P n) (held : ∀ e ∈ n.values, e.2.AllNodes P) :
    (Value.node n).AllNodes P := by
  refine BearsOnly.node fun c reaches => ?_
  cases reaches with
  | root => exact own
  | step mem bears reaches => exact held _ mem _ bears _ reaches

end Value.AllNodes

/-- A kind without parts makes no node. -/
theorem BuiltinKind.bare_of_verdict {k : BuiltinKind} {c : Constraints} {raw v : Value}
    (flat : k.isNested = false) (h : k.verdict c raw = .ok v) (n : Node) : ¬ v.Bears n := by
  cases present : raw.isNull && !k.takesNull with
  | false => exact (holds_of_verdict flat h present).bears
  | true =>
    rw [Bool.and_eq_true] at present
    cases raw with
    | null =>
      cases k with
      | json =>
        cases h
        rintro ⟨⟩
      | multiselection => cases present.2
      | _ => cases h
    | _ => cases present.1

/-- A dialogue passes on only nodes that it is given: if these satisfy `P`, so do those that its
answer holds. -/
inductive Dialogue.Relays (P : Node → Prop) : Dialogue → Prop
  | answer {result : KindResult} (h : Kind.Allows (Value.AllNodes P) result) :
      Relays P (.answer result)
  | fail (fault : Fault) : Relays P (.fail fault)
  | halted {next : Bool → Dialogue} (h : ∀ stopped, Relays P (next stopped)) :
      Relays P (.halted next)
  | node {raw : Value} {schema : String} {kwargs : Option (Entries Value)}
      {next : Option Node → Dialogue}
      (h : ∀ answer, Permits (fun n => (Value.node n).AllNodes P) answer → Relays P (next answer)) :
      Relays P (.node raw schema kwargs next)
  | choice {raw : Value} {group : String} {kwargs : Option (Entries Value)}
      {next : Option Node → Dialogue}
      (h : ∀ answer, Permits (fun n => (Value.node n).AllNodes P) answer → Relays P (next answer)) :
      Relays P (.choice raw group kwargs next)
  | value {spec : FieldSpec} {raw : Value} {label : String} {next : Option Value → Dialogue}
      (h : ∀ answer, Permits (Value.AllNodes P) answer → Relays P (next answer)) :
      Relays P (.value spec raw label next)
  | afresh {spec : FieldSpec} {rest : Dialogue} (h : Relays P rest) : Relays P (.afresh spec rest)

/-- Custom kinds pass on only nodes that validation has given them, whatever is true of these. -/
def KindCatalog.Relays (c : KindCatalog) : Prop :=
  ∀ tag d k, c.find? tag = some d → d.rule = .custom k → ∀ P raw spec path kwargs,
    (k raw spec path kwargs).Relays P

theorem KindCatalog.Relays.builtin : KindCatalog.builtin.Relays := by
  intro tag d k found custom
  obtain ⟨b, -, same⟩ := List.mem_map.mp (Entries.mem_of_lookup found)
  cases same
  cases custom

variable {rules : Rules} {P : Node → Prop} {node : NodeRun} {other : ValueRun}

namespace Validation

/-- Checks of nodes answer with nodes that satisfy `P`, as all nodes below them do. -/
def NodesGrant (P : Node → Prop) (node : NodeRun) : Prop :=
  ∀ raw name place, Grants (node raw name place) (Permits fun n => (Value.node n).AllNodes P)

/-- Checks of values answer with values whose nodes satisfy `P`. -/
def ValuesGrant (P : Node → Prop) (value : ValueRun) : Prop :=
  ∀ spec raw place, Grants (value spec raw place) (Permits (Value.AllNodes P))

/-- The checks of a specification's parts answer with values whose nodes satisfy `P`. -/
inductive PartsGrant (P : Node → Prop) : PartChecks Run → Prop
  | none : PartsGrant P .none
  | list {item : PartCheck Run}
      (h : ∀ raw label, Grants (item raw label) (Permits (Value.AllNodes P))) :
      PartsGrant P (.list item)
  | mapping {byInteger : Bool} {key value : PartCheck Run}
      (hkey : ∀ raw label, Grants (key raw label) (Permits (Value.AllNodes P)))
      (hvalue : ∀ raw label, Grants (value raw label) (Permits (Value.AllNodes P))) :
      PartsGrant P (.mapping byInteger key value)
  | either {primitive complex : PartCheck Run}
      (hprimitive : ∀ raw label, Grants (primitive raw label) (Permits (Value.AllNodes P)))
      (hcomplex : ∀ raw label, Grants (complex raw label) (Permits (Value.AllNodes P))) :
      PartsGrant P (.either primitive complex)

end Validation

open Run.Logic Validation

/-- A choice answers with a node that some check of its members has answered. -/
theorem Choice.check_grants {law : Node → Prop} {raw : Value} {place : Place}
    (h : ∀ name, Grants (node raw name place) (Permits law)) (group : String) :
    Grants (Choice.check rules node raw group place) (Permits law) := by
  let L := Logic.granting rules
  unfold Choice.check
  refine guard (L := L) (L.pure .none) ?_
  simp only
  split
  next type _ =>
    unfold byType
    split
    next => exact h _
    next => exact (Grants.lift _).bind fun _ _ => Grants.report.bind fun _ _ => L.pure .none
  next =>
    split
    next => exact h _
    next =>
      split
      next => exact Grants.report.bind fun _ _ => L.pure .none
      next =>
        unfold byFit
        refine L.bind (matching_holds (L := L) h _) fun found all => ?_
        split
        next m => exact L.bind (L.adopt _) fun _ _ => L.pure (.some (all m (by simp)))
        next => exact Grants.report.bind fun _ _ => L.pure .none

namespace Validation

variable {spec : FieldSpec} {parts : PartChecks Run} {raw : Value} {place : Place}

/-- A built-in kind makes values of the nodes and the parts that it is given. -/
theorem builtin_grants (hnode : NodesGrant P node) (k : BuiltinKind) (hparts : PartsGrant P parts)
    (raw : Value) : Grants (k.check (context rules node other spec place) parts spec.info raw)
      (Kind.Allows (Value.AllNodes P)) := by
  let L := Logic.granting rules
  refine builtin_holds (L := L) (fun forgets => absurd trivial forgets) (fun s => .of_bare nofun)
    (fun flat v taken => .of_bare (BuiltinKind.bare_of_verdict flat taken)) (fun _ => .list)
    (fun _ => .record) (fun name => hnode _ _ _)
    (fun name => Choice.check_grants (fun _ => hnode _ _ _) _) ?_
  cases hparts with
  | none => exact .none
  | list h => exact .list fun _ _ v _ label => h v label
  | mapping hkey hvalue =>
    exact .mapping (fun s label => L.mono (hkey _ label) fun _ _ => trivial)
      fun _ _ e _ label => hvalue _ label
  | either hprimitive hcomplex => exact .either (hprimitive raw "") (hcomplex raw "")

/-- A dialogue that passes on only nodes that it is given does so in a validation. -/
theorem dialogue_grants (hnode : NodesGrant P node) (hother : ValuesGrant P other) {d : Dialogue}
    (relays : d.Relays P) : Grants (d.run (context rules node other spec place))
      (Kind.Allows (Value.AllNodes P)) := by
  let L := Logic.granting rules
  induction relays with
  | answer h => exact L.pure h
  | fail fault => exact fun s a t no => by cases no
  | halted _ ih => exact L.bind L.halted fun stopped _ => ih stopped
  | node _ ih => exact (hnode _ _ _).bind ih
  | choice _ ih =>
    exact (Choice.check_grants (fun _ => hnode _ _ _) _).bind ih
  | value _ ih => exact (hother _ _ _).bind ih
  | afresh _ ih => exact ih.afresh

/-- A kind makes values of the nodes and the parts that it is given. -/
theorem kind_grants (relays : rules.registry.kinds.Relays) (hnode : NodesGrant P node)
    (hother : ValuesGrant P other) (hparts : PartsGrant P parts) (raw : Value) :
    Grants (rules.registry.kinds.check spec.kind (context rules node other spec place) parts spec
      raw) (Kind.Allows (Value.AllNodes P)) := by
  cases found : rules.registry.kinds.find? spec.kind with
  | none =>
    simp only [KindCatalog.check, found]
    exact (Logic.granting rules).pure .error
  | some d =>
    simp only [KindCatalog.check, found, KindDefinition.check]
    split
    next k _ => exact builtin_grants hnode k hparts raw
    next k custom => exact dialogue_grants hnode hother (relays _ d k found custom P _ _ _ _)

theorem checkSpec_grants (relays : rules.registry.kinds.Relays) (hnode : NodesGrant P node)
    (hother : ValuesGrant P other) : ValuesGrant P (checkSpec rules node other) := by
  have whole : ∀ {spec : FieldSpec} {parts : PartChecks Run} {raw : Value} {place : Place},
      PartsGrant P parts → Grants
        (checkWith rules (context rules node other spec place) parts spec raw place.path)
        (Permits (Value.AllNodes P)) := fun {spec _ _ _} hparts =>
    checkWith_holds (L := .granting rules) (fun _ _ _ => ⟨fun no => no.elim, fun _ _ => trivial⟩)
      (fun no => no.elim) (fun _ => .of_bare nofun)
      fun _ => kind_grants relays hnode hother hparts _
  intro spec raw place
  induction spec generalizing raw place with
  | leaf info => exact whole .none
  | list info item ih => exact whole (.list fun raw label => ih raw _)
  | mapping info key value ihKey ihValue =>
    exact whole (.mapping (fun raw label => ihKey raw _) fun raw label => ihValue raw _)
  | either info primitive complex ihPrimitive ihComplex =>
    exact whole (.either (fun raw label => ihPrimitive raw _) fun raw label => ihComplex raw _)

theorem checkValue_grants (relays : rules.registry.kinds.Relays) (hnode : NodesGrant P node)
    (questions : Nat) : ValuesGrant P (checkValue rules node questions) := by
  induction questions with
  | zero => exact checkSpec_grants relays hnode fun _ _ _ _ _ _ no => by cases no
  | succ questions ih => exact checkSpec_grants relays hnode ih

end Validation

end ShapedTree
