import ShapedTree.Proofs.Validation.Acceptance

namespace ShapedTree

open Run

namespace Kind

variable {rules : Rules}

theorem checkItems_certain {item : PartCheck Run} {items vs : List Value}
    (h : List.Forall₂ (fun raw v => ∀ label, Certain (item raw label) (some v)) items vs)
    (index : Nat) : Certain (checkItems (halted rules) item index items) (some vs) := by
  induction h generalizing index with
  | nil => exact .pure _
  | cons first _ ih =>
    refine (first _).bind (.guard ?_)
    exact (ih (index + 1)).bind (.pure _)

/-- Entries are added to the record that is done, as long as their keys are new. -/
theorem checkEntries_certain {byInteger : Bool} {key value : PartCheck Run}
    {es fs : List (String × Value)}
    (h : List.Forall₂ (fun e f : String × Value =>
      (∀ label, Certain (key (.text e.1) label) (some (.text f.1))) ∧
        ∀ label, Certain (value e.2 label) (some f.2)) es fs)
    (past : List (String × Value)) (distinct : ((past ++ fs).map Prod.fst).Nodup) :
    Certain (checkEntries (halted rules) byInteger key value false (Record.ofList past) es)
      (.ok (.record (sortMapping byInteger (Record.ofList (past ++ fs))) true)) := by
  induction h generalizing past with
  | nil =>
    rw [List.append_nil]
    exact .pure _
  | @cons e f es fs first rest ih =>
    have new : Entries.has (Record.ofList past) f.1 = false := by
      rw [← Bool.not_eq_true, Entries.has_iff, Record.mem_keys_ofList]
      intro old
      rw [List.map_append, List.map_cons] at distinct
      exact (List.nodup_append.mp distinct).2.2 _ old f.1 (by simp) rfl
    refine (first.1 _).bind ((first.2 _).bind ?_)
    simp only [new, Bool.false_eq_true, if_false]
    refine .guard ?_
    have next := ih (past ++ [f]) (by simpa using distinct)
    rw [Record.ofList_concat] at next
    simpa using next

end Kind

namespace Validation

variable {rules : Rules} {node : NodeRun} {other : ValueRun}

/-- A check of values comes to a value without an issue, at whatever path. -/
def Sure (value : ValueRun) : ValueLaw := fun spec raw here v =>
  ∀ path, Certain (value spec raw (here.place path)) (some v)

/-- A check of nodes comes to a node without an issue, at whatever path. -/
def SureNode (node : NodeRun) : NodeLaw := fun raw name here n =>
  ∀ path, Certain (node raw name (here.place path)) (some n)

/-- A raw value names a type of a group, and that member accepts it. -/
inductive Names (r : Registry) (node : NodeLaw) : NodeLaw
  | intro {raw : Value} {group type schema : String} {here : Setting} {n : Node}
      (typed : Choice.namedType? raw = some (.text type))
      (member : (type, schema) ∈ r.choiceMembers group) (taken : node raw schema here n) :
      Names r node raw group here n

theorem choice_certain {raw : Value} {group : String} {here : Setting} {n : Node}
    (types : ((rules.registry.choiceMembers group).map Prod.fst).Nodup)
    (h : Names rules.registry (SureNode node) raw group here n) (path : List String) :
    Certain (Choice.check rules node raw group (here.place path)) (some n) := by
  obtain ⟨typed, member, taken⟩ := h
  unfold Choice.check
  refine .guard ?_
  simp only [typed, Choice.byType, Choice.member?, Entries.lookup_of_mem types member]
  exact taken path

/-- The rules of acceptance where nodes and values below are sure. -/
abbrev Assures (rules : Rules) (node : NodeRun) (value : ValueRun) : ValueLaw :=
  ValueAccepts rules.registry.kinds (SureNode node) (Names rules.registry (SureNode node))
    (Sure value)

theorem checkSpec_eq (spec : FieldSpec) (raw : Value) (place : Place) :
    checkSpec rules node other spec raw place =
      checkWith rules (context rules node other spec place)
        (.ofSpec (fun part raw label =>
          checkSpec rules node other part raw ((place.inside spec).labelled label)) spec)
        spec raw place.path := by
  cases spec <;> rfl

theorem kind_certain {spec : FieldSpec} {raw v : Value} {here : Setting}
    (types : ∀ group, ((rules.registry.choiceMembers group).map Prod.fst).Nodup)
    (fixed : spec.FixedPattern)
    (h : KindAccepts rules.registry.kinds (SureNode node) (Names rules.registry (SureNode node))
      (Sure (checkSpec rules node other)) spec raw here v) (path : List String) :
    Certain (rules.registry.kinds.check spec.kind
      (context rules node other spec (here.place path))
      (.ofSpec (fun part raw label =>
        checkSpec rules node other part raw (((here.place path).inside spec).labelled label)) spec)
      spec raw) (.ok v) := by
  cases h with
  | scalar known flat taken =>
    rw [known.check_eq, BuiltinKind.check_eq_verdict flat fixed rfl, taken]
    exact .pure _
  | node known named taken =>
    rw [known.check_eq]
    simp only [BuiltinKind.check, Kind.checkNode, named]
    exact (taken path).bind (.pure _)
  | choice known named taken =>
    rw [known.check_eq]
    simp only [BuiltinKind.check, Kind.checkChoice, named]
    exact (choice_certain (types _) taken path).bind (.pure _)
  | @list info item raw items vs here known shape fits taken =>
    rw [known.check_eq]
    simp only [BuiltinKind.check, Kind.checkList, shape, fits, FieldSpec.info, PartChecks.ofSpec]
    refine Certain.bind (Kind.checkItems_certain (taken.imp fun raw v sure label => ?_) 0)
      (.pure _)
    exact sure _
  | @mapping info key part raw es fs here known shape taken distinct =>
    rw [known.check_eq]
    simp only [BuiltinKind.check, Kind.checkMapping, shape, PartChecks.ofSpec]
    refine Kind.checkEntries_certain (taken.imp fun e f sure => ?_) [] (by simpa using distinct)
    exact ⟨fun label => sure.1 _, fun label => sure.2 _⟩
  | either known taken =>
    rw [known.check_eq]
    simp only [BuiltinKind.check, Kind.checkEither, PartChecks.ofSpec]
    refine Certain.bind (a := some v) ?_ (.pure _)
    cases primitive : raw.isPrimitive <;> rw [primitive] at taken <;> exact taken _

theorem checkAccepted_certain {spec : FieldSpec} {raw v : Value} {path : List String}
    (held : v.isUndefined = false) (passes : spec.Passes v) :
    Certain (checkAccepted rules spec raw v path) (some v) := by
  unfold checkAccepted
  simp only [held, Bool.false_eq_true, if_false]
  split
  next => exact .pure _
  next check some => exact (Certain.lift (passes check some)).bind (.pure _)

/-- A value that the rules accept, a check comes to without an issue. -/
theorem checkSpec_certain {spec : FieldSpec} {raw v : Value} {here : Setting}
    (types : ∀ group, ((rules.registry.choiceMembers group).map Prod.fst).Nodup)
    (fixed : spec.FixedPattern)
    (h : Assures rules node (checkSpec rules node other) spec raw here v) :
    Sure (checkSpec rules node other) spec raw here v := by
  intro path
  rw [checkSpec_eq]
  unfold checkWith
  refine .guard ?_
  cases h with
  | null left nullable =>
    simp only [Value.isNull, left, nullable, Bool.not_false, Bool.and_self, if_true]
    exact .pure _
  | value present defined taken held passes =>
    simp only [present, defined, Bool.false_eq_true, if_false]
    exact (kind_certain types fixed taken path).bind (checkAccepted_certain held passes)

end Validation

end ShapedTree
