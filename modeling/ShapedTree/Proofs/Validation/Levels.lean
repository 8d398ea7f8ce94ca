import ShapedTree.Proofs.Validation.HeldNodes

namespace ShapedTree

open Run

/-- A node stands so many levels below another one. -/
inductive NodeOf.AtLevel : NodeOf Value → Nat → NodeOf Value → Prop
  | root (n : NodeOf Value) : AtLevel n 0 n
  | step {n c p : NodeOf Value} {k : Nat} {e : String × Value} (mem : e ∈ n.values)
      (bears : e.2.Bears c) (level : AtLevel c k p) : AtLevel n (k + 1) p

/-- The nodes of a tree are those on its levels. -/
theorem NodeOf.reaches_iff {n c : Node} : n.Reaches c ↔ ∃ k, n.AtLevel k c := by
  constructor
  · intro reaches
    induction reaches with
    | root n => exact ⟨0, .root n⟩
    | step mem bears _ ih =>
      obtain ⟨k, level⟩ := ih
      exact ⟨k + 1, .step mem bears level⟩
  · rintro ⟨k, level⟩
    induction level with
    | root n => exact .root n
    | step mem bears _ ih => exact .step mem bears ih

namespace Validation

open Run.Logic

variable {rules : Rules} {node : NodeRun} {other : ValueRun} {P : Node → Prop}

/-- What a kind without parts stores holds no node, and neither does null. -/
theorem checkSpec_bare {spec : FieldSpec} (builtin : spec.Builtin rules.registry.kinds) {raw : Value}
    (ready : (!raw.isNull && rules.registry.kinds.isNested spec.kind) = false) (place : Place) :
    Grants (checkSpec rules node other spec raw place) (Permits fun v => ∀ n, ¬ v.Bears n) := by
  obtain ⟨k, known⟩ := builtin
  rw [checkSpec_eq]
  refine checkWith_holds (L := .granting rules) (fun _ _ _ => ⟨fun no => no.elim, fun _ _ => trivial⟩)
    (fun no => no.elim) (fun _ => nofun) fun present => ?_
  rw [known.check_eq]
  rw [known.isNested_eq] at ready
  rw [known.acceptsNull_eq] at present
  have flat : k.isNested = false := by
    cases null : raw.isNull with
    | false => simpa [null] using ready
    | true =>
      have takes : k.takesNull = true := by simpa [null] using present
      cases k <;> first | rfl | cases takes
  refine (BuiltinKind.check_grants flat rfl _ _).mono fun result settles v same => ?_
  rcases settles with ⟨f, fs, no⟩ | ⟨w, taken, verdict⟩
  · cases same.symm.trans no
  · cases same.symm.trans taken
    exact BuiltinKind.bare_of_verdict flat verdict

/-- The nodes that a value of a specification holds are answered by checks one level below it,
under the ancestors that the value itself has. -/
theorem checkSpec_bears {stack : List NodeView} {depth : Nat}
    (below : ∀ raw name place, place.stack = stack → place.depth = depth + 1 →
      Grants (node raw name place) (Permits P))
    {spec : FieldSpec} (builtin : spec.Every (FieldSpec.Builtin rules.registry.kinds)) (raw : Value)
    (place : Place) (ancestors : place.stack = stack) (level : place.depth = depth) :
    Grants (checkSpec rules node other spec raw place) (Permits (Value.BearsOnly P)) := by
  let L := Logic.granting rules
  have whole : ∀ {spec : FieldSpec} {parts : PartChecks Run} {raw : Value} {place : Place},
      spec.Builtin rules.registry.kinds → place.stack = stack → place.depth = depth →
      PartsSatisfy L (Value.BearsOnly P) raw parts →
      Grants (checkWith rules (context rules node other spec place) parts spec raw place.path)
        (Permits (Value.BearsOnly P)) := by
    rintro spec parts raw place ⟨k, known⟩ ancestors level hparts
    refine checkWith_holds (L := L) (fun _ _ _ => ⟨fun no => no.elim, fun _ _ => trivial⟩)
      (fun no => no.elim) (fun _ => .of_bare nofun) fun _ => ?_
    rw [known.check_eq]
    have answered : ∀ name, Grants (node raw name ((place.inside spec).below spec.info.kwargs))
        (Permits P) := fun name => below raw name _ ancestors (congrArg (· + 1) level)
    refine builtin_holds (L := L) (fun forgets => absurd trivial forgets) (fun s => .of_bare nofun)
      (fun flat v taken => .of_bare (BuiltinKind.bare_of_verdict flat taken)) (fun _ => .list)
      (fun _ => .record) (fun name => ?_) (fun name => ?_) hparts
    · exact (answered name).mono fun answer held n same => .node (held n same)
    · exact (Choice.check_grants answered name).mono fun answer held n same => .node (held n same)
  induction spec generalizing raw place with
  | leaf info => exact whole builtin.self ancestors level .none
  | list info item ih =>
    exact whole builtin.self ancestors level
      (.list fun _ _ v _ label => ih builtin.item v _ ancestors level)
  | mapping info key value ihKey ihValue =>
    exact whole builtin.self ancestors level
      (.mapping
        (fun s label => L.mono (ihKey builtin.key (.text s) _ ancestors level) fun _ _ => trivial)
        fun _ _ e _ label => ihValue builtin.value e.2 _ ancestors level)
  | either info primitive complex ihPrimitive ihComplex =>
    exact whole builtin.self ancestors level
      (.either (ihPrimitive builtin.primitive raw _ ancestors level)
        (ihComplex builtin.complex raw _ ancestors level))

end Validation

end ShapedTree
