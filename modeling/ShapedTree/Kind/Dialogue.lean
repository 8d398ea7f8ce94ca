import ShapedTree.Kind.Scalar

namespace ShapedTree

/-- What a kind may ask of the validation that runs it, in the effects `m` of that validation. -/
structure KindContext (m : Type → Type) where
  path : List String
  kwargs : Kwargs
  /-- A run that stops at the first issue has recorded one. -/
  halted : m Bool
  /-- The nested node of a schema; its issues are recorded by the validation. -/
  node : Value → String → Option (Entries Value) → m (Option Node)
  /-- The nested node of a member of a choice group. -/
  choice : Value → String → Option (Entries Value) → m (Option Node)
  /-- The value of another specification; the label extends the path. -/
  value : FieldSpec → Value → String → m (Option Value)
  /-- A pattern is tried on a text. -/
  test : Pattern → String → m Bool
  /-- A specification is used as if it were new: its patterns begin at the start, and afterwards
  they go on where they were. -/
  afresh : FieldSpec → m KindResult → m KindResult

/-- The conversation of a custom kind with the validation. -/
inductive Dialogue where
  | answer (result : KindResult)
  | fail (fault : Fault)
  | halted (next : Bool → Dialogue)
  | node (raw : Value) (schema : String) (kwargs : Option (Entries Value))
      (next : Option Node → Dialogue)
  | choice (raw : Value) (group : String) (kwargs : Option (Entries Value))
      (next : Option Node → Dialogue)
  | value (spec : FieldSpec) (raw : Value) (label : String) (next : Option Value → Dialogue)
  | afresh (spec : FieldSpec) (rest : Dialogue)

namespace Dialogue

/-- A dialogue with a validation that answers it. -/
def run {m : Type → Type} [Monad m] [MonadExceptOf Fault m] (ctx : KindContext m) :
    Dialogue → m KindResult
  | .answer result => pure result
  | .fail fault => throw fault
  | .halted next => do run ctx (next (← ctx.halted))
  | .node raw schema kwargs next => do run ctx (next (← ctx.node raw schema kwargs))
  | .choice raw group kwargs next => do run ctx (next (← ctx.choice raw group kwargs))
  | .value spec raw label next => do run ctx (next (← ctx.value spec raw label))
  | .afresh spec rest => ctx.afresh spec (run ctx rest)

end Dialogue

/-- A custom kind: what it says to a value, with the specification, the path and the arguments. -/
abbrev CustomKind := Value → FieldSpec → List String → Kwargs → Dialogue

end ShapedTree
