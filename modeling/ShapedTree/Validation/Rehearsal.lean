import ShapedTree.Kind.Catalog
import ShapedTree.Validation.Run

namespace ShapedTree

/-- What a kind asks of its validation. -/
inductive Question where
  | node (raw : Value) (schema : String) (kwargs : Option (Entries Value))
  | choice (raw : Value) (group : String) (kwargs : Option (Entries Value))
  | value (spec : FieldSpec) (raw : Value) (label : String)

/-- The answers of a rehearsal. Once `haltAfter` questions were asked, the run counts as halted. -/
structure StandIns where
  path : List String := []
  kwargs : Kwargs := {}
  haltAfter : Option Nat := none
  node : Value → String → Option Node := fun _ _ => none
  choice : Value → String → Option Node := fun _ _ => none
  value : FieldSpec → Value → Option Value := fun _ _ => none

/-- The questions asked so far, and the memory. -/
structure RehearsalState where
  questions : Array Question := #[]
  memory : Memory := []

/-- A computation of a rehearsal. -/
abbrev Rehearsal (α : Type) := ExceptT Fault (StateM RehearsalState) α

namespace Rehearsal

/-- Record a question. -/
def ask (q : Question) : Rehearsal Unit :=
  modify fun s => { s with questions := s.questions.push q }

/-- The context of a rehearsal. -/
def context (answers : StandIns) : KindContext (ExceptT Fault (StateM RehearsalState)) where
  path := answers.path
  kwargs := answers.kwargs
  halted := do
    let asked := (← get).questions.size
    return (answers.haltAfter.map fun n => decide (n ≤ asked)).getD false
  node := fun raw schema kwargs => do
    ask (.node raw schema kwargs)
    return answers.node raw schema
  choice := fun raw group kwargs => do
    ask (.choice raw group kwargs)
    return answers.choice raw group
  value := fun spec raw label => do
    ask (.value spec raw label)
    return answers.value spec raw
  test := fun p text => do
    let (found, last) := p.test ((← get).memory.read p.cell) text
    if p.remembers then modify fun s => { s with memory := s.memory.write p.cell last }
    return found
  afresh := fun spec x => do
    let cells := spec.patternCells
    let before := (← get).memory
    modify fun s => { s with memory := s.memory.clear cells }
    let result ← x
    modify fun s => { s with memory := s.memory.copy cells before }
    return result

/-- The rehearsal of a kind on a value of a specification. -/
def ofKind (answers : StandIns) (catalog : KindCatalog) (tag : String) (spec : FieldSpec)
    (raw : Value) : Rehearsal KindResult :=
  let ctx := context answers
  catalog.check tag ctx (PartChecks.ofSpec ctx.value spec) spec raw

end Rehearsal

end ShapedTree
