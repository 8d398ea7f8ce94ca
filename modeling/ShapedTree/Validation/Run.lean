import ShapedTree.Log
import ShapedTree.Schema.Registry
import ShapedTree.Value.Preview

namespace ShapedTree

/-- What stateful parts of a schema remember between uses: where a pattern goes on, how often a
factory was called. A cell that was never written holds zero. -/
abbrev Memory := List (Nat × Nat)

namespace Memory

def read (m : Memory) (cell : Nat) : Nat := (m.lookup cell).getD 0

def write (m : Memory) (cell value : Nat) : Memory :=
  (cell, value) :: m.filter fun e => e.1 != cell

/-- Cells as they are in another memory. -/
def copy (m : Memory) (cells : List Nat) (other : Memory) : Memory :=
  cells.foldl (fun m cell => m.write cell (other.read cell)) m

/-- Cells as if they were never written. -/
def clear (m : Memory) (cells : List Nat) : Memory := m.copy cells []

end Memory

/-- What a run has recorded so far. -/
structure RunState where
  issues : Array Issue := #[]
  log : Array LogEntry := #[]
  memory : Memory := []
deriving Inhabited

/-- A computation of a validation. -/
abbrev Run (α : Type) := ExceptT Fault (StateM RunState) α

/-- How keys are treated that a schema does not declare. -/
inductive UnknownFields where
  | strict
  | lenient
deriving DecidableEq, Repr, Inhabited

/-- Whether a run stops at its first issue. -/
inductive ErrorMode where
  | failFast
  | batch
deriving DecidableEq, Repr, Inhabited

/-- What a run goes by. -/
structure Rules where
  registry : Registry
  unknownFields : UnknownFields := .lenient
  errors : ErrorMode := .batch
  maxDepth : Number := 512

namespace Run

variable (rules : Rules)

/-- The run stops at its first issue and has recorded one. -/
def halted : Run Bool := do
  return rules.errors == .failFast && !(← get).issues.isEmpty

/-- The preview of a value that is reported, if one is. -/
def received : Option Value → Run (Option String)
  | none | some .undefined => return none
  | some v => do return some (← v.preview)

/-- Record an issue, unless the run has halted. -/
def report (path : List String) (kind : IssueKind) (message : String)
    (suggestion : Option String := none) (raw : Option Value := none) : Run Unit := do
  if ← halted rules then return
  let received ← received raw
  modify fun s => { s with issues := s.issues.push { path, kind, message, suggestion, received } }

/-- Record what a kind found wrong with a value. -/
def reportFinding (path : List String) (raw : Value) (f : Finding) : Run Unit :=
  report rules path f.kind f.message f.suggestion (some raw)

def log (level : LogLevel) (text : String) : Run Unit :=
  modify fun s => { s with log := s.log.push ⟨level, text⟩ }

/-- Try a pattern on a text. A pattern that remembers goes on where it stopped. -/
def test (p : Pattern) (text : String) : Run Bool := do
  let (found, last) := p.test ((← get).memory.read p.cell) text
  if p.remembers then
    modify fun s => { s with memory := s.memory.write p.cell last }
  return found

/-- A computation with some cells cleared, which are as before at its end. -/
def afresh {α : Type} (cells : List Nat) (x : Run α) : Run α := do
  let before := (← get).memory
  modify fun s => { s with memory := s.memory.clear cells }
  let result ← x
  modify fun s => { s with memory := s.memory.copy cells before }
  return result

/-- The value of a static default. -/
def produce : FieldDefault → Run (Option Value)
  | .constant v => return some v
  | .factory made => do return some (← made)
  | .counting cell make => do
    let count := (← get).memory.read cell
    modify fun s => { s with memory := s.memory.write cell (count + 1) }
    return some (← make count)
  | .computed _ => return none

/-- A run of its own with the same memory: its result, its issues and its messages. -/
def trial {α : Type} (x : Run α) : Run (α × Array Issue × Array LogEntry) := fun s =>
  match x { memory := s.memory } with
  | (.ok a, t) => (.ok (a, t.issues, t.log), { s with memory := t.memory })
  | (.error e, t) => (.error e, { s with memory := t.memory })

/-- Take over the warnings of a trial. -/
def adopt (entries : Array LogEntry) : Run Unit :=
  modify fun s => { s with log := s.log ++ entries.filter fun e => e.level == .warn }

end Run

end ShapedTree
