import ShapedTree.Schema.Registry

namespace ShapedTree

/-- A handle on an operation: its name and the arguments that the handle requires. -/
structure Operation where
  name : String
  requires : List String := []
deriving DecidableEq, Repr, Inhabited

/-- What an implementation does: it asks for dispatches, one after another, goes on with what each of
them comes to, and ends with a result. -/
inductive Traversal where
  | done (result : Except Fault Value)
  | ask (op : Operation) (node : Node) (stack : List NodeView) (kwargs : Kwargs)
      (next : Except Fault Value → Traversal)
  | askChild (op : Operation) (node : Node) (field : String) (stack : List NodeView)
      (kwargs : Kwargs) (next : Except Fault Value → Traversal)

namespace Traversal

/-- A traversal that ends at once with a value. -/
def answer (v : Value) : Traversal := .done (.ok v)

/-- What follows a dispatch that has to succeed: a fault is passed on. -/
def onward (next : Value → Traversal) : Except Fault Value → Traversal
  | .ok v => next v
  | .error fault => .done (.error fault)

/-- A dispatch that has to succeed, and what follows from its value. -/
def dispatch (op : Operation) (node : Node) (stack : List NodeView) (kwargs : Kwargs)
    (next : Value → Traversal) : Traversal :=
  .ask op node stack kwargs (onward next)

/-- A dispatch on the node that a field holds, which has to succeed. -/
def dispatchChild (op : Operation) (node : Node) (field : String) (stack : List NodeView)
    (kwargs : Kwargs) (next : Value → Traversal) : Traversal :=
  .askChild op node field stack kwargs (onward next)

end Traversal

/-- An implementation of an operation for the nodes of a schema. -/
abbrev Implementation := Schema → Node → List NodeView → Kwargs → Traversal

/-- An implementation with the arguments that it requires. -/
structure Binding where
  run : Implementation
  requires : List String

/-- Implementations by schema and operation, and the schemas that implement each operation. -/
structure Dispatcher where
  maxDepth : Option Number := none
  bySchema : List (String × List (String × Binding)) := []
  byOperation : List (String × List String) := []

namespace Dispatcher

def table (d : Dispatcher) (schema : String) : List (String × Binding) :=
  (d.bySchema.lookup schema).getD []

def find? (d : Dispatcher) (schema operation : String) : Option Binding :=
  (d.table schema).lookup operation

def has (d : Dispatcher) (schema operation : String) : Bool := (d.find? schema operation).isSome

def operations (d : Dispatcher) : Option String → List String
  | none => Text.sortByUnits (Entries.keys d.byOperation)
  | some schema => Text.sortByUnits (Entries.keys (d.table schema))

def implementers (d : Dispatcher) (operation : String) : Option (List String) :=
  d.byOperation.lookup operation

/-- One schema implements an operation. -/
def bind (d : Dispatcher) (op : Operation) (impl : Implementation) (schema : String) :
    Dispatcher :=
  let known := (d.implementers op.name).getD []
  { d with
    bySchema := Entries.put d.bySchema schema
      (Entries.put (d.table schema) op.name ⟨impl, op.requires⟩)
    byOperation := Entries.put d.byOperation op.name
      (if known.contains schema then known else known ++ [schema]) }

/-- The schemas are registered and none of them implements the operation. -/
def checkFree (d : Dispatcher) (r : Registry) (op : Operation) : List String → Except Fault Unit
  | [] => .ok ()
  | schema :: rest => do
    let _ ← r.lookup schema
    if d.has schema op.name then throw (.duplicateOperation op.name schema)
    checkFree d r op rest

/-- Several schemas implement an operation. -/
def register (d : Dispatcher) (r : Registry) (op : Operation) (schemas : List String)
    (impl : Implementation) : Except Fault Dispatcher := do
  d.checkFree r op schemas
  return schemas.foldl (fun d schema => d.bind op impl schema) d

/-- Advice for an operation that a schema does not implement. -/
def suggestFor (d : Dispatcher) (operation schema : String) : Option String :=
  match didYouMean operation (Entries.keys (d.table schema)) with
  | some close => some close
  | none => (d.implementers operation).map fun schemas =>
    let listed := ", ".intercalate (Text.sortByUnits schemas)
    s!"'{operation}' is implemented for: {listed}."

/-- The implementation that a dispatch invokes, if nothing stands against it. -/
def select (d : Dispatcher) (r : Registry) (op : Operation) (node : Node) (depth : Nat)
    (kwargs : Kwargs) : Except Fault (Schema × Binding) := do
  match d.maxDepth with
  | some bound => if bound.lt depth then throw (.depthExceeded op.name depth bound.text)
  | none => pure ()
  let schema ← r.lookup node.schema
  match d.find? schema.name op.name with
  | none => throw (.unknownOperation schema.name op.name (d.suggestFor op.name schema.name))
  | some binding =>
    let missing := kwargs.missing (binding.requires ++ op.requires).eraseDups
    if missing ≠ [] then throw (.missingOperands op.name missing)
    return (schema, binding)

/-- The node that a field holds. -/
def childOf (node : Node) (field : String) : Except Fault Node :=
  match node.child? field with
  | some child => .ok child
  | none => .error (.notANode field node.schema)

/-- What a dispatch does with an operation, a node, its ancestors and the arguments. -/
abbrev Invocation := Operation → Node → List NodeView → Kwargs → Logged Value

end Dispatcher

namespace Traversal

/-- A traversal whose dispatches are answered. -/
def run (invoke : Dispatcher.Invocation) : Traversal → Logged Value
  | .done result => result
  | .ask op node stack kwargs next => do
    run invoke (next (← observing (invoke op node stack kwargs)))
  | .askChild op node field stack kwargs next => do
    let result ← observing do
      let child ← Dispatcher.childOf node field
      invoke op child (stack ++ [node.view]) kwargs
    run invoke (next result)

/-- The dispatches on the children that fields hold, one after another, and what follows from their
results. -/
def children (op : Operation) (node : Node) (stack : List NodeView) (kwargs : Kwargs)
    (finish : List Value → Traversal) : List String → Traversal
  | [] => finish []
  | field :: fields =>
    .dispatchChild op node field stack kwargs fun v =>
      children op node stack kwargs (fun vs => finish (v :: vs)) fields

/-- The dispatches on nodes below a node, one after another, with the list of their results. -/
def onEach (op : Operation) (node : Node) (stack : List NodeView) (kwargs : Kwargs)
    (finish : List Value → Traversal) : List Node → Traversal
  | [] => finish []
  | child :: rest =>
    .dispatch op child (stack ++ [node.view]) kwargs fun v =>
      onEach op node stack kwargs (fun vs => finish (v :: vs)) rest

end Traversal

namespace Dispatcher

/-- A dispatch that may nest further dispatches so many levels deep. -/
def dispatchAt (d : Dispatcher) (r : Registry) : (levels : Nat) → Invocation
  | 0 => fun _ _ _ _ => throw .overflow
  | levels + 1 => fun op node stack kwargs => do
    let depth := stack.length + 1
    let (schema, binding) ← d.select r op node depth kwargs
    Logged.log .debug s!"dispatch {op.name} on {schema.name} at depth {depth}"
    (binding.run schema node stack kwargs).run (dispatchAt d r levels)

/-- The number of nested dispatches that stands for no bound. -/
def levelLimit : Nat := 10000

/-- Dispatch an operation on a node. Traversals that only descend need as many levels as the tree
has nodes. -/
def dispatch (d : Dispatcher) (r : Registry) : Invocation := fun op node stack kwargs =>
  d.dispatchAt r (levelLimit + node.count) op node stack kwargs

def dispatchChild (d : Dispatcher) (r : Registry) (op : Operation) (node : Node) (field : String)
    (stack : List NodeView) (kwargs : Kwargs) : Logged Value := do
  let child ← childOf node field
  d.dispatch r op child (stack ++ [node.view]) kwargs

end Dispatcher

end ShapedTree
