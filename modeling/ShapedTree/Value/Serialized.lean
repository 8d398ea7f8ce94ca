import ShapedTree.Value.Basic

namespace ShapedTree

/-- Which defaulted values output leaves out: none of them, all of them, or those of fields marked
as compactable. -/
inductive Omission where
  | none
  | defaulted
  | compact
deriving DecidableEq, Repr, Inhabited

namespace NodeOf

variable {α : Type}

/-- Output keeps a field's value. -/
def keeps (n : NodeOf α) (omit_ : Omission) (field : String) : Bool :=
  match omit_ with
  | .none => true
  | .defaulted => !n.isDefaulted field
  | .compact => !(n.isDefaulted field && n.compactable.contains field)

end NodeOf

/-- The entry that names the type of a choice member. -/
def typeEntry (choiceType : Option String) : List (String × Value) :=
  match choiceType with
  | .none => []
  | .some type => [("type", .text type)]

namespace Value

mutual

/-- A value with its nodes as records. -/
def serialize (omit_ : Omission) : Value → Value
  | .list items => .list (serializeItems omit_ items)
  | .record es _ => .record (serializeEntries omit_ es) true
  | .node ⟨schema, values, defaulted, choiceType, compactable⟩ =>
    let kept := (serializeEntries omit_ values).filter fun e =>
      (NodeOf.mk schema values defaulted choiceType compactable).keeps omit_ e.1
    .record (Record.ofList (typeEntry choiceType ++ kept)) true
  | .exotic _ => .record [] true
  | v => v
termination_by structural v => v

def serializeItems (omit_ : Omission) : List Value → List Value
  | [] => []
  | v :: vs => serialize omit_ v :: serializeItems omit_ vs
termination_by structural vs => vs

def serializeEntries (omit_ : Omission) : List (String × Value) → List (String × Value)
  | [] => []
  | (k, v) :: es => (k, serialize omit_ v) :: serializeEntries omit_ es
termination_by structural es => es

end

mutual

/-- The number of nodes in a value. -/
def countNodes : Value → Nat
  | .list items => countInItems items
  | .record es _ => countInEntries es
  | .node ⟨_, values, _, _, _⟩ => 1 + countInEntries values
  | _ => 0
termination_by structural v => v

def countInItems : List Value → Nat
  | [] => 0
  | v :: vs => countNodes v + countInItems vs
termination_by structural vs => vs

def countInEntries : List (String × Value) → Nat
  | [] => 0
  | (_, v) :: es => countNodes v + countInEntries es
termination_by structural es => es

end

end Value

/-- The entries that a node is written as. -/
def Node.serialize (n : Node) (omit_ : Omission) : Entries Value :=
  Record.ofList (typeEntry n.choiceType ++
    (Value.serializeEntries omit_ n.values).filter fun e => n.keeps omit_ e.1)

/-- The number of nodes in the tree of a node, itself included. -/
def Node.count (n : Node) : Nat := 1 + Value.countInEntries n.values

end ShapedTree
