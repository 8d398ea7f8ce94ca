import ShapedTree.Record

namespace ShapedTree

/-- A finished node. Its values are in declaration order; `defaulted` names the values that came
from a default and `compactable` the fields that compact output leaves out when defaulted. -/
structure NodeOf (α : Type) where
  schema : String
  values : List (String × α)
  defaulted : List String
  choiceType : Option String
  compactable : List String
deriving Repr, Inhabited

/-- The classes of objects that show no keys: collections hide what they hold. -/
inductive ObjectClass where
  | keyless
  | set
  | map
deriving DecidableEq, Repr, Inhabited

/-- A value. A record is plain unless it was made without inherited names; `exotic` is an object of
some class without keys of its own, and `knot` a record whose key `self` holds the record. A `hole`
stands for an item that is missing in a list, and nowhere else. -/
inductive Value where
  | undefined
  | hole
  | null
  | bool (value : Bool)
  | number (value : Number)
  | text (value : String)
  | bigint (value : Int)
  | exotic (made : ObjectClass)
  | knot
  | list (items : List Value)
  | record (entries : List (String × Value)) (plain : Bool)
  | node (node : NodeOf Value)
deriving Repr, Inhabited

/-- A finished node of a tree. -/
abbrev Node := NodeOf Value

namespace Value

def ofEntries (es : List (String × Value)) : Value := .record (Record.ofList es) true

def ofTexts (ss : List String) : Value := .list (ss.map .text)

def isNull : Value → Bool
  | .null => true
  | _ => false

/-- No value: one that is undefined or that is missing. -/
def isUndefined : Value → Bool
  | .undefined | .hole => true
  | _ => false

def isHole : Value → Bool
  | .hole => true
  | _ => false

/-- What is read at the index of an item: nothing where it is missing. -/
def read : Value → Value
  | .hole => .undefined
  | v => v

/-- Values that primitive kinds take: texts, numbers and booleans. -/
def isPrimitive : Value → Bool
  | .text _ | .number _ | .bool _ => true
  | _ => false

/-- Equality as a comparison of values: primitives by value, anything with parts only with itself,
so never with another one. -/
def same : Value → Value → Bool
  | .undefined, .undefined | .null, .null => true
  | .bool a, .bool b => a == b
  | .number a, .number b => a.same b
  | .text a, .text b => a == b
  | .bigint a, .bigint b => a == b
  | _, _ => false

/-- The own entries of an object in the order of enumeration; none for lists and primitives. A node
shows its marks and hides what they hold. -/
def entries? : Value → Option (Entries Value)
  | .record es _ => some es
  | .knot => some [("self", .knot)]
  | .exotic _ => some []
  | .node n => some [("schema", .text n.schema), ("defaulted", .exotic .set),
      ("choiceType", (n.choiceType.map Value.text).getD .undefined), ("values", .exotic .map),
      ("compactable", .exotic .set)]
  | _ => none

/-- The items of a list as they are read one after another. -/
def items? : Value → Option (List Value)
  | .list items => some (items.map read)
  | _ => none

theorem read_of_defined {v : Value} (defined : v.isUndefined = false) : v.read = v := by
  cases v <;> first | rfl | cases defined

/-- What holds of the items of a list that are there holds of all that are read, if it holds where
one is missing. -/
theorem forall_mem_of_items? {P : Value → Prop} {items : List Value} (missing : P .undefined)
    (held : ∀ v ∈ items, P v) {vs : List Value} (shape : (Value.list items).items? = some vs) :
    ∀ v ∈ vs, P v := by
  cases shape
  refine List.forall_mem_map.mpr fun v hv => ?_
  cases v with
  | hole => exact missing
  | _ => exact held _ hv

/-- A list or a record of some sort. -/
def isObject : Value → Bool
  | .list _ => true
  | v => v.entries?.isSome

/-- The part of an object under a name: an entry, an item of a list, or its length. -/
def part? (v : Value) (name : String) : Option Value :=
  match v with
  | .list items =>
    if name = "length" then some (.number (items.length : Nat))
    else (Record.index? name).bind fun i => items[i]?.filter fun v => !v.isHole
  | v => v.entries?.bind (·.lookup name)

end Value

namespace NodeOf

variable {α : Type}

/-- A node of the given entries; a name that comes again takes its last value, and marks that come
again count once. -/
def make (schema : String) (values : List (String × α)) (defaulted : List String)
    (choiceType : Option String) (compactable : List String) : NodeOf α :=
  ⟨schema, Entries.ofList values, defaulted.eraseDups, choiceType, compactable.eraseDups⟩

def get? (n : NodeOf α) (field : String) : Option α := n.values.lookup field

def has (n : NodeOf α) (field : String) : Bool := Entries.has n.values field

def isDefaulted (n : NodeOf α) (field : String) : Bool := n.defaulted.contains field

end NodeOf

def Node.child? (n : Node) (field : String) : Option Node :=
  match n.get? field with
  | some (.node c) => some c
  | _ => none

/-- What ancestors and siblings show of a node, finished or under construction. -/
structure NodeView where
  schema : String
  values : Entries Value
deriving Inhabited

namespace NodeView

def get? (v : NodeView) (field : String) : Option Value := v.values.lookup field

def has (v : NodeView) (field : String) : Bool := Entries.has v.values field

end NodeView

def Node.view (n : Node) : NodeView := ⟨n.schema, n.values⟩

end ShapedTree
