import ShapedTree.Fault
import ShapedTree.Number.Decimal
import ShapedTree.Text.Quoted
import ShapedTree.Value.Serialized

namespace ShapedTree

namespace Value

mutual

/-- A value is plain data. -/
def isJson : Value → Bool
  | .null | .bool _ | .text _ => true
  | .number n => n.isFinite
  | .list items => areJson items
  | .record es _ => haveJson es
  | _ => false
termination_by structural v => v

/-- The items of a list are plain data; missing ones are passed over. -/
def areJson : List Value → Bool
  | [] => true
  | v :: vs => (v.isHole || isJson v) && areJson vs
termination_by structural vs => vs

/-- The entries of a record hold plain data. -/
def haveJson : List (String × Value) → Bool
  | [] => true
  | (_, v) :: es => isJson v && haveJson es
termination_by structural es => es

end

/-- The entries of a record with their keys in the order of units. -/
def sortEntries (es : List (String × Value)) : Entries Value :=
  Record.ofList (es.mergeSort fun a b => Text.unitsLE a.1 b.1)

mutual

/-- The copy of plain data; no other value has one. -/
def jsonCopy? : Value → Option Value
  | .null => some .null
  | .bool b => some (.bool b)
  | .text s => some (.text s)
  | .number n => if n.isFinite then some (.number n) else none
  | .list items => (copyItems? items).map .list
  | .record es _ => (copyEntries? es).map fun es => .record (sortEntries es) true
  | _ => none
termination_by structural v => v

/-- The copies of the items of a list, none of which may be missing. -/
def copyItems? : List Value → Option (List Value)
  | [] => some []
  | v :: vs =>
    match jsonCopy? v with
    | none => none
    | some c => (copyItems? vs).map (c :: ·)
termination_by structural vs => vs

/-- The copies of the entries of a record, in the order of the record. -/
def copyEntries? : List (String × Value) → Option (List (String × Value))
  | [] => some []
  | (k, v) :: es =>
    match jsonCopy? v with
    | none => none
    | some c => (copyEntries? es).map ((k, c) :: ·)
termination_by structural es => es

end

def entryText (e : String × String) : String := Text.quote e.1 ++ ":" ++ e.2

def recordText (es : List (String × String)) : String :=
  "\x7b" ++ ",".intercalate (es.map entryText) ++ "\x7d"

def listText (items : List String) : String := "[" ++ ",".intercalate items ++ "]"

mutual

/-- The JSON text of a serialized value, if it is written at all: an undefined value is not. A
number that is not finite is written as null. -/
def render : Value → Except Fault (Option String)
  | .undefined | .hole => .ok none
  | .null => .ok (some "null")
  | .bool b => .ok (some (if b then "true" else "false"))
  | .number n => .ok (some (if n.isFinite then n.text else "null"))
  | .text s => .ok (some (Text.quote s))
  | .bigint _ | .knot => .error .unwritable
  | .exotic _ => .ok (some (recordText []))
  | .list items => do return some (listText (← renderItems items))
  | .record es _ => do return some (recordText (← renderEntries es))
  | .node ⟨_, values, _, _, _⟩ => do return some (recordText (← renderEntries values))
termination_by structural v => v

/-- The texts of the items of a list; an undefined or missing item is written as null. -/
def renderItems : List Value → Except Fault (List String)
  | [] => .ok []
  | v :: vs => do
    let text ← render v
    return text.getD "null" :: (← renderItems vs)
termination_by structural vs => vs

/-- The texts of the entries of a record that are written. -/
def renderEntries : List (String × Value) → Except Fault (List (String × String))
  | [] => .ok []
  | (k, v) :: es => do
    let text ← render v
    let rest ← renderEntries es
    match text with
    | some seen => return (k, seen) :: rest
    | none => return rest
termination_by structural es => es

end

/-- The JSON text of a value, with its nodes serialized. -/
def json? (v : Value) : Except Fault (Option String) := render (serialize .none v)

/-- The JSON text of a value; an undefined value as its name. -/
def json (v : Value) : Except Fault String := do return (← json? v).getD "undefined"

end Value

end ShapedTree
