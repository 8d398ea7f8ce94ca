import ShapedTree.Value.Basic

namespace ShapedTree

/-- Values by name for callbacks. -/
structure Kwargs where
  entries : List (String × Value) := []
  plain : Bool := true
deriving Inhabited

namespace Kwargs

/-- The names that plain records inherit. -/
def inherited : List String := [
  "constructor", "__defineGetter__", "__defineSetter__", "hasOwnProperty", "__lookupGetter__",
  "__lookupSetter__", "isPrototypeOf", "propertyIsEnumerable", "toString", "valueOf", "__proto__",
  "toLocaleString"]

/-- A name is given or inherited. -/
def has (k : Kwargs) (name : String) : Bool :=
  Entries.has k.entries name || (k.plain && inherited.contains name)

/-- The value given under a name. -/
def own? (k : Kwargs) (name : String) : Option Value := k.entries.lookup name

/-- The value found under a name, as far as it is a value: of the inherited names only the one that
leads to the common ancestor of records finds one, and that has no entries. -/
def get? (k : Kwargs) (name : String) : Option Value :=
  match k.own? name with
  | some v => some v
  | none => if k.plain ∧ name = "__proto__" then some (.record [] false) else none

/-- Arguments with overrides; without overrides they stay as they are. -/
def override (k : Kwargs) : Option (Entries Value) → Kwargs
  | none => k
  | some es => ⟨Record.merge k.entries es, true⟩

def missing (k : Kwargs) (names : List String) : List String := names.filter fun n => !k.has n

def toValue (k : Kwargs) : Value := .record k.entries k.plain

end Kwargs

end ShapedTree
