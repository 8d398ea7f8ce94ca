import ShapedTree.Text.Property

namespace ShapedTree

namespace Pattern

/-- One entry of a character class. -/
inductive ClassItem where
  | range (low high : Nat)
  | digit (negated : Bool)
  | blank (negated : Bool)
  | word (negated : Bool)
  | property (property : CharProperty) (negated : Bool)

/-- The parts of a pattern. A capturing group has a number from one on; a repetition knows which
groups lie in its body, because every round forgets them. -/
inductive Term where
  | empty
  | code (value : Nat)
  | anyCode
  | oneOf (negated : Bool) (items : List ClassItem)
  | lineStart
  | lineEnd
  | wordEdge (negated : Bool)
  | group (number : Nat) (body : Term)
  | sameAs (number : Nat)
  | sameAsNamed (name : List Nat)
  | look (ahead negated : Bool) (body : Term)
  | repeated (body : Term) (least : Nat) (most : Option Nat) (greedy : Bool)
      (firstGroup groupCount : Nat)
  | andThen (first second : Term)
  | orElse (first second : Term)

/-- The switches of a pattern. -/
structure Flags where
  hasIndices : Bool := false
  global : Bool := false
  ignoreCase : Bool := false
  multiline : Bool := false
  dotAll : Bool := false
  unicode : Bool := false
  sticky : Bool := false
deriving DecidableEq, Repr, Inhabited

namespace Flags

/-- The flag that a letter switches on; none if it is no flag or is on already. -/
def add (f : Flags) : Char → Option Flags
  | 'd' => if f.hasIndices then none else some { f with hasIndices := true }
  | 'g' => if f.global then none else some { f with global := true }
  | 'i' => if f.ignoreCase then none else some { f with ignoreCase := true }
  | 'm' => if f.multiline then none else some { f with multiline := true }
  | 's' => if f.dotAll then none else some { f with dotAll := true }
  | 'u' => if f.unicode then none else some { f with unicode := true }
  | 'y' => if f.sticky then none else some { f with sticky := true }
  | _ => none

/-- The flags that letters switch on, each at most once. -/
def ofLetters? (letters : String) : Option Flags :=
  letters.toList.foldl (fun f c => f.bind (·.add c)) (some {})

/-- The letters of the flags in alphabetical order. -/
def letters (f : Flags) : String :=
  String.ofList ((if f.hasIndices then ['d'] else []) ++ (if f.global then ['g'] else []) ++
    (if f.ignoreCase then ['i'] else []) ++ (if f.multiline then ['m'] else []) ++
    (if f.dotAll then ['s'] else []) ++ (if f.unicode then ['u'] else []) ++
    (if f.sticky then ['y'] else []))

end Flags

end Pattern

end ShapedTree
