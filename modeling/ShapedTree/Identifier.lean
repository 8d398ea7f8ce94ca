import ShapedTree.Text.Units

namespace ShapedTree

namespace Identifier

/-- Words that name no variable. -/
def reserved : List String := [
  "break", "case", "catch", "class", "const", "continue", "debugger", "default", "delete", "do",
  "else", "export", "extends", "false", "finally", "for", "function", "if", "import", "in",
  "instanceof", "new", "null", "return", "super", "switch", "this", "throw", "true", "try",
  "typeof", "var", "void", "while", "with", "yield", "let", "static", "enum", "await",
  "implements", "package", "protected", "interface", "private", "public"]

def isNameChar (c : Char) : Bool := c.isAlphanum || c == '_' || c == '$'

/-- Name characters that do not start with a digit. -/
def isShaped : List Char → Bool
  | [] => false
  | c :: cs => isNameChar c && !c.isDigit && cs.all isNameChar

/-- One underscore for every unit that no name holds. -/
def cleanChar (c : Char) : List Char :=
  if isNameChar c then [c] else List.replicate (Text.unitsOfChar c).length '_'

/-- Other characters become underscores, and an underscore goes before a digit or nothing. -/
def clean (cs : List Char) : List Char :=
  match cs.flatMap cleanChar with
  | [] => ['_']
  | c :: cs => if c.isDigit then '_' :: c :: cs else c :: cs

/-- A name close to a text. -/
def sanitize (s : String) : String := String.ofList (clean s.toList)

end Identifier

/-- A text is usable as a variable name. -/
def isIdentifier (s : String) : Bool :=
  Identifier.isShaped s.toList && !Identifier.reserved.contains s

end ShapedTree
