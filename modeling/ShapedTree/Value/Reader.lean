import ShapedTree.Value.Basic

namespace ShapedTree

namespace JsonText

def isSpace (c : Char) : Bool := c == ' ' || c == '\t' || c == '\n' || c == '\r'

/-- Characters behind blanks. -/
def skip (cs : List Char) : List Char := cs.dropWhile isSpace

/-- The unit of four hexadecimal digits. -/
def unit? (a b c d : Char) : Option Nat :=
  let ds := [a, b, c, d]
  if ds.all fun c => Numeral.digitValue c < 16 then some (Numeral.valueInBase 16 ds) else none

/-- The character of a one-letter escape. -/
def escaped? : Char → Option Char
  | '"' => some '"'
  | '\\' => some '\\'
  | '/' => some '/'
  | 'b' => some '\x08'
  | 'f' => some '\x0c'
  | 'n' => some '\n'
  | 'r' => some '\r'
  | 't' => some '\t'
  | _ => none

/-- The characters of a text up to its closing quote, and those behind it. Units without their pair
are no text. -/
def characters? : List Char → Option (List Char × List Char)
  | [] => none
  | '"' :: cs => some ([], cs)
  | '\\' :: 'u' :: a :: b :: c :: d :: cs =>
    match unit? a b c d with
    | none => none
    | some u =>
      -- A high unit is a character only together with the low unit behind it.
      if Text.isHighUnit u then
        match cs with
        | '\\' :: 'u' :: a :: b :: c :: d :: cs =>
          match unit? a b c d with
          | none => none
          | some v =>
            if Text.isLowUnit v then
              (characters? cs).map fun r => (Char.ofNat (Text.pairCode u v) :: r.1, r.2)
            else none
        | _ => none
      else if Text.isLowUnit u then none
      else (characters? cs).map fun r => (Char.ofNat u :: r.1, r.2)
  | '\\' :: e :: cs =>
    match escaped? e with
    | none => none
    | some c => (characters? cs).map fun r => (c :: r.1, r.2)
  | c :: cs => if c.toNat < 32 then none else (characters? cs).map fun r => (c :: r.1, r.2)

/-- A text behind its opening quote. -/
def text? (cs : List Char) : Option (String × List Char) :=
  (characters? cs).map fun r => (String.ofList r.1, r.2)

def isNumberChar (c : Char) : Bool :=
  c.isDigit || c == '-' || c == '+' || c == '.' || c == 'e' || c == 'E'

/-- An unsigned number starts with a digit, and with a zero only if no digit follows. -/
def isWhole : List Char → Bool
  | '0' :: c :: _ => !c.isDigit
  | c :: _ => c.isDigit
  | [] => false

/-- A number and the characters behind it. -/
def number? (cs : List Char) : Option (Number × List Char) :=
  let (body, rest) := cs.span isNumberChar
  match body with
  | '-' :: ds => if isWhole ds then (Numeral.decimal? ds).map fun n => (n.neg, rest) else none
  | ds => if isWhole ds then (Numeral.decimal? ds).map fun n => (n, rest) else none

mutual

/-- A value and the characters behind it. -/
def value? : (fuel : Nat) → List Char → Option (Value × List Char)
  | 0, _ => none
  | fuel + 1, cs =>
    match skip cs with
    | 'n' :: 'u' :: 'l' :: 'l' :: rest => some (.null, rest)
    | 't' :: 'r' :: 'u' :: 'e' :: rest => some (.bool true, rest)
    | 'f' :: 'a' :: 'l' :: 's' :: 'e' :: rest => some (.bool false, rest)
    | '"' :: rest => (text? rest).map fun r => (.text r.1, r.2)
    | '[' :: rest =>
      match skip rest with
      | ']' :: rest => some (.list [], rest)
      | rest => (items? fuel rest).map fun r => (.list r.1, r.2)
    | '\x7b' :: rest =>
      match skip rest with
      | '\x7d' :: rest => some (.record [] true, rest)
      | rest => (entries? fuel rest).map fun r => (.ofEntries r.1, r.2)
    | cs => (number? cs).map fun r => (.number r.1, r.2)

/-- The items of a list up to its closing bracket. -/
def items? : (fuel : Nat) → List Char → Option (List Value × List Char)
  | 0, _ => none
  | fuel + 1, cs =>
    match value? fuel cs with
    | none => none
    | some (v, rest) =>
      match skip rest with
      | ',' :: rest => (items? fuel rest).map fun r => (v :: r.1, r.2)
      | ']' :: rest => some ([v], rest)
      | _ => none

/-- The entries of an object up to its closing brace. -/
def entries? : (fuel : Nat) → List Char → Option (List (String × Value) × List Char)
  | 0, _ => none
  | fuel + 1, cs =>
    match skip cs with
    | '"' :: rest =>
      match text? rest with
      | none => none
      | some (key, rest) =>
        match skip rest with
        | ':' :: rest =>
          match value? fuel rest with
          | none => none
          | some (v, rest) =>
            match skip rest with
            | ',' :: rest => (entries? fuel rest).map fun r => ((key, v) :: r.1, r.2)
            | '\x7d' :: rest => some ([(key, v)], rest)
            | _ => none
        | _ => none
    | _ => none

end

end JsonText

/-- The plain data that a JSON text spells. -/
def Value.ofJson? (s : String) : Option Value :=
  match JsonText.value? (s.length + 1) s.toList with
  | some (v, rest) => if JsonText.skip rest = [] then some v else none
  | none => none

end ShapedTree
