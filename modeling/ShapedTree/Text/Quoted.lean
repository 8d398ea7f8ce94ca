import ShapedTree.Text.Units

namespace ShapedTree

namespace Text

def hexDigit (n : Nat) : Char :=
  if n < 10 then Char.ofNat ('0'.toNat + n) else Char.ofNat ('a'.toNat + (n - 10))

/-- The escape of a unit as four hexadecimal digits. -/
def hexEscape (u : Nat) : List Char :=
  ['\\', 'u', hexDigit (u / 4096 % 16), hexDigit (u / 256 % 16), hexDigit (u / 16 % 16),
    hexDigit (u % 16)]

/-- The quoted form of one character. -/
def quoteChar (c : Char) : List Char :=
  if c = '"' then ['\\', '"']
  else if c = '\\' then ['\\', '\\']
  else if c = '\n' then ['\\', 'n']
  else if c = '\r' then ['\\', 'r']
  else if c = '\t' then ['\\', 't']
  else if c.toNat = 8 then ['\\', 'b']
  else if c.toNat = 12 then ['\\', 'f']
  else if c.toNat < 32 then hexEscape c.toNat
  else [c]

def quote (s : String) : String :=
  String.ofList ('"' :: s.toList.flatMap quoteChar ++ ['"'])

/-- The quoted form of a row of units, a unit without its pair escaped. -/
def quoteUnits : List Nat → List Char
  | [] => []
  | [u] => if isHighUnit u || isLowUnit u then hexEscape u else quoteChar (Char.ofNat u)
  | u :: v :: rest =>
    if isHighUnit u && isLowUnit v then Char.ofNat (pairCode u v) :: quoteUnits rest
    else if isHighUnit u || isLowUnit u then hexEscape u ++ quoteUnits (v :: rest)
    else quoteChar (Char.ofNat u) ++ quoteUnits (v :: rest)

/-- The first `n` units of a text and then a tail, between quotes. -/
def quoteShortened (s : String) (n : Nat) (tail : String) : String :=
  String.ofList ('"' :: quoteUnits ((units s).take n) ++ tail.toList.flatMap quoteChar ++ ['"'])

/-- A JSON text with the same meaning in ASCII: other characters stand within its quoted texts only,
and there they are escaped. -/
def asciiJson (s : String) : String :=
  String.ofList (s.toList.flatMap fun c =>
    if c.toNat < 127 then [c] else (unitsOfChar c).flatMap hexEscape)

end Text

end ShapedTree
