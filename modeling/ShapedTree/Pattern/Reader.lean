import ShapedTree.Pattern.Basic
import ShapedTree.Text.Units

namespace ShapedTree

namespace Pattern

/-- The largest repetition count; larger ones count as it. -/
def largestCount : Nat := 2147483647

/-- The largest number of capturing groups. -/
def largestGroup : Nat := 32767

def isDigitCode (n : Nat) : Bool := 48 ≤ n && n ≤ 57

def isLetterCode (n : Nat) : Bool := (65 ≤ n && n ≤ 90) || (97 ≤ n && n ≤ 122)

/-- The value of a hexadecimal digit. -/
def hexValue? (n : Nat) : Option Nat :=
  if isDigitCode n then some (n - 48)
  else if 97 ≤ n ∧ n ≤ 102 then some (n - 87)
  else if 65 ≤ n ∧ n ≤ 70 then some (n - 55)
  else none

/-- The code of an ASCII character. -/
def codeOf (c : Char) : Nat := c.toNat

/-- A character that a pattern gives a meaning of its own. -/
def isMarkCode (n : Nat) : Bool := "^$\\.*+?()[]\x7b\x7d|/".toList.any fun c => c.toNat == n

/-- What reading knows beforehand: the unicode flag, the number of capturing groups in the whole
text, and whether one of them has a name. -/
structure Grammar where
  unicode : Bool
  groups : Nat
  named : Bool

/-- Groups are counted by skipping escapes and classes. -/
def countGroups : (inClass : Bool) → List Nat → Nat × Bool
  | _, [] => (0, false)
  | inClass, c :: rest =>
    if c = codeOf '\\' then
      match rest with
      | [] => (0, false)
      | _ :: rest => countGroups inClass rest
    else if inClass then countGroups (c != codeOf ']') rest
    else if c = codeOf '[' then countGroups true rest
    else if c = codeOf '(' then
      match rest with
      | q :: more =>
        if q ≠ codeOf '?' then
          let (n, named) := countGroups false rest
          (n + 1, named)
        else
          match more with
          | a :: b :: _ =>
            let (n, named) := countGroups false rest
            -- `(?<name>` opens a group; lookbehinds begin with the same sign.
            if a = codeOf '<' ∧ b ≠ codeOf '=' ∧ b ≠ codeOf '!' then (n + 1, true) else (n, named)
          | _ => countGroups false rest
      | [] => (1, false)
    else countGroups false rest
termination_by structural _ cs => cs

/-- What has been read: the rest of the text, the number of groups opened so far and the names
given to groups. -/
structure Reading where
  rest : List Nat
  opened : Nat := 0
  names : List (List Nat × Nat) := []

/-- A step of reading fails where the text leaves the grammar. -/
abbrev Read (α : Type) := StateT Reading Option α

def refuse {α : Type} : Read α := fun _ => none

def peek : Read (Option Nat) := do return (← get).rest.head?

def skip (n : Nat) : Read Unit := modify fun r => { r with rest := r.rest.drop n }

def sees (c : Char) : Read Bool := do return (← peek) == some (codeOf c)

/-- Move past the given character if it comes next. -/
def accept (c : Char) : Read Bool := do
  if ← sees c then
    skip 1
    return true
  else
    return false

def seesText (s : String) : Read Bool := do
  return (s.toList.map codeOf).isPrefixOf (← get).rest

/-- Digits to a count, the largest one where they overflow. -/
def countOf (ds : List Nat) : Nat := min largestCount (ds.foldl (fun n d => 10 * n + (d - 48)) 0)

/-- The bounds of a braced count at the head of the codes, and the codes behind it. -/
def bracedCount? (cs : List Nat) : Option (Nat × Option Nat × List Nat) :=
  match cs with
  | [] => none
  | c :: cs =>
    if c ≠ codeOf '\x7b' then none
    else
      let (low, rest) := cs.span isDigitCode
      if low = [] then none
      else
        match rest with
        | [] => none
        | d :: rest =>
          if d = codeOf '\x7d' then some (countOf low, some (countOf low), rest)
          else if d ≠ codeOf ',' then none
          else
            let (high, rest) := rest.span isDigitCode
            match rest with
            | [] => none
            | d :: rest =>
              if d ≠ codeOf '\x7d' then none
              else if high = [] then some (countOf low, none, rest)
              else some (countOf low, some (countOf high), rest)

/-- A quantifier, if one comes next: its bounds and whether it prefers more. -/
def readQuantifier : Read (Option (Nat × Option Nat × Bool)) := do
  let bounds : Option (Nat × Option Nat × List Nat) :=
    match (← get).rest with
    | [] => none
    | c :: rest =>
      if c = codeOf '*' then some (0, none, rest)
      else if c = codeOf '+' then some (1, none, rest)
      else if c = codeOf '?' then some (0, some 1, rest)
      else bracedCount? (c :: rest)
  match bounds with
  | none => return none
  | some (low, high, rest) =>
    if (high.map fun h => decide (h < low)) = some true then refuse
    else
      modify fun r => { r with rest }
      let lazy ← accept '?'
      return some (low, high, !lazy)

/-- Exactly `n` hexadecimal digits at the head of the codes. -/
def hexDigits? : Nat → List Nat → Option (Nat × List Nat)
  | 0, cs => some (0, cs)
  | n + 1, cs =>
    match cs with
    | [] => none
    | c :: cs => do
      let d ← hexValue? c
      let (v, rest) ← hexDigits? n cs
      return (d * Nat.pow 16 n + v, rest)

/-- Hexadecimal digits between braces, at most the last code point. -/
def bracedHex? (cs : List Nat) : Option (Nat × List Nat) :=
  match cs with
  | [] => none
  | c :: cs =>
    if c ≠ codeOf '\x7b' then none
    else
      let (ds, rest) := cs.span fun d => (hexValue? d).isSome
      let value := ds.foldl (fun n d => 16 * n + (hexValue? d).getD 0) 0
      match rest with
      | [] => none
      | d :: rest =>
        if d = codeOf '\x7d' ∧ ds ≠ [] ∧ value ≤ 0x10FFFF then some (value, rest) else none

/-- The codes behind `\u`: four digits, in unicode patterns also a pair of such escapes or digits
between braces. -/
def unicodeEscape? (unicode : Bool) (cs : List Nat) : Option (Nat × List Nat) :=
  match hexDigits? 4 cs with
  | some (high, rest) =>
    if unicode ∧ Text.isHighUnit high then
      match rest with
      | a :: b :: more =>
        if a = codeOf '\\' ∧ b = codeOf 'u' then
          match hexDigits? 4 more with
          | some (low, behind) =>
            if Text.isLowUnit low then some (Text.pairCode high low, behind) else some (high, rest)
          | none => some (high, rest)
        else some (high, rest)
      | _ => some (high, rest)
    else some (high, rest)
  | none => if unicode then bracedHex? cs else none

/-- The value of up to three octal digits that stays below 256, and the codes behind them. -/
def octalEscape (cs : List Nat) : Nat × List Nat :=
  let isOctal (n : Nat) : Bool := 48 ≤ n && n ≤ 55
  match cs with
  | a :: b :: c :: rest =>
    if isOctal b then
      let two := (a - 48) * 8 + (b - 48)
      if isOctal c && two < 32 then (two * 8 + (c - 48), rest) else (two, c :: rest)
    else (a - 48, b :: c :: rest)
  | [a, b] => if isOctal b then ((a - 48) * 8 + (b - 48), []) else (a - 48, [b])
  | [a] => (a - 48, [])
  | [] => (0, [])

/-- The character of an escape, behind the backslash. -/
def readCharEscape (g : Grammar) (inClass : Bool) : Read Nat := do
  let rest := (← get).rest
  let go (value : Nat) (rest : List Nat) : Read Nat := do
    modify fun r => { r with rest }
    return value
  match rest with
  | [] => refuse
  | c :: rest =>
    if c = codeOf 'f' then go 12 rest
    else if c = codeOf 'n' then go 10 rest
    else if c = codeOf 'r' then go 13 rest
    else if c = codeOf 't' then go 9 rest
    else if c = codeOf 'v' then go 11 rest
    else if c = codeOf 'c' then
      match rest with
      | l :: more =>
        if isLetterCode l then go (l % 32) more
        else if g.unicode then refuse
        -- Without the unicode flag, classes take more control letters, and a lone backslash stays.
        else if inClass ∧ (isDigitCode l ∨ l = codeOf '_') then go (l % 32) more
        else go (codeOf '\\') (c :: rest)
      | [] => if g.unicode then refuse else go (codeOf '\\') (c :: rest)
    else if c = codeOf 'x' then
      match hexDigits? 2 rest with
      | some (value, more) => go value more
      | none => if g.unicode then refuse else go c rest
    else if c = codeOf 'u' then
      match unicodeEscape? g.unicode rest with
      | some (value, more) => go value more
      | none => if g.unicode then refuse else go c rest
    else if c = codeOf '0' ∧ ¬ (rest.head?.map isDigitCode = some true) then go 0 rest
    else if isDigitCode c then
      if g.unicode then refuse
      -- Legacy octal escapes begin with a digit below eight.
      else if c < 56 then
        let (value, more) := octalEscape (c :: rest)
        go value more
      else go c rest
    else if g.unicode then
      if isMarkCode c ∨ (inClass ∧ c = codeOf '-') then go c rest else refuse
    else if c = codeOf 'k' ∧ g.named then refuse
    else go c rest

/-- The characters of a property between braces: the name, and the value behind an equals sign. -/
def readProperty : Read CharProperty := do
  let rest := (← get).rest
  match rest with
  | [] => refuse
  | c :: rest =>
    if c ≠ codeOf '\x7b' then refuse
    else
      let (body, rest) := rest.span (· != codeOf '\x7d')
      if rest = [] then refuse
      else
        modify fun r => { r with rest := rest.drop 1 }
        let (name, value) := body.span (· != codeOf '=')
        let textOf (cs : List Nat) : String := String.ofList (cs.map Char.ofNat)
        let found := match value with
          | [] => CharProperty.ofName? (textOf name)
          | _ :: value => CharProperty.ofValue? (textOf name) (textOf value)
        match found with
        | some property => return property
        | none => refuse

/-- The class of an escape such as `\d`, if the next code names one. -/
def readClassEscape (g : Grammar) : Read (Option ClassItem) := do
  match (← get).rest with
  | [] => return none
  | c :: _ =>
    if c = codeOf 'd' then skip 1; return some (.digit false)
    else if c = codeOf 'D' then skip 1; return some (.digit true)
    else if c = codeOf 's' then skip 1; return some (.blank false)
    else if c = codeOf 'S' then skip 1; return some (.blank true)
    else if c = codeOf 'w' then skip 1; return some (.word false)
    else if c = codeOf 'W' then skip 1; return some (.word true)
    else if g.unicode ∧ (c = codeOf 'p' ∨ c = codeOf 'P') then
      skip 1
      let property ← readProperty
      return some (.property property (c == codeOf 'P'))
    else return none

/-- One member of a class: a character or a whole class. -/
def readClassAtom (g : Grammar) : Read (Nat ⊕ ClassItem) := do
  match (← get).rest with
  | [] => refuse
  | c :: _ =>
    skip 1
    if c ≠ codeOf '\\' then return .inl c
    else
      match ← readClassEscape g with
      | some item => return .inr item
      | none =>
        if ← accept 'b' then return .inl 8
        else return .inl (← readCharEscape g true)

/-- The entry of a class member. -/
def itemOf : Nat ⊕ ClassItem → ClassItem
  | .inl c => .range c c
  | .inr item => item

/-- The members of a class up to its closing bracket. -/
def readClassItems (g : Grammar) : Nat → Read (List ClassItem)
  | 0 => refuse
  | fuel + 1 => do
    if ← accept ']' then return []
    else
      let first ← readClassAtom g
      if ← sees '-' then
        skip 1
        if ← accept ']' then return [itemOf first, .range (codeOf '-') (codeOf '-')]
        else
          let second ← readClassAtom g
          match first, second with
          | .inl low, .inl high =>
            if high < low then refuse
            else return .range low high :: (← readClassItems g fuel)
          | _, _ =>
            if g.unicode then refuse
            else
              return itemOf first :: .range (codeOf '-') (codeOf '-') :: itemOf second ::
                (← readClassItems g fuel)
      else return itemOf first :: (← readClassItems g fuel)

/-- A character that may begin a group's name. -/
def startsName (n : Nat) : Bool :=
  isLetterCode n || n == codeOf '$' || n == codeOf '_' ||
    (128 ≤ n && ((CharProperty.ofName? "ID_Start").map fun p => p.holds n) == some true)

/-- A character that may go on with a group's name. -/
def continuesName (n : Nat) : Bool :=
  startsName n || isDigitCode n ||
    (128 ≤ n && ((CharProperty.ofName? "ID_Continue").map fun p => p.holds n) == some true)

/-- One character of a group's name: an escape, or a code, or a pair of units. -/
def nameChar? (cs : List Nat) : Option (Nat × List Nat) :=
  match cs with
  | [] => none
  | c :: rest =>
    if c = codeOf '\\' then
      match rest with
      | u :: rest => if u = codeOf 'u' then unicodeEscape? true rest else none
      | [] => none
    else if Text.isHighUnit c then
      match rest with
      | d :: more => if Text.isLowUnit d then some (Text.pairCode c d, more) else some (c, rest)
      | [] => some (c, rest)
    else some (c, rest)

/-- The rest of a group's name and the codes behind its closing angle. -/
def nameTail? : Nat → List Nat → Option (List Nat × List Nat)
  | 0, _ => none
  | fuel + 1, cs =>
    match cs with
    | [] => none
    | c :: rest =>
      if c = codeOf '>' then some ([], rest)
      else do
        let (n, rest) ← nameChar? (c :: rest)
        if continuesName n then
          let (name, rest) ← nameTail? fuel rest
          return (n :: name, rest)
        else none

/-- A group's name up to its closing angle. -/
def readName : Read (List Nat) := do
  let cs := (← get).rest
  let name? := do
    let (n, rest) ← nameChar? cs
    if startsName n then
      let (name, rest) ← nameTail? (cs.length + 1) rest
      some (n :: name, rest)
    else none
  match name? with
  | none => refuse
  | some (name, rest) =>
    modify fun r => { r with rest }
    return name

/-- The number of a group that digits refer to, if there are that many groups. -/
def groupReference? (g : Grammar) (cs : List Nat) : Option (Nat × List Nat) :=
  let (ds, rest) := cs.span isDigitCode
  let number := ds.foldl (fun n d => 10 * n + (d - 48)) 0
  if g.unicode ∨ number ≤ g.groups then some (number, rest) else none

/-- An escape outside classes, behind its backslash. The flag tells whether it may be repeated. -/
def readEscape (g : Grammar) : Read (Term × Bool) := do
  match (← get).rest with
  | [] => refuse
  | c :: rest =>
    if c = codeOf 'b' then skip 1; return (.wordEdge false, false)
    else if c = codeOf 'B' then skip 1; return (.wordEdge true, false)
    else if isDigitCode c ∧ c ≠ codeOf '0' then
      match groupReference? g (c :: rest) with
      | some (number, more) =>
        if g.groups < number then refuse
        else
          modify fun r => { r with rest := more }
          return (.sameAs number, true)
      | none => return (.code (← readCharEscape g false), true)
    else if c = codeOf 'k' ∧ (g.unicode ∨ g.named) then
      skip 1
      if ← accept '<' then return (.sameAsNamed (← readName), true) else refuse
    else
      match ← readClassEscape g with
      | some item => return (.oneOf false [item], true)
      | none => return (.code (← readCharEscape g false), true)

mutual

/-- Alternatives separated by bars. -/
def readChoices (g : Grammar) : Nat → Read Term
  | 0 => refuse
  | fuel + 1 => do
    let first ← readRow g fuel
    if ← accept '|' then return .orElse first (← readChoices g fuel) else return first

/-- A row of terms up to a bar, a closing parenthesis or the end. -/
def readRow (g : Grammar) : Nat → Read Term
  | 0 => refuse
  | fuel + 1 => do
    if (← peek).isNone || (← sees '|') || (← sees ')') then return .empty
    else
      let first ← readTerm g fuel
      let rest ← readRow g fuel
      return .andThen first rest

/-- One term with its quantifier. -/
def readTerm (g : Grammar) : Nat → Read Term
  | 0 => refuse
  | fuel + 1 => do
    let before := (← get).opened
    let (body, repeatable) ← readAtom g fuel
    if repeatable then
      match ← readQuantifier with
      | none => return body
      | some (least, most, greedy) =>
        return .repeated body least most greedy (before + 1) ((← get).opened - before)
    else return body

/-- One term without its quantifier, and whether it may have one. -/
def readAtom (g : Grammar) : Nat → Read (Term × Bool)
  | 0 => refuse
  | fuel + 1 => do
    match (← get).rest with
    | [] => refuse
    | c :: rest =>
      if c = codeOf '^' then skip 1; return (.lineStart, false)
      else if c = codeOf '$' then skip 1; return (.lineEnd, false)
      else if c = codeOf '.' then skip 1; return (.anyCode, true)
      else if c = codeOf '[' then
        skip 1
        let negated ← accept '^'
        return (.oneOf negated (← readClassItems g fuel), true)
      else if c = codeOf '\\' then
        skip 1
        readEscape g
      else if c = codeOf '(' then readGroup g fuel
      else if c = codeOf '*' ∨ c = codeOf '+' ∨ c = codeOf '?' then refuse
      else if c = codeOf '\x7b' then
        -- A brace that begins no quantifier stands for itself outside the unicode mode.
        if g.unicode ∨ (bracedCount? (c :: rest)).isSome then refuse
        else skip 1; return (.code c, true)
      else if c = codeOf '\x7d' ∨ c = codeOf ']' then
        if g.unicode then refuse else skip 1; return (.code c, true)
      else skip 1; return (.code c, true)

/-- A term in parentheses. -/
def readGroup (g : Grammar) : Nat → Read (Term × Bool)
  | 0 => refuse
  | fuel + 1 => do
    skip 1
    let close (body : Term) : Read Term := do
      if ← accept ')' then return body else refuse
    let open_ (named : Bool) : Read Term := do
      let number := (← get).opened + 1
      if largestGroup < number then refuse
      modify fun r => { r with opened := number }
      if named then
        let name ← readName
        if ((← get).names.lookup name).isSome then refuse
        else modify fun r => { r with names := (name, number) :: r.names }
      let body ← readChoices g fuel
      close (.group number body)
    if ← accept '?' then
      if ← accept ':' then return (← close (← readChoices g fuel), true)
      else if ← accept '=' then
        return (← close (.look true false (← readChoices g fuel)), !g.unicode)
      else if ← accept '!' then
        return (← close (.look true true (← readChoices g fuel)), !g.unicode)
      else if ← seesText "<=" then
        skip 2
        return (← close (.look false false (← readChoices g fuel)), false)
      else if ← seesText "<!" then
        skip 2
        return (← close (.look false true (← readChoices g fuel)), false)
      else if ← accept '<' then return (← open_ true, true)
      else refuse
    else return (← open_ false, true)

end

/-- A pattern with the numbers of named groups in place of their names; none if a name has no
group. -/
def resolveNames (names : List (List Nat × Nat)) : Term → Option Term
  | .sameAsNamed name => (names.lookup name).map .sameAs
  | .group number body => (resolveNames names body).map (.group number)
  | .look ahead negated body => (resolveNames names body).map (.look ahead negated)
  | .repeated body least most greedy first count =>
    (resolveNames names body).map (.repeated · least most greedy first count)
  | .andThen a b => do
    let a ← resolveNames names a
    let b ← resolveNames names b
    return .andThen a b
  | .orElse a b => do
    let a ← resolveNames names a
    let b ← resolveNames names b
    return .orElse a b
  | t => some t

/-- The codes of a text: code points or units. -/
def codesOf (unicode : Bool) (s : String) : List Nat :=
  if unicode then s.toList.map Char.toNat else Text.units s

/-- The term of a pattern text and the number of its groups, if the text is a pattern. -/
def termOf? (unicode : Bool) (source : String) : Option (Term × Nat) := do
  let codes := codesOf unicode source
  let (groups, named) := countGroups false codes
  let (term, reading) ← (readChoices ⟨unicode, groups, named⟩ (4 * codes.length + 8)).run
    { rest := codes }
  if reading.rest = [] then
    let term ← resolveNames reading.names term
    return (term, reading.opened)
  else none

end Pattern

end ShapedTree
