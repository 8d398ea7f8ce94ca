import ShapedTree.Field.Spec
import ShapedTree.Identifier
import ShapedTree.Issue
import ShapedTree.Suggestion
import ShapedTree.Value.Json

namespace ShapedTree

/-- What a kind makes of a value. A failure without findings was reported on the way. -/
abbrev KindResult := Except (List Finding) Value

/-- The limit that a number breaks. -/
def nearestBound (value : Number) (min max : Option Number) : Option Number :=
  match min, max with
  | some low, some high =>
    if value.lt low then some low else if high.lt value then some high else none
  | some low, none => if value.lt low then some low else none
  | none, some high => if high.lt value then some high else none
  | none, none => none

namespace Kind

/-- A single finding. -/
def refuse (f : Finding) : KindResult := .error [f]

def mismatch (message : String) (suggestion : Option String := none) : KindResult :=
  refuse (.mismatch message suggestion)

def violation (message : String) (suggestion : Option String := none) : KindResult :=
  refuse (.violation message suggestion)

/-- Advice for a text that spells a number. -/
def numeralHint : Value → Option String
  | .text s =>
    if Text.trim s = "" then none
    else
      match Numeral.number? s with
      | some n =>
        if n.isFinite then some s!"Use the number {n.text} instead of the string \"{s}\"." else none
      | none => none
  | _ => none

/-- A number against its limits; the value is what the field then holds. -/
def checkRange (c : Constraints) (n : Number) (value : Value) : KindResult :=
  match nearestBound n c.min c.max with
  | none => .ok value
  | some bound =>
    let side := if n.lt bound then "below the minimum" else "above the maximum"
    violation s!"the value {n.text} is {side} of {bound.text}"
      (some s!"The closest allowed value is {bound.text}.")

def checkNumber (c : Constraints) : Value → KindResult
  | .number n =>
    if n.isFinite then checkRange c n (.number n) else mismatch "the value must be a finite number"
  | raw => mismatch "the value must be a number" (numeralHint raw)

def checkInteger (c : Constraints) : Value → KindResult
  | .number n =>
    if n.isInteger then checkRange c n (.number n)
    else
      mismatch "the value must be an integer" <|
        if n.isFinite then some s!"The closest integer is {n.roundHalfUp.text}." else none
  | raw => mismatch "the value must be an integer" (numeralHint raw)

def checkBoolean : Value → KindResult
  | .bool b => .ok (.bool b)
  | .text s =>
    mismatch "the value must be a boolean" <|
      if s = "true" ∨ s = "false" then
        some s!"Use the boolean {s} instead of the string \"{s}\"."
      else none
  | _ => mismatch "the value must be a boolean"

def optionsOf (c : Constraints) : List String := c.options.getD []

def checkSelection (c : Constraints) : Value → KindResult
  | .text s =>
    if (optionsOf c).contains s then .ok (.text s)
    else
      violation s!"the value '{s}' is not valid. Valid values are: {Fault.quoteList (optionsOf c)}"
        (didYouMean s (optionsOf c))
  | _ => mismatch "the value must be a string"

/-- The first item that is no option, with advice for a text. -/
def badItem? (options : List String) : List Value → Option (Option String)
  | [] => none
  | .text s :: items =>
    if options.contains s then badItem? options items else some (didYouMean s options)
  | _ :: _ => some none

def isText (s : String) : Value → Bool
  | .text t => t == s
  | _ => false

/-- Several options: each counts once and their own order wins. -/
def checkMultiselection (c : Constraints) (raw : Value) : KindResult :=
  let options := optionsOf c
  let message := "the value must be null, one of the following values or a list of them: " ++
    Fault.quoteList options
  let picked := match raw with
    | .null => some []
    | .text s => some [.text s]
    | .list items => some items
    | _ => none
  match picked with
  | none => mismatch message
  | some items =>
    match badItem? options items with
    | some suggestion => violation message suggestion
    -- What is stored keeps the order of the options, not that of the value.
    | none => .ok (.ofTexts (options.filter fun o => items.any (isText o)))

def checkJson (raw : Value) : KindResult :=
  match raw.jsonCopy? with
  | some copy => .ok copy
  | none => mismatch "the value must be JSON-serializable"

/-- The integer that a value spells, if no other integer rounds to the same number. -/
def safeInteger? : Value → Option Int
  | .text s =>
    match Numeral.integer? s with
    | some n => if n.natAbs < Number.exactLimit then some n else none
    | none => none
  | _ => none

def checkIntegerText (c : Constraints) (raw : Value) : KindResult :=
  match safeInteger? raw with
  | some n => checkRange c (.ofInt n) (.text (Decimal.integerText n))
  | none =>
    mismatch "the value must be a string that can be parsed into an integer" <|
      match raw with
      | .number n => if n.isInteger then some s!"Use the string \"{n.text}\"." else none
      | _ => none

def counted (n : Number) (unit : String) : String :=
  n.text ++ " " ++ unit ++ if n.same 1 then "" else "s"

def characters (n : Number) : String := counted n "character"

def elements (n : Number) : String := counted n "element"

/-- A length against its limits, for texts. -/
def textLength (c : Constraints) (length : Nat) : Option Finding :=
  let n : Number := length
  let below : Option Finding := c.minLength.bind fun low =>
    if n.lt low then
      let short := characters (low - n)
      some <| .violation
        s!"the value is below the minimum length of {characters low} by {short}"
        (some s!"Add at least {short}.")
    else none
  let above : Option Finding := c.maxLength.bind fun high =>
    if high.lt n then
      let excess := characters (n - high)
      some <| .violation
        s!"the value exceeds the maximum length of {characters high} by {excess}"
        (some s!"Remove at least {excess}.")
    else none
  below.or above

/-- A length against its limits, for lists. -/
def listLength (c : Constraints) (length : Nat) : Option Finding :=
  let n : Number := length
  let below : Option Finding := c.minLength.bind fun low =>
    if n.lt low then
      some <| .violation s!"the list must have at least {elements low}"
        (some s!"Add at least {elements (low - n)}.")
    else none
  let above : Option Finding := c.maxLength.bind fun high =>
    if high.lt n then
      some <| .violation s!"the list must have at most {elements high}"
        (some s!"Remove at least {elements (n - high)}.")
    else none
  below.or above

/-- Advice for a value whose text was wanted. -/
def textHint : Value → Option String
  | .number n => some s!"Use the string \"{n.text}\"."
  | .bool true => some "Use the string \"true\"."
  | .bool false => some "Use the string \"false\"."
  | _ => none

/-- A text against its limits and its pattern; `test` tries the pattern. -/
def checkText {m : Type → Type} [Monad m] (test : Pattern → String → m Bool) (c : Constraints)
    (raw : Value) : m (Except (List Finding) String) := do
  match raw with
  | .text s =>
    match textLength c (Text.size s) with
    | some f => return .error [f]
    | none =>
      match c.pattern with
      | none => return .ok s
      | some p =>
        if ← test p s then return .ok s
        else return .error [.violation s!"the value does not match the pattern {p.text}" none]
  | _ => return .error [.mismatch "the value must be a string" (textHint raw)]

/-- A text that is also a variable name. -/
def checkIdentifier (s : String) : KindResult :=
  if isIdentifier s then .ok (.text s)
  else
    violation "the value is not a valid variable name"
      (some s!"Try '{Identifier.sanitize s}'.")

/-- A text that is also the source of a pattern. -/
def checkPattern (s : String) : KindResult :=
  if Pattern.isSource s then .ok (.text s)
  else violation "the value is not a valid regular expression"

end Kind

end ShapedTree
