import ShapedTree.Value.Json

namespace ShapedTree

namespace Value

/-- The number of entries from which on a record is only counted. -/
def previewFields : Nat := 10

/-- The number of items of a list that show. -/
def previewItems : Nat := 3

/-- The number of units of a text that show. -/
def previewUnits : Nat := 100

/-- The number of levels below the top that show. -/
def previewDepth : Nat := 2

/-- What stands for a value below the last level. -/
def beyond : String := "\"...\""

/-- A text between quotes, cut short if it is long. -/
def shortText (s : String) : String :=
  if Text.size s ≤ previewUnits then Text.quote s
  else Text.quoteShortened s (previewUnits - 3) "..."

/-- A record that holds itself, down to a level. -/
def knotText : Nat → String
  | 0 => recordText [("self", beyond)]
  | depth + 1 => recordText [("self", knotText depth)]

/-- What a node shows of itself: its schema and discriminator, and marks without their contents. -/
def nodeText (depth : Nat) (schema : String) (choiceType : Option String) : String :=
  let hidden := recordText []
  match depth with
  | 0 => recordText [("schema", beyond), ("defaulted", beyond), ("choiceType", beyond),
      ("values", beyond), ("compactable", beyond)]
  | _ + 1 => recordText ([("schema", shortText schema), ("defaulted", hidden)] ++
      (choiceType.map fun t => ("choiceType", shortText t)).toList ++
      [("values", hidden), ("compactable", hidden)])

/-- What stands for the entries of a large record. -/
def countText (n : Nat) : String := s!"\"[an object with {n} fields]\""

mutual

/-- The preview of a value above `depth` more levels. The outer option is empty where a big integer
would show, the inner one where nothing shows. -/
def shorten : (depth : Nat) → Value → Option (Option String)
  | _, .undefined | _, .hole => some none
  | _, .null => some (some "null")
  | _, .bool b => some (some (if b then "true" else "false"))
  | _, .number n => some (some (if n.isFinite then n.text else "null"))
  | _, .text s => some (some (shortText s))
  | _, .bigint _ => none
  | _, .exotic _ => some (some (recordText []))
  | depth, .knot => some (some (knotText depth))
  | depth, .list items => do
    let shown ← shortenItems depth previewItems items
    let more := if previewItems < items.length then
      [s!"\"[{items.length - previewItems} more]\""] else []
    return some (listText (shown ++ more))
  | depth, .record es _ =>
    if previewFields < es.length then some (some (countText es.length))
    else do return some (recordText (← shortenEntries depth es))
  | depth, .node ⟨schema, _, _, choiceType, _⟩ => some (some (nodeText depth schema choiceType))
termination_by structural _ v => v

/-- The previews of the first items of a list. A missing item shows as null at every depth. -/
def shortenItems : (depth count : Nat) → List Value → Option (List String)
  | _, 0, _ | _, _, [] => some []
  | 0, count + 1, v :: vs => do
    return (if v.isHole then "null" else beyond) :: (← shortenItems 0 count vs)
  | depth + 1, count + 1, v :: vs => do
    let shown ← shorten depth v
    return shown.getD "null" :: (← shortenItems (depth + 1) count vs)
termination_by structural _ _ vs => vs

/-- The previews of the entries of a record. -/
def shortenEntries : (depth : Nat) → List (String × Value) → Option (List (String × String))
  | _, [] => some []
  | 0, (k, _) :: es => do return (k, beyond) :: (← shortenEntries 0 es)
  | depth + 1, (k, v) :: es => do
    let shown ← shorten depth v
    let rest ← shortenEntries (depth + 1) es
    match shown with
    | some seen => return (k, seen) :: rest
    | none => return rest
termination_by structural _ es => es

end

mutual

/-- The plain text of a value: items of a list separated by commas, a fixed text for objects. An
object without inherited names has none, nor has one whose own key takes the place of the
conversion. -/
def plainText : Value → Except Fault String
  | .undefined | .hole => .ok "undefined"
  | .null => .ok "null"
  | .bool b => .ok (if b then "true" else "false")
  | .number n => .ok n.text
  | .text s => .ok s
  | .bigint n => .ok (Decimal.integerText n)
  | .exotic .set => .ok "[object Set]"
  | .exotic .map => .ok "[object Map]"
  | .exotic .keyless | .knot | .node _ => .ok "[object Object]"
  | .list items => do return ",".intercalate (← plainItems items)
  | .record es plain =>
    if plain && !Entries.has es "toString" then .ok "[object Object]" else .error .unwritable
termination_by structural v => v

/-- The plain texts of the items of a list, nothing for null, undefined and missing ones. -/
def plainItems : List Value → Except Fault (List String)
  | [] => .ok []
  | v :: vs => do
    let text ← if v.isNull || v.isUndefined then .ok "" else plainText v
    return text :: (← plainItems vs)
termination_by structural vs => vs

end

/-- The preview of a value. -/
def preview (v : Value) : Except Fault String :=
  match shorten previewDepth v with
  | none => plainText v
  | some shown =>
    match v with
    | .number n => .ok n.text
    | _ => .ok (shown.getD "undefined")

end Value

end ShapedTree
