import ShapedTree.Kind.Dialogue

namespace ShapedTree

/-- The check of one part of a field. -/
abbrev PartCheck (m : Type → Type) := Value → String → m (Option Value)

/-- The checks of a field's parts. The keys of a mapping may be put in the order of the integers
that they spell. -/
inductive PartChecks (m : Type → Type) where
  | none
  | list (item : PartCheck m)
  | mapping (byInteger : Bool) (key value : PartCheck m)
  | either (primitive complex : PartCheck m)

namespace PartChecks

/-- The tag of the kind whose keys are put in the order of integers. -/
def integerKeys : String := "integerstring"

/-- The checks of a specification's parts, where a check is known for any specification. -/
def ofSpec {m : Type → Type} (check : FieldSpec → PartCheck m) : FieldSpec → PartChecks m
  | .leaf _ => .none
  | .list _ item => .list (check item)
  | .mapping _ key value => .mapping (key.kind == integerKeys) (check key) (check value)
  | .either _ primitive complex => .either (check primitive) (check complex)

end PartChecks

namespace Kind

variable {m : Type → Type} [Monad m]

/-- A failure that was reported on the way. -/
def reported : KindResult := .error []

/-- A nested node as a result. -/
def ofNode : Option Node → KindResult
  | some n => .ok (.node n)
  | none => reported

def checkNode (ctx : KindContext m) (info : FieldInfo) (raw : Value) : m KindResult := do
  match info.constraints.target with
  | none => return mismatch "the field has no target schema"
  | some target => return ofNode (← ctx.node raw target info.kwargs)

def checkChoice (ctx : KindContext m) (info : FieldInfo) (raw : Value) : m KindResult := do
  match info.constraints.choice with
  | none => return mismatch "the field has no choice group"
  | some group => return ofNode (← ctx.choice raw group info.kwargs)

/-- The items of a list from an index on. A halted run goes no further; one item that fails fails
the list. -/
def checkItems (halted : m Bool) (item : PartCheck m) : Nat → List Value → m (Option (List Value))
  | _, [] => return some []
  | index, raw :: rest => do
    let first ← item raw s!"[{index}]"
    if ← halted then return first.map fun v => [v]
    else
      let others ← checkItems halted item (index + 1) rest
      match first, others with
      | some v, some vs => return some (v :: vs)
      | _, _ => return none

def checkList (ctx : KindContext m) (parts : PartChecks m) (c : Constraints) (raw : Value) :
    m KindResult := do
  match raw.items? with
  | some items =>
    match listLength c items.length with
    | some f => return refuse f
    | none =>
      match parts with
      | .list item =>
        match ← checkItems ctx.halted item 0 items with
        | some vs => return .ok (.list vs)
        | none => return reported
      | _ => return mismatch "the list has no item type"
  | none => return mismatch "the value must be a list"

/-- The numeric order of keys, in which a key that spells no number is like any other. -/
def numericLE (a b : String) : Bool :=
  match Numeral.number? a, Numeral.number? b with
  | some x, some y => !y.lt x
  | _, _ => true

/-- The entries of a mapping in the order of their keys. -/
def sortMapping (byInteger : Bool) (es : Entries Value) : Entries Value :=
  Record.ofList <|
    if byInteger then es.mergeSort fun a b => numericLE a.1 b.1
    else es.mergeSort fun a b => Text.unitsLE a.1 b.1

/-- The entries of a mapping, with those before them under their normalized keys. Keys that are
equal once normalized fail at once; another failure does not hide the issues of later entries. -/
def checkEntries (halted : m Bool) (byInteger : Bool) (key value : PartCheck m) :
    (failed : Bool) → Entries Value → List (String × Value) → m KindResult
  | failed, done, [] =>
    return if failed then reported else .ok (.record (sortMapping byInteger done) true)
  | failed, done, (rawKey, rawValue) :: rest => do
    let label := "[" ++ Text.quote rawKey ++ "]"
    let k ← key (.text rawKey) label
    let v ← value rawValue label
    let finish (failed : Bool) (done : Entries Value) : m KindResult := do
      if ← halted then
        return if failed then reported else .ok (.record (sortMapping byInteger done) true)
      else checkEntries halted byInteger key value failed done rest
    match k, v with
    | some (.text k), some v =>
      if Entries.has done k then
        return violation s!"after normalizing, the key '{k}' occurs more than once"
      else finish failed (Record.insert done k v)
    | _, _ => finish true done

def checkMapping (ctx : KindContext m) (parts : PartChecks m) (raw : Value) : m KindResult := do
  match raw.entries? with
  | none => return mismatch "the value must be an object"
  | some es =>
    match parts with
    | .mapping byInteger key value => checkEntries ctx.halted byInteger key value false [] es
    | _ => return mismatch "the mapping has no key or value type"

def checkEither (parts : PartChecks m) (raw : Value) : m KindResult := do
  match parts with
  | .either primitive complex =>
    match ← (if raw.isPrimitive then primitive else complex) raw "" with
    | some v => return .ok v
    | none => return reported
  | _ => return mismatch "the field has no primitive or complex variant"

end Kind

namespace CustomKind

/-- A value is checked twice against a part, which is used afresh; the result lists both values. -/
def twice (part : FieldSpec) (first second : String) : CustomKind := fun raw _ _ _ =>
  .afresh part (.value part raw first fun a => .value part raw second fun b =>
    .answer (match a, b with
      | some a, some b => .ok (.list [a, b])
      | _, _ => Kind.reported))

end CustomKind

end ShapedTree
