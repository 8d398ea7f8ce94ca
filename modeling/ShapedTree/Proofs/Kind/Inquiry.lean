import ShapedTree.Kind.Catalog

namespace ShapedTree

def Validation.entryLabel (key : String) : String := "[" ++ Text.quote key ++ "]"

namespace Kind

/-- The items of a list as a result. -/
def ofItems : Option (List Value) → KindResult
  | some vs => .ok (.list vs)
  | none => reported

/-- The value of a form as a result. -/
def ofForm : Option Value → KindResult
  | some v => .ok v
  | none => reported

/-- What a kind with parts asks for before it answers. -/
inductive Inquiry where
  | nothing (result : KindResult)
  | node (target : String)
  | choice (group : String)
  | items (vs : List Value)
  | entries (es : Entries Value)
  | form

/-- The result of an inquiry about a value, where the checks of its parts are given. -/
def Inquiry.result {m : Type → Type} [Monad m] (ctx : KindContext m) (parts : PartChecks m)
    (info : FieldInfo) (raw : Value) : Inquiry → m KindResult
  | nothing result => return result
  | node target => do return ofNode (← ctx.node raw target info.kwargs)
  | choice group => do return ofNode (← ctx.choice raw group info.kwargs)
  | items vs =>
    match parts with
    | .list item => do return ofItems (← checkItems ctx.halted item 0 vs)
    | _ => return mismatch "the list has no item type"
  | entries es =>
    match parts with
    | .mapping byInteger key value => checkEntries ctx.halted byInteger key value false [] es
    | _ => return mismatch "the mapping has no key or value type"
  | form =>
    match parts with
    | .either primitive complex => do
      return ofForm (← (if raw.isPrimitive then primitive else complex) raw "")
    | _ => return mismatch "the field has no primitive or complex variant"

/-- What kinds with parts say to values of another shape, and to specifications that lack what the
kind needs. -/
def objections : List String := [
  "the field has no target schema", "the field has no choice group", "the value must be a list",
  "the value must be an object"]

/-- What a kind with parts asks for, going by the value and by the constraints of its field. -/
inductive Asks (info : FieldInfo) (raw : Value) : BuiltinKind → Inquiry → Prop
  | mismatch {k : BuiltinKind} (message : String) (known : message ∈ objections) :
      Asks info raw k (.nothing (Kind.mismatch message))
  | length {vs : List Value} {f : Finding} (shape : raw.items? = some vs)
      (broken : listLength info.constraints vs.length = some f) :
      Asks info raw .list (.nothing (refuse f))
  | node {target : String} (named : info.constraints.target = some target) :
      Asks info raw .node (.node target)
  | choice {group : String} (named : info.constraints.choice = some group) :
      Asks info raw .choice (.choice group)
  | items {vs : List Value} (shape : raw.items? = some vs)
      (fits : listLength info.constraints vs.length = none) : Asks info raw .list (.items vs)
  | entries {es : Entries Value} (shape : raw.entries? = some es) :
      Asks info raw .mapping (.entries es)
  | form : Asks info raw .either .form

/-- The entry that the checks of its key and of its value come to. -/
def settled : Option Value → Option Value → Option (String × Value)
  | some (.text k), some v => some (k, v)
  | _, _ => none

theorem settled_eq_some {k v : Option Value} {f : String × Value} :
    settled k v = some f ↔ k = some (.text f.1) ∧ v = some f.2 := by
  unfold settled
  split
  next key value => simp [Prod.ext_iff]
  next other =>
    refine ⟨nofun, ?_⟩
    rintro ⟨rfl, rfl⟩
    exact (other _ _ rfl rfl).elim

section entries

variable {m : Type → Type} [Monad m]

/-- The check of a mapping's other entries once one is done. -/
def checkRest (halted : m Bool) (byInteger : Bool) (key value : PartCheck m) (failed : Bool)
    (done : Entries Value) (rest : List (String × Value)) : m KindResult := do
  if ← halted then
    return if failed then reported else .ok (.record (sortMapping byInteger done) true)
  else checkEntries halted byInteger key value failed done rest

/-- The first entry of a mapping is checked and settled, and then the others are checked, unless its
key is there already. -/
theorem checkEntries_cons {byInteger : Bool} {key value : PartCheck m} (halted : m Bool)
    (failed : Bool) (done : Entries Value) (e : String × Value) (rest : List (String × Value)) :
    checkEntries halted byInteger key value failed done (e :: rest) = (do
      let k ← key (.text e.1) (Validation.entryLabel e.1)
      let v ← value e.2 (Validation.entryLabel e.1)
      match settled k v with
      | some f =>
        if Entries.has done f.1 then
          return violation s!"after normalizing, the key '{f.1}' occurs more than once"
        else checkRest halted byInteger key value failed (Record.insert done f.1 f.2) rest
      | none => checkRest halted byInteger key value true done rest) := by
  obtain ⟨rawKey, rawValue⟩ := e
  simp only [checkEntries, Validation.entryLabel]
  refine bind_congr fun k => bind_congr fun v => ?_
  split
  next => rfl
  next other =>
    have none : settled k v = none := by
      unfold settled
      split
      next k v => exact (other k v rfl rfl).elim
      next => rfl
    rw [none]
    rfl

end entries

end Kind

open Kind

/-- The check of a kind with parts is the result of what it asks for, whoever answers. -/
theorem BuiltinKind.check_asks {k : BuiltinKind} (nested : k.isNested = true) (info : FieldInfo)
    (raw : Value) : ∃ q, Asks info raw k q ∧
      ∀ {m : Type → Type} [Monad m] (ctx : KindContext m) (parts : PartChecks m),
        k.check ctx parts info raw = q.result ctx parts info raw := by
  cases k with
  | node =>
    cases named : info.constraints.target with
    | none =>
      refine ⟨_, .mismatch "the field has no target schema" (by decide), fun ctx parts => ?_⟩
      simp only [check, checkNode, named, Inquiry.result]
    | some target =>
      refine ⟨_, .node named, fun ctx parts => ?_⟩
      simp only [check, checkNode, named, Inquiry.result]
  | choice =>
    cases named : info.constraints.choice with
    | none =>
      refine ⟨_, .mismatch "the field has no choice group" (by decide), fun ctx parts => ?_⟩
      simp only [check, checkChoice, named, Inquiry.result]
    | some group =>
      refine ⟨_, .choice named, fun ctx parts => ?_⟩
      simp only [check, checkChoice, named, Inquiry.result]
  | list =>
    cases shape : raw.items? with
    | none =>
      refine ⟨_, .mismatch "the value must be a list" (by decide), fun ctx parts => ?_⟩
      simp only [check, checkList, shape, Inquiry.result]
    | some vs =>
      cases fits : listLength info.constraints vs.length with
      | some f =>
        refine ⟨_, .length shape fits, fun ctx parts => ?_⟩
        simp only [check, checkList, shape, fits, Inquiry.result]
      | none =>
        refine ⟨_, .items shape fits, fun ctx parts => ?_⟩
        simp only [check, checkList, shape, fits, Inquiry.result]
        -- Whether the parts are those of a list is settled by the result of the inquiry.
        cases parts with
        | list item => exact bind_congr fun answer => by cases answer <;> rfl
        | _ => rfl
  | mapping =>
    cases shape : raw.entries? with
    | none =>
      refine ⟨_, .mismatch "the value must be an object" (by decide), fun ctx parts => ?_⟩
      simp only [check, checkMapping, shape, Inquiry.result]
    | some es =>
      refine ⟨_, .entries shape, fun ctx parts => ?_⟩
      cases parts <;> simp only [check, checkMapping, shape, Inquiry.result]
  | either =>
    refine ⟨_, .form, fun ctx parts => ?_⟩
    cases parts with
    | either primitive complex => exact bind_congr fun answer => by cases answer <;> rfl
    | _ => rfl
  | _ => cases nested

end ShapedTree
