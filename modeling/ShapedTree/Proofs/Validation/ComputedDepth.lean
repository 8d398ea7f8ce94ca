import ShapedTree.Ancestors
import ShapedTree.Proofs.Number.SafeInteger
import ShapedTree.Proofs.Validation.DraftInvariants
import ShapedTree.Proofs.Validation.Levels

namespace ShapedTree

open Run ShapedTree.Computation

/-- An integer field that counts from the parent's field of the same name, free of bounds and of an
extra check. -/
structure FieldSpec.CountsFrom (field : String) (root : Int) (spec : FieldSpec) : Prop where
  name : spec.name = field
  kind : spec.kind = BuiltinKind.integer.tag
  default : spec.info.default? = some (.computed (Generator.depthFrom field (.ofInt root)))
  min : spec.info.constraints.min = none
  max : spec.info.constraints.max = none
  validator : spec.info.constraints.validator = none

/-- The first field of a schema counts. -/
def Schema.CountsFrom (field : String) (root : Int) (s : Schema) : Prop :=
  ∃ spec rest, s.fields = spec :: rest ∧ spec.CountsFrom field root

namespace Validation

/-- A raw value holds the field if it is read as a record. -/
def supplies (field : String) (raw : Value) : Bool :=
  (raw.entries?.bind fun record => readKey record field).isSome

/-- A check of nodes that breaks off at a record that supplies the field. It meets a record where the
run has not stopped, the schema is found and the level is admitted. -/
def barring (rules : Rules) (field : String) (node : NodeRun) : NodeRun := fun raw name place => do
  let stopped ← Run.halted rules
  if !stopped && rules.registry.has name && !rules.maxDepth.lt place.depth && supplies field raw then
    throw .overflow
  else node raw name place

/-- The check of nodes at so many levels, broken off at the first record that supplies the field. -/
def checkNodeBarring (rules : Rules) (field : String) : (levels : Nat) → NodeRun
  | 0 => fun _ _ _ => throw .overflow
  | levels + 1 => barring rules field
    (checkNodeWith rules (checkValue rules (checkNodeBarring rules field levels) questionLimit))

end Validation

/-- No record that a validation meets supplies the field: to break off at one changes nothing. -/
def ValidateOptions.Withholds (o : ValidateOptions) (r : Registry) (field : String)
    (memory : Memory) (raw : Value) (schema : String) : Prop :=
  Validation.checkNodeBarring (o.rules r) field (Validation.levels o.maxDepth) raw schema
    ⟨[], o.stack, o.kwargs, 1⟩ { memory } = o.run r raw schema { memory }

/-- The field holds `x` at the top of a tree, and one more on each level below; all are defaults. -/
def NodeOf.CountsUp (field : String) (x : Int) (n : Node) : Prop :=
  ∀ k c, n.AtLevel k c →
    c.get? field = some (.number (.ofInt (x + k))) ∧ c.isDefaulted field = true

theorem NodeOf.CountsUp.intro {field : String} {x : Int} {n : Node}
    (own : n.get? field = some (.number (.ofInt x))) (mark : n.isDefaulted field = true)
    (held : ∀ e ∈ n.values, e.2.BearsOnly (NodeOf.CountsUp field (x + 1))) :
    n.CountsUp field x := by
  rintro k c (_ | ⟨mem, bears, level⟩)
  · rw [Nat.cast_zero, add_zero]
    exact ⟨own, mark⟩
  · have counted := held _ mem _ bears _ c level
    rwa [add_assoc, add_comm 1, ← Nat.cast_succ] at counted

/-- Below these ancestors, the field is computed as `x`. -/
def Generator.Counts (field : String) (root : Int) (stack : List NodeView) (x : Int) : Prop :=
  ∀ args : GeneratorArgs, args.stack = stack →
    depthFrom field (.ofInt root) args = .ok (.number (.ofInt x))

namespace Generator.Counts

variable {field : String} {root x : Int}

theorem top : Counts field root [] root := by
  intro args empty
  simp [depthFrom, parentOf, empty]

theorem next {stack : List NodeView} {view : NodeView}
    (held : view.get? field = some (.number (.ofInt x)))
    (small : (x + 1).natAbs ≤ Number.exactLimit) :
    Counts field root (stack ++ [view]) (x + 1) := by
  intro args below
  have sum : Number.ofInt x + 1 = .ofInt (x + 1) := Number.ofInt_add (n := 1) small
  simp [depthFrom, parentOf, below, held, sum]

end Generator.Counts

namespace Validation

variable {rules : Rules} {field : String} {root x : Int} {node : NodeRun} {other value : ValueRun}
  {schema : Schema} {record : Entries Value} {place : Place}

/-- An integer is accepted as itself where there are no bounds. -/
theorem checkSpec_counts {spec : FieldSpec} (counts : spec.CountsFrom field root)
    (builtin : spec.Builtin rules.registry.kinds) {s : RunState}
    (going : ¬ s.Stopped rules.errors) :
    checkSpec rules node other spec (.number (.ofInt x)) place s =
      (.ok (some (.number (.ofInt x))), s) := by
  obtain ⟨k, known⟩ := builtin
  obtain rfl : k = .integer := BuiltinKind.tag_injective (known.1.symm.trans counts.kind)
  have whole : (Number.ofInt x).isInteger = true := by
    simp [Number.ofInt, Number.isInteger]
  have verdict : Kind.checkInteger spec.info.constraints (.number (.ofInt x)) =
      .ok (.number (.ofInt x)) := by
    simp [Kind.checkInteger, whole, Kind.checkRange, nearestBound, counts.min, counts.max]
  rw [checkSpec_eq]
  unfold checkWith
  rw [bind_of_ok (halted_of_going going)]
  simp only [Value.isNull, Value.isUndefined, Bool.false_and, Bool.false_eq_true, if_false,
    known.check_eq, BuiltinKind.check, verdict, pure_bind, checkAccepted, counts.validator]
  rfl

/-- The checks of nodes number the trees that they answer, where the ancestors have the number for
it. -/
def NodesCount (field : String) (root : Int) (node : NodeRun) : Prop :=
  ∀ raw name place x, x + 1 = root + place.depth → Generator.Counts field root place.stack x →
    Grants (node raw name place) (Permits (NodeOf.CountsUp field x))

/-- The first field of a schema has nothing to start from, unless the record supplies it. -/
theorem firstPass_computed {spec : FieldSpec} {generate : Generator}
    (left : readKey record spec.name = none)
    (default : spec.info.default? = some (.computed generate)) (draft : Draft)
    (rest : List FieldSpec) :
    firstPass rules value schema record place draft (spec :: rest) = do
      let (slots, draft) ← firstPass rules value schema record place draft rest
      return ({ spec } :: slots, draft) := by
  have nothing : start schema record spec = pure none := by
    simp [start, left, default, produce]
  funext s
  simp only [firstPass, nothing, pure_bind]
  rw [bind_apply, halted_apply]
  cases rules.errors == .failFast && !s.issues.isEmpty <;> rfl

/-- A draft that holds no node yet. -/
def Bare (d : Draft) : Prop := ∀ e ∈ d.values, ∀ n, ¬ e.2.Bears n

theorem resolve_bare {spec : FieldSpec} (builtin : spec.Builtin rules.registry.kinds) {raw : Value}
    (ready : (!raw.isNull && rules.registry.kinds.isNested spec.kind) = false) {draft : Draft}
    (bare : Bare draft) (mark : Bool) :
    Grants (resolve (checkSpec rules node other) place draft spec raw mark) Bare := by
  refine (checkSpec_bare builtin ready _).bind fun answer taken => ?_
  cases answer with
  | none => exact .pure bare
  | some v =>
    refine .pure fun e he => ?_
    rcases Entries.mem_of_mem_put he with rfl | old
    · exact taken v rfl
    · exact bare e old

/-- The first pass opens a slot for the number and meets no node. -/
theorem firstPass_opens {spec : FieldSpec} (counts : spec.CountsFrom field root)
    (left : readKey record field = none) {rest : List FieldSpec}
    (declared : ∀ spec ∈ rest, spec ∈ schema.fields)
    (builtin : ∀ spec ∈ rest, spec.Every (FieldSpec.Builtin rules.registry.kinds)) {draft : Draft}
    (bare : Bare draft) :
    Grants (firstPass rules (checkSpec rules node other) schema record place draft (spec :: rest))
      fun r => ∃ slots, r.1 = { spec } :: slots ∧ slots.map Slot.spec = rest ∧
        (∀ slot ∈ slots, slot.FedBy schema record) ∧ Bare r.2 := by
  rw [firstPass_computed (by rwa [counts.name]) counts.default]
  have others : Grants
      (firstPass rules (checkSpec rules node other) schema record place draft rest) fun r =>
        (∀ slot ∈ r.1, slot.FedBy schema record) ∧ Bare r.2 :=
    firstPass_invariant rest declared
      (fun spec hspec raw _ ready draft mark h =>
        resolve_bare (builtin spec hspec).self ready h mark) bare
  refine (others.and_returns (firstPass_returns rest draft)).bind ?_
  rintro ⟨slots, last⟩ ⟨⟨fed, bare⟩, specs⟩
  exact .pure ⟨slots, rfl, specs, fed, bare⟩

/-- A draft that holds the number of its level, and nodes that count on from it. -/
structure Numbered (field : String) (x : Int) (d : Draft) : Prop where
  own : d.get? field = some (.number (.ofInt x))
  mark : d.isDefaulted field = true
  held : ∀ e ∈ d.values, e.2.BearsOnly (NodeOf.CountsUp field (x + 1))

theorem Numbered.set {d : Draft} (numbered : Numbered field x d) {name : String}
    (apart : name ≠ field) {v : Value} (held : v.BearsOnly (NodeOf.CountsUp field (x + 1)))
    (mark : Bool) : Numbered field x (d.set name v mark) := by
  refine ⟨?_, ?_, fun e he => ?_⟩
  · rw [Draft.get?_set, if_neg apart.symm, numbered.own]
  · rw [Draft.isDefaulted_set, if_neg apart.symm, numbered.mark]
  · rcases Entries.mem_of_mem_put he with rfl | old
    · exact held
    · exact numbered.held e old

theorem Bare.numbered {d : Draft} (bare : Bare d) :
    Numbered field x (d.set field (.number (.ofInt x)) true) := by
  refine ⟨?_, ?_, fun e he => ?_⟩
  · rw [Draft.get?_set, if_pos rfl]
  · rw [Draft.isDefaulted_set, if_pos rfl]
  · rcases Entries.mem_of_mem_put he with rfl | old
    · exact .of_bare nofun
    · exact .of_bare (bare e old)

/-- Another field of a numbered draft holds nodes that count on from its number. -/
theorem resolve_numbered (nodes : NodesCount field root node) (level : x + 1 = root + place.depth)
    (small : (x + 1).natAbs ≤ Number.exactLimit) {spec : FieldSpec}
    (builtin : spec.Every (FieldSpec.Builtin rules.registry.kinds)) (apart : spec.name ≠ field)
    (raw : Value) {draft : Draft} (numbered : Numbered field x draft) (mark : Bool) :
    Grants (resolve (checkSpec rules node other) place draft spec raw mark)
      (Numbered field x) := by
  have held : ∀ raw name (p : Place), p.stack = place.stack ++ [draft.view] →
      p.depth = place.depth + 1 →
      Grants (node raw name p) (Permits (NodeOf.CountsUp field (x + 1))) := by
    intro raw name p ancestors below
    refine nodes raw name p (x + 1) ?_ (ancestors ▸ Generator.Counts.next numbered.own small)
    rw [below, level, Nat.cast_add_one, add_assoc]
  let inner : Place :=
    { place.field draft.schema spec.name with stack := place.stack ++ [draft.view] }
  refine (checkSpec_bears held builtin raw inner rfl rfl).bind fun answer taken => ?_
  cases answer with
  | none => exact .pure numbered
  | some v => exact .pure (numbered.set apart (taken v rfl) mark)

/-- The second pass computes the number before it meets a node. -/
theorem secondPass_numbers (nodes : NodesCount field root node)
    (level : x + 1 = root + place.depth) (small : (x + 1).natAbs ≤ Number.exactLimit)
    (known : Generator.Counts field root place.stack x) {spec : FieldSpec}
    (counts : spec.CountsFrom field root) {slots : List Slot}
    (fed : ∀ slot ∈ slots, slot.FedBy schema record)
    (builtin : ∀ slot ∈ { spec } :: slots, slot.spec.Every (FieldSpec.Builtin rules.registry.kinds))
    (apart : ∀ slot ∈ slots, slot.spec.name ≠ field) {draft : Draft} (bare : Bare draft) :
    Flags rules (secondPass rules (checkSpec rules node other) place [] draft ({ spec } :: slots))
      (Numbered field x) := by
  obtain ⟨own, others⟩ := List.forall_mem_cons.mp builtin
  intro s d t run
  by_cases stopped : s.Stopped rules.errors
  · rw [secondPass_of_stopped stopped] at run
    cases run
    exact ⟨.refl _, .inr (.inr stopped)⟩
  · unfold secondPass at run
    rw [bind_of_ok (halted_of_going stopped)] at run
    simp only [Bool.false_eq_true, if_false, counts.default] at run
    have made : ∀ args : GeneratorArgs, args.stack = place.stack →
        (liftM (Generator.depthFrom field (.ofInt root) args) : Run Value) s =
          (.ok (.number (.ofInt x)), s) := by
      intro args below
      rw [known args below]
      rfl
    rw [bind_of_ok (made _ rfl)] at run
    have set : resolve (checkSpec rules node other) place draft spec (.number (.ofInt x)) true s =
        (.ok (draft.set field (.number (.ofInt x)) true), s) := by
      unfold resolve
      rw [bind_of_ok (checkSpec_counts counts own.self stopped), counts.name]
      rfl
    rw [bind_of_ok set] at run
    have rest : Grants (secondPass rules (checkSpec rules node other) place [spec.name]
        (draft.set field (.number (.ofInt x)) true) slots) (Numbered field x) :=
      secondPass_invariant slots fed (fun slot hslot raw _ draft mark h =>
        resolve_numbered nodes level small (others slot hslot) (apart slot hslot) raw h mark) _
        bare.numbered
    exact (rest s d t run).imp_right .inl

/-- A node has the number of its level if the record leaves the field out. -/
theorem checkFields_numbers (nodes : NodesCount field root node)
    (level : x + 1 = root + place.depth) (small : (x + 1).natAbs ≤ Number.exactLimit)
    (known : Generator.Counts field root place.stack x) (counts : schema.CountsFrom field root)
    (distinct : schema.fieldNames.Nodup)
    (builtin : ∀ spec ∈ schema.fields, spec.Every (FieldSpec.Builtin rules.registry.kinds))
    (left : readKey record field = none) :
    Grants (checkFields rules (checkSpec rules node other) schema record place)
      (Permits (NodeOf.CountsUp field x)) := by
  obtain ⟨spec, rest, fields, counts⟩ := counts
  have names : schema.fieldNames = field :: rest.map FieldSpec.name := by
    rw [Schema.fieldNames, fields, List.map_cons, counts.name]
  obtain ⟨apart, -⟩ := List.nodup_cons.mp (names ▸ distinct)
  rw [fields] at builtin
  obtain ⟨own, others⟩ := List.forall_mem_cons.mp builtin
  -- The field is declared first, so that it is computed before any node below is checked.
  have filled : Flags rules (fill rules (checkSpec rules node other) schema record place)
      (Numbered field x) := by
    refine .after (.of_ensures checkType_ensures) fun _ _ => ?_
    refine .after (.of_ensures (checkKeys_ensures record)) fun _ _ => ?_
    rw [fields]
    refine .after (firstPass_opens counts left
      (fun spec hspec => fields ▸ List.mem_cons_of_mem _ hspec) others
      (List.forall_mem_nil _)) ?_
    rintro ⟨_, draft⟩ ⟨slots, rfl, specs, fed, bare⟩
    have hslots : ∀ slot ∈ slots, slot.spec ∈ rest := fun slot hslot =>
      specs ▸ List.mem_map_of_mem hslot
    refine ((secondPass_numbers nodes level small known counts fed ?_ ?_ bare).bind
      (R := fun draft last => last = draft) fun last => ?_).mono ?_
    · exact List.forall_mem_cons.mpr ⟨own, fun slot hslot => others _ (hslots slot hslot)⟩
    · intro slot hslot named
      exact apart (named ▸ List.mem_map_of_mem (hslots slot hslot))
    · exact (Grants.of_ensures (checkMissing_ensures _)).bind fun _ _ => .pure rfl
    · rintro last ⟨draft, numbered, rfl⟩
      exact numbered
  refine (checkFields_finishes filled).mono fun answer finished n same => ?_
  obtain ⟨draft, numbered, rfl⟩ := finished n same
  have declared : field ∈ schema.fieldNames := by
    rw [names]
    exact List.mem_cons_self ..
  refine .intro ?_ ?_ fun e he => ?_
  · rw [NodeOf.get?, Draft.lookup_finish distinct declared]
    exact Draft.value?_of_get? numbered.own rfl
  · rw [Draft.isDefaulted_finish declared, numbered.mark]
  · rw [Draft.values_finish distinct] at he
    exact numbered.held e (Draft.mem_values_of_value? (Draft.mem_entries.mp he).2)

theorem barring_eq_ok {raw : Value} {name : String} {answer : Option Node} {s t : RunState}
    (h : barring rules field node raw name place s = (.ok answer, t)) :
    node raw name place s = (.ok answer, t) ∧
      (¬ s.Stopped rules.errors → rules.registry.has name = true →
        rules.maxDepth.lt place.depth = false → supplies field raw = false) := by
  unfold barring at h
  obtain ⟨stopped, s', asked, h⟩ := bind_eq_ok h
  obtain ⟨same, rfl⟩ := Prod.mk.inj asked
  split at h
  next => cases h
  next free =>
    refine ⟨h, fun going registered shallow => ?_⟩
    have asks := (Prod.mk.inj (asked.symm.trans (halted_of_going going))).1
    cases asks
    simpa [registered, shallow] using free

/-- A raw value that does not supply the field comes to a node that has the number of its level. -/
theorem expanded_numbers (nodes : NodesCount field root node)
    (level : x + 1 = root + place.depth) (small : (x + 1).natAbs ≤ Number.exactLimit)
    (known : Generator.Counts field root place.stack x) (counts : schema.CountsFrom field root)
    (distinct : schema.fieldNames.Nodup) (plain : schema.info.shortform = none)
    (builtin : ∀ spec ∈ schema.fields, spec.Every (FieldSpec.Builtin rules.registry.kinds))
    {raw : Value} (free : supplies field raw = false) :
    Grants (expand rules (checkSpec rules node other) raw schema place >>= fun
      | none => pure none
      | some record => checkFields rules (checkSpec rules node other) schema record place)
      (Permits (NodeOf.CountsUp field x)) := by
  unfold expand
  split
  next record shape =>
    have left : readKey record field = none := by simpa [supplies, shape] using free
    rw [pure_bind]
    exact checkFields_numbers nodes level small known counts distinct builtin left
  next =>
    split
    next =>
      refine (Grants.report.bind fun _ _ => .pure (P := (· = none)) rfl).bind fun answer gone => ?_
      subst gone
      exact .pure .none
    next short declared => cases plain.symm.trans declared

/-- Every tree that a validation without such records comes to is numbered, if the numbers of all
admitted levels are exact. -/
theorem checkNodeBarring_numbers
    (distinct : ∀ s ∈ rules.registry.schemas, s.fieldNames.Nodup)
    (builtin : rules.registry.Every (FieldSpec.Builtin rules.registry.kinds))
    (plain : ∀ s ∈ rules.registry.schemas, s.info.shortform = none)
    (counts : ∀ s ∈ rules.registry.schemas, s.CountsFrom field root)
    (small : ∀ depth : Nat, rules.maxDepth.lt depth = false →
      (root + depth).natAbs ≤ Number.exactLimit) (levels : Nat) :
    NodesCount field root (checkNodeBarring rules field levels) := by
  induction levels with
  | zero => exact fun _ _ _ _ _ _ _ _ _ no => by cases no
  | succ levels ih =>
    intro raw name place x level known s answer t run
    obtain ⟨run, free⟩ := barring_eq_ok run
    unfold checkNodeWith at run
    obtain ⟨stopped, s', asked, run⟩ := bind_eq_ok run
    obtain ⟨same, rfl⟩ := Prod.mk.inj asked
    cases stopped with
    | true =>
      cases run
      exact ⟨.refl _, .none⟩
    | false =>
      have going : ¬ s.Stopped rules.errors := by simpa [RunState.Stopped] using same
      simp only [Bool.false_eq_true, if_false] at run
      cases found : rules.registry.find? name with
      | none =>
        simp only [found] at run
        exact (Grants.report.bind fun _ _ => .pure .none) s answer t run
      | some schema =>
        simp only [found] at run
        cases shallow : rules.maxDepth.lt place.depth with
        | true =>
          simp only [shallow, if_true] at run
          exact (Grants.report.bind fun _ _ => .pure .none) s answer t run
        | false =>
          simp only [shallow, Bool.false_eq_true, if_false] at run
          have listed : schema ∈ rules.registry.schemas := List.mem_of_find?_eq_some found
          have fields : ∀ spec ∈ schema.fields,
              spec.Every (FieldSpec.Builtin rules.registry.kinds) := fun spec hspec =>
            builtin schema listed spec (List.mem_append_left _ hspec)
          -- The run was not barred, so the record leaves the field out.
          have unsupplied := free going (Option.isSome_of_eq_some found) shallow
          split at run
          next => cases run
          next =>
            exact expanded_numbers ih level (level ▸ small _ shallow) known (counts schema listed)
              (distinct schema listed) (plain schema listed) fields unsupplied s answer t run

/-- Below the bound, the numbers of all admitted levels are exact. -/
theorem exact_of_bounded {bound : Number} (bounded : bound.lt (.ofInt (2 ^ 53 - |root|)) = true)
    {depth : Nat} (shallow : bound.lt depth = false) :
    (root + depth).natAbs ≤ Number.exactLimit := by
  cases bound with
  | nan => cases bounded
  | infinity negative => cases bounded.symm.trans shallow
  | finite q =>
    have above : q < ((2 ^ 53 - |root| : Int) : Rat) := of_decide_eq_true bounded
    have reached : (depth : Rat) ≤ q := not_lt.mp (of_decide_eq_false shallow)
    have small : (depth : Int) < 2 ^ 53 - |root| := by exact_mod_cast reached.trans_lt above
    rw [Int.abs_eq_natAbs] at small
    have limit : Number.exactLimit = 2 ^ 53 := rfl
    omega

end Validation

open Validation

/-- A depth that is computed from the parent is the level of its node. In a tree that is validated
from its root on, where no record supplies the field, every node holds in it the root's number and
as much more as the node is levels below the root, as a default. -/
theorem Registry.computed_depth_is_level {r : Registry} (made : r.Made)
    (builtin : r.Every (FieldSpec.Builtin r.kinds))
    (plain : ∀ s ∈ r.schemas, s.info.shortform = none) {field : String} {root : Int}
    (counts : ∀ s ∈ r.schemas, s.CountsFrom field root) {o : ValidateOptions}
    (bounded : o.maxDepth.lt (.ofInt (2 ^ 53 - |root|)) = true) (top : o.stack = [])
    {memory : Memory} {raw : Value} {name : String}
    (withheld : o.Withholds r field memory raw name) {tree : Node}
    (valid : (r.validate memory raw name o).result = .ok (.valid tree)) {k : Nat} {c : Node}
    (level : tree.AtLevel k c) :
    c.get? field = some (.number (.ofInt (root + k))) ∧ c.isDefaulted field = true := by
  obtain ⟨-, t, run, -⟩ := validate_eq_valid_iff.mp valid
  have numbers : NodesCount field root
      (checkNodeBarring (o.rules r) field (Validation.levels o.maxDepth)) :=
    checkNodeBarring_numbers made.coherent.fields builtin plain counts
      (fun _ shallow => exact_of_bounded bounded shallow) _
  have known : Generator.Counts field root o.stack root := top ▸ .top
  exact (numbers raw name _ root rfl known _ _ _ (withheld.trans run)).2 tree rfl k c level

namespace Outlines

/-- The level of a part of an outline, the outermost one being the first. -/
def level : FieldSpec := .leaf {
  name := "level", kind := "integer"
  default? := some (.computed (Generator.depthFrom "level" (.ofInt 1))) }

def remark : Schema where
  name := "remark"
  fields := [level]
  info := { choice := some ⟨"note", "remark"⟩ }

/-- The parts of a part, each of them a page number or a part itself. -/
def parts : FieldSpec :=
  .list { name := "parts", kind := "list", default? := some (.constant (.list [])) }
    (.either { name := "part", kind := "either" } (.leaf { name := "page", kind := "integer" })
      (.leaf { name := "part", kind := "node", constraints := { target := some "part" } }))

/-- Notes under their marks; every part has one if none are supplied. -/
def notes : FieldSpec :=
  .mapping { name := "notes", kind := "mapping"
             default? := some (.constant (.record [("*", .record [] true)] true)) }
    (.leaf { name := "mark", kind := "string" })
    (.leaf { name := "note", kind := "choice", constraints := { choice := some "note" } })

def part : Schema where
  name := "part"
  fields := [level, parts, notes]

def registry : Registry where
  kinds := .builtin
  schemas := [remark, part]
  choices := [("note", [("remark", "remark")])]
  frozen := true

theorem registry_made : registry.Made := by
  have remarks := Registry.Made.schema (.empty .builtin) (show Registry.register? _ "remark"
    (.specs remark.fields) remark.info = .ok (_, remark) from rfl)
  have parts := Registry.Made.schema remarks (show Registry.register? _ "part"
    (.specs part.fields) part.info = .ok (_, part) from rfl)
  exact .freeze parts

theorem registry_builtin : registry.Every (FieldSpec.Builtin registry.kinds) := by
  have known : ∀ s ∈ registry.schemas, ∀ top ∈ s.allFields, ∀ spec ∈ top.walk,
      KindCatalog.builtin.has spec.kind = true := by decide
  exact fun s hs top ht spec hspec => FieldSpec.builtin_of_has (known s hs top ht spec hspec)

theorem registry_counts : ∀ s ∈ registry.schemas, s.CountsFrom "level" 1 := by
  have counts : level.CountsFrom "level" 1 := ⟨rfl, rfl, rfl, rfl, rfl, rfl⟩
  intro s listed
  rcases List.mem_pair.mp listed with rfl | rfl <;> exact ⟨level, _, rfl, counts⟩

/-- A part with a page and a part, which says nothing of itself. -/
def draft : Value :=
  .record [("parts", .list [.number 7, .record [] true]), ("notes", .record [] true)] true

def noted (n : Nat) : Node := ⟨"remark", [("level", .number n)], ["level"], some "remark", []⟩

def inner : Node :=
  ⟨"part", [("level", .number 2), ("parts", .list []),
    ("notes", .record [("*", .node (noted 3))] true)], ["level", "parts", "notes"], none, []⟩

def outline : Node :=
  ⟨"part", [("level", .number 1), ("parts", .list [.number 7, .node inner]),
    ("notes", .record [] true)], ["level"], none, []⟩

set_option maxRecDepth 20000 in
/-- The note that the inner part has by default stands two levels below the outline. -/
theorem note_counted :
    (registry.validate [] draft "part" {}).result = .ok (.valid outline) ∧
      outline.AtLevel 2 (noted 3) ∧
      (noted 3).get? "level" = some (.number (.ofInt (1 + (2 : Nat)))) ∧
      (noted 3).isDefaulted "level" = true := by
  have valid : (registry.validate [] draft "part" {}).result = .ok (.valid outline) := by
    with_unfolding_all rfl
  have plain : ∀ s ∈ registry.schemas, s.info.shortform = none := by
    intro s listed
    rcases List.mem_pair.mp listed with rfl | rfl <;> rfl
  have run : ValidateOptions.run {} registry draft "part" {} = (.ok (some outline), {}) := by
    with_unfolding_all rfl
  have barred : checkNodeBarring { registry } "level" 513 draft "part" ⟨[], [], {}, 1⟩ {} =
      (.ok (some outline), {}) := by
    with_unfolding_all rfl
  have withheld : ValidateOptions.Withholds {} registry "level" [] draft "part" :=
    barred.trans run.symm
  have below : outline.AtLevel 2 (noted 3) :=
    .step (.tail _ (.head _)) (.item (.tail _ (.head _)) (.node inner))
      (.step (.tail _ (.tail _ (.head _))) (.entry (.head _) (.node _)) (.root _))
  exact ⟨valid, below, Registry.computed_depth_is_level registry_made registry_builtin plain
    registry_counts (by decide +kernel) rfl withheld valid below⟩

end Outlines

end ShapedTree
