import ShapedTree.Proofs.Lists
import ShapedTree.Proofs.Run.Frame
import ShapedTree.Proofs.Schema.History
import ShapedTree.Proofs.Validation.NodeLogic
import ShapedTree.Proofs.Validation.ValueLockstep

namespace ShapedTree

open Run RunState ShapedTree.Computation

variable {rules : Rules}

/-- A logic that is not about whether computations return relies on nothing but that a specification
does not use the memory. -/
theorem FieldSpec.Memoryless.admits {L : Logic rules} (partial_ : ¬ L.total) {s : FieldSpec}
    (plain : s.Memoryless rules.registry.kinds) : s.Admits L (fun _ => True) fun _ => True where
  builtin := plain.builtin
  fixed _ := plain.fixed
  check _ _ _ := ⟨fun total => absurd total partial_, fun _ _ => trivial⟩
  default d declared := by
    cases d with
    | constant => trivial
    | factory => exact ⟨fun total => absurd total partial_, fun _ _ => trivial⟩
    | counting cell make => exact absurd declared (plain.default cell make)
    | computed => exact fun _ _ => ⟨fun total => absurd total partial_, fun _ _ => trivial⟩

namespace Validation

/-- What such a logic relies on, once nothing is asked of values and arguments. -/
def freePremises {L : Logic rules} (partial_ : ¬ L.total)
    (plain : rules.registry.Every (FieldSpec.Memoryless rules.registry.kinds)) : L.Premises where
  value _ := True
  record _ := True
  stored _ := True
  args _ := True
  text _ := trivial
  items _ _ _ _ := trivial
  entries _ _ := trivial
  parts _ _ _ := trivial
  type _ _ := ⟨fun total => absurd total partial_, fun _ _ => trivial⟩
  shows _ total := absurd total partial_
  copy _ := trivial
  list _ := trivial
  mapping _ := trivial
  node _ := trivial
  override _ _ := trivial
  spec := plain.mono fun _ h => h.admits partial_
  schema _ _ := {
    expand := fun _ _ _ _ => ⟨fun total => absurd total partial_, fun _ _ => trivial⟩
    check := fun _ _ _ => ⟨fun total => absurd total partial_, fun _ _ => trivial⟩ }
  required total := absurd total partial_

/-- What such a logic says of steps it says of checks of nodes and of values. -/
theorem checkNodeAt_holds {L : Logic rules} (partial_ : ¬ L.total)
    (plain : rules.registry.Every (FieldSpec.Memoryless rules.registry.kinds)) (levels depth : Nat) :
    NodesHold (freePremises partial_ plain) (checkNodeAt rules levels) depth := by
  induction levels generalizing depth with
  | zero => exact fun raw name place _ _ => Logic.throw partial_
  | succ levels ih =>
    refine checkNodeWith_holds fun _ => ?_
    rw [checkValue_eq]
    exact checkSpec_holds (ih (depth + 1))

theorem checkValue_holds {L : Logic rules} (partial_ : ¬ L.total)
    (plain : rules.registry.Every (FieldSpec.Memoryless rules.registry.kinds)) (levels depth : Nat) :
    ValuesHold (freePremises partial_ plain)
      (checkValue rules (checkNodeAt rules levels) questionLimit) depth := by
  rw [checkValue_eq]
  exact checkSpec_holds (checkNodeAt_holds partial_ plain levels (depth + 1))

/-- Everything is on its own level, once nothing is asked of values and arguments. -/
theorem within_free {L : Logic rules} (partial_ : ¬ L.total)
    (plain : rules.registry.Every (FieldSpec.Memoryless rules.registry.kinds)) (place : Place) :
    Within (freePremises partial_ plain) place place.depth :=
  ⟨trivial, fun _ _ _ _ => trivial, rfl⟩

/-- Checks of nodes that do not use the memory record the same in every frame. -/
theorem checkNodeAt_framed
    (plain : rules.registry.Every (FieldSpec.Memoryless rules.registry.kinds)) (levels : Nat)
    (raw : Value) (name : String) (place : Place) :
    Framed rules (checkNodeAt rules levels raw name place) fun _ => True :=
  (checkNodeAt_holds (L := .framed rules) id plain levels place.depth raw name place trivial
    (within_free _ plain place)).mono fun _ _ => trivial

variable {schema : Schema} {place : Place} {es : Entries Value} {membership : Membership}

theorem checkKeys_filter (es : List (String × Value)) :
    checkKeys rules schema place es =
      checkKeys rules schema place (es.filter fun e => !acceptsKey schema e.1) := by
  induction es with
  | nil => rfl
  | cons e rest ih =>
    obtain ⟨key, value⟩ := e
    cases accepted : acceptsKey schema key with
    | true => simp only [checkKeys, List.filter_cons, accepted, ih]; rfl
    | false => simp only [checkKeys, List.filter_cons, accepted, ih, Bool.not_false, if_true]

theorem firstPass_congr {value : ValueRun} {record record' : Entries Value} {specs : List FieldSpec}
    (same : ∀ spec ∈ specs, readKey record' spec.name = readKey record spec.name) (draft : Draft) :
    firstPass rules value schema record' place draft specs =
      firstPass rules value schema record place draft specs := by
  induction specs generalizing draft with
  | nil => rfl
  | cons spec rest ih =>
    obtain ⟨first, others⟩ := List.forall_mem_cons.mp same
    have starts : start schema record' spec = start schema record spec := by
      simp only [start, first]
    simp only [firstPass, starts, ih others]

/-- A record that names the type of the schema besides is the same record to it. -/
theorem checkFields_named {value : ValueRun} (choice : schema.info.choice = some membership)
    (undeclared : "type" ∉ schema.fieldNames) (untyped : readKey es "type" = none) :
    checkFields rules value schema (Record.insert es "type" (.text membership.type)) place =
      checkFields rules value schema es place := by
  let named := Record.insert es "type" (.text membership.type)
  have typed : checkType rules schema named place = checkType rules schema es place := by
    have own : readKey named "type" = some (.text membership.type) := by
      simp [named, readKey, Record.lookup_insert, Value.isUndefined]
    have fits : (Value.text membership.type).same (.text membership.type) = true :=
      beq_self_eq_true _
    simp [checkType, choice, untyped, own, fits]
  have keys : checkKeys rules schema place named = checkKeys rules schema place es := by
    have accepted : acceptsKey schema "type" = true := by simp [acceptsKey, choice]
    rw [checkKeys_filter, checkKeys_filter es]
    exact congrArg _ (Record.filter_insert (p := fun key => !acceptsKey schema key)
      (by rw [accepted]; rfl) es _)
  have reads : ∀ spec ∈ schema.fields, readKey named spec.name = readKey es spec.name := by
    intro spec hspec
    have other : spec.name ≠ "type" := by
      intro same
      exact undeclared (List.mem_map.mpr ⟨spec, hspec, same⟩)
    simp only [named, readKey, Record.lookup_insert, if_neg other]
  have passes : ∀ draft, firstPass rules value schema named place draft schema.fields =
      firstPass rules value schema es place draft schema.fields := firstPass_congr reads
  have filled : fill rules value schema named place = fill rules value schema es place := by
    unfold fill
    rw [typed, keys, passes]
  rw [checkFields_eq, checkFields_eq]
  exact congrArg (fun draft => draft.watched >>= _) filled

theorem expand_of_entries {value : ValueRun} {raw : Value} (shape : raw.entries? = some es) :
    expand rules value raw schema place = pure (some es) := by
  unfold expand
  rw [shape]

theorem checkNodeAt_named {raw : Value} {name : String} {plain : Bool} (levels : Nat)
    (found : rules.registry.find? name = some schema)
    (choice : schema.info.choice = some membership) (undeclared : "type" ∉ schema.fieldNames)
    (shape : raw.entries? = some es) (untyped : readKey es "type" = none) :
    checkNodeAt rules levels (.record (Record.insert es "type" (.text membership.type)) plain) name
        place =
      checkNodeAt rules levels raw name place := by
  cases levels with
  | zero => rfl
  | succ levels =>
    have named : (Value.record (Record.insert es "type" (.text membership.type)) plain).entries? =
        some (Record.insert es "type" (.text membership.type)) := rfl
    simp only [checkNodeAt, checkNodeWith, found, expand_of_entries shape, expand_of_entries named,
      pure_bind, checkFields_named choice undeclared untyped]

end Validation

namespace Choice

variable {node : NodeRun} {raw : Value} {group : String} {place : Place}

/-- What a member makes of a value in a run of its own: its node and its messages, if it finds no
issue. -/
def fit? (node : NodeRun) (raw : Value) (place : Place) (name : String) : Option Match :=
  match node raw name place {} with
  | (.ok (some n), t) => if t.issues.isEmpty then some ⟨n, t.log⟩ else none
  | _ => none

/-- The schemas of a group. -/
def candidates (rules : Rules) (group : String) : List String :=
  (rules.registry.choiceMembers group).map Prod.snd

/-- The value fits one member of the group and no other. -/
structure Sole (rules : Rules) (node : NodeRun) (raw : Value) (group : String) (place : Place)
    (name : String) (found : Match) : Prop where
  member : name ∈ candidates rules group
  fits : fit? node raw place name = some found
  alone : ∀ other ∈ candidates rules group, other ≠ name → fit? node raw place other = none

/-- The try of a member comes to what the member makes of the value. -/
theorem attempt_eq {name : String} (framed : Framed rules (node raw name place) fun _ => True)
    (returns : ∃ answer t, node raw name place {} = (.ok answer, t)) (s : RunState) :
    ∃ memory, attempt (node raw name place) s =
      (.ok (fit? node raw place name), { s with memory }) := by
  obtain ⟨answer, t, alone⟩ := returns
  obtain ⟨-, t', run, same⟩ := framed #[] #[] {} { memory := s.memory } answer t
    (.fresh [] s.memory) alone
  have issues : t'.issues = t.issues := by rw [same.issues, Array.empty_append]
  have log : t'.log = t.log := by rw [same.log, Array.empty_append]
  have tried : Run.trial (node raw name place) s =
      (.ok (answer, t.issues, t.log), { s with memory := t'.memory }) := by
    unfold Run.trial
    rw [run, ← issues, ← log]
  have fits : (if t.issues.isEmpty then answer.map fun n => (⟨n, t.log⟩ : Match) else none) =
      fit? node raw place name := by
    unfold fit?
    rw [alone]
    cases answer <;> simp
  refine ⟨t'.memory, ?_⟩
  unfold attempt
  rw [bind_of_ok tried, ← fits]
  rfl

theorem matching_eq {names : List String}
    (framed : ∀ name, Framed rules (node raw name place) fun _ => True)
    (returns : ∀ name ∈ names, ∃ answer t, node raw name place {} = (.ok answer, t))
    (s : RunState) :
    ∃ memory, matching node raw place names s =
      (.ok (names.filterMap (fit? node raw place)), { s with memory }) := by
  induction names generalizing s with
  | nil => exact ⟨s.memory, rfl⟩
  | cons name rest ih =>
    obtain ⟨first, others⟩ := List.forall_mem_cons.mp returns
    obtain ⟨memory, tried⟩ := attempt_eq (framed name) first s
    obtain ⟨memory', matched⟩ := ih others { s with memory }
    refine ⟨memory', ?_⟩
    rw [matching_cons, bind_of_ok tried, bind_of_ok matched]
    cases fits : fit? node raw place name with
    | none => rw [List.filterMap_cons_none fits]; rfl
    | some found => rw [List.filterMap_cons_some fits]; rfl

/-- A report of a run that has not stopped adds one issue, if the value can be shown. -/
theorem report_of_going {s : RunState} (going : ¬ s.Stopped rules.errors)
    (shown : ∃ text, raw.preview = .ok text) (path : List String) (kind : IssueKind)
    (message : String) (suggestion : Option String) :
    ∃ issue, issue.path = path ∧ report rules path kind message suggestion (some raw) s =
      (.ok (), { s with issues := s.issues.push issue }) := by
  have seen : ∃ preview, received (some raw) = pure preview := by
    obtain ⟨text, preview⟩ := shown
    unfold received
    split
    next no => cases no
    next => exact ⟨none, rfl⟩
    next v same =>
      cases same
      rw [preview]
      exact ⟨some text, rfl⟩
  obtain ⟨preview, seen⟩ := seen
  refine ⟨⟨path, kind, message, suggestion, preview⟩, rfl, ?_⟩
  unfold report
  rw [bind_of_ok (halted_of_going going), seen]
  rfl

/-- With several members, a value that names no type and holds something is tried against each. -/
theorem check_eq_byFit {s : RunState} (going : ¬ s.Stopped rules.errors)
    (several : 2 ≤ (rules.registry.choiceMembers group).length) (untyped : namedType? raw = none)
    (filled : isEmptyRecord raw = false) :
    check rules node raw group place s =
      byFit rules node raw group place (rules.registry.choiceMembers group)
        (Text.sortByUnits ((rules.registry.choiceMembers group).map Prod.fst)) s := by
  unfold check
  rw [bind_of_ok (halted_of_going going)]
  simp only [Bool.false_eq_true, if_false, untyped, filled]
  -- The match on a single member has another outcome, which two members exclude.
  generalize rules.registry.choiceMembers group = members at several ⊢
  match members, several with
  | _ :: _ :: _, _ => rfl

theorem fit?_eq_some {name : String} {found : Match} (h : fit? node raw place name = some found) :
    ∃ t, node raw name place {} = (.ok (some found.node), t) ∧ t.issues = #[] ∧
      t.log = found.log := by
  unfold fit? at h
  split at h
  next n t run =>
    split at h
    next clean =>
      cases h
      exact ⟨t, run, Array.isEmpty_iff.mp clean, rfl⟩
    next => cases h
  next => cases h

/-- In a run that has not stopped, a member that a value fits makes the same node of it and adds no
issue, and its own messages. -/
theorem node_of_fit {name : String} {found : Match}
    (framed : Framed rules (node raw name place) fun _ => True) {s : RunState}
    (going : ¬ s.Stopped rules.errors) (fits : fit? node raw place name = some found) :
    ∃ t, node raw name place s = (.ok (some found.node), t) ∧ t.issues = s.issues ∧
      t.log = s.log ++ found.log := by
  obtain ⟨u, alone, clean, log⟩ := fit?_eq_some fits
  obtain ⟨-, t, run, behind⟩ := framed _ _ _ _ _ _ (.of_going going []) alone
  refine ⟨t, run, ?_, ?_⟩
  · rw [behind.issues, clean, Array.append_empty]
  · rw [behind.log, log]

variable {members : List (String × String)} {types : List String} {s : RunState} {memory : Memory}

theorem byFit_of_one {found : Match} (matched : matching node raw place (members.map Prod.snd) s =
      (.ok [found], { s with memory })) :
    ∃ t, byFit rules node raw group place members types s = (.ok (some found.node), t) ∧
      t.issues = s.issues ∧ t.log.toList = s.log.toList ++ warnings found.log.toList := by
  have adopted : byFit rules node raw group place members types s = (.ok (some found.node),
      { s with memory, log := s.log ++ found.log.filter fun e => e.level == .warn }) := by
    unfold byFit
    rw [bind_of_ok matched]
    rfl
  exact ⟨_, adopted, rfl, by simp [warnings]⟩

theorem byFit_of_other {found : List Match}
    (matched : matching node raw place (members.map Prod.snd) s = (.ok found, { s with memory }))
    (other : ∀ m, found ≠ [m]) (going : ¬ s.Stopped rules.errors)
    (shown : ∃ text, raw.preview = .ok text) :
    ∃ t, byFit rules node raw group place members types s = (.ok none, t) ∧
      (∃ issue, issue.path = place.path ∧ t.issues = s.issues.push issue) ∧ t.log = s.log := by
  have reported : ∃ message, byFit rules node raw group place members types s =
      (do
        report rules place.path .constraintViolation message
          (some "Add a 'type' field to pick one.") (some raw)
        return none : Run (Option Node)) { s with memory } := by
    unfold byFit
    rw [bind_of_ok matched]
    match found, other with
    | [], _ => exact ⟨_, rfl⟩
    | [m], no => exact absurd rfl (no m)
    | _ :: _ :: _, _ => exact ⟨_, rfl⟩
  obtain ⟨message, reported⟩ := reported
  have still : ¬ RunState.Stopped rules.errors { s with memory } := going
  obtain ⟨issue, path, run⟩ := report_of_going still shown place.path .constraintViolation message
    (some "Add a 'type' field to pick one.")
  refine ⟨{ s with issues := s.issues.push issue, memory }, ?_, ⟨issue, path, rfl⟩, rfl⟩
  rw [reported, bind_of_ok run]
  rfl

theorem Sole.unique {name name' : String} {found found' : Match}
    (sole : Sole rules node raw group place name found)
    (sole' : Sole rules node raw group place name' found') : name' = name ∧ found' = found := by
  have same : name' = name := by
    by_contra other
    cases sole'.fits.symm.trans (sole.alone name' sole'.member other)
  subst same
  exact ⟨rfl, Option.some.inj (sole'.fits.symm.trans sole.fits)⟩

theorem fitting_eq_singleton_iff (distinct : (candidates rules group).Nodup) {found : Match} :
    (candidates rules group).filterMap (fit? node raw place) = [found] ↔
      ∃ name, Sole rules node raw group place name found := by
  rw [filterMap_eq_singleton_iff distinct]
  constructor
  · rintro ⟨name, member, fits, alone⟩
    exact ⟨name, member, fits, alone⟩
  · rintro ⟨name, member, fits, alone⟩
    exact ⟨name, member, fits, alone⟩

theorem namedType?_insert {es : Entries Value} {type : String} {plain : Bool} :
    namedType? (.record (Record.insert es "type" (.text type)) plain) = some (.text type) := by
  simp [namedType?, Value.entries?, Record.lookup_insert, Value.isUndefined]

theorem readKey_of_untyped {es : Entries Value} (untyped : namedType? raw = none)
    (shape : raw.entries? = some es) : Validation.readKey es "type" = none := by
  unfold namedType? at untyped
  rw [shape] at untyped
  exact untyped

/-- A value that names the type of a member is resolved as the member. -/
theorem check_named {type name : String} (coherent : rules.registry.Coherent)
    (going : ¬ s.Stopped rules.errors) (typed : namedType? raw = some (.text type))
    (member : (type, name) ∈ rules.registry.choiceMembers group) :
    check rules node raw group place s = node raw name place s := by
  have target : member? (rules.registry.choiceMembers group) (.text type) = some name :=
    Entries.lookup_of_mem (coherent.types group) member
  unfold check
  rw [bind_of_ok (halted_of_going going)]
  simp only [Bool.false_eq_true, if_false, typed, byType, target]

/-- What resolving a value without a type comes to. It is the node of the one member that the value
fits, whose own warnings are added; otherwise there is one issue. The value may name the type of
that member as well. -/
structure Inferred (rules : Rules) (node : NodeRun) (raw : Value) (group : String) (place : Place)
    (s : RunState) (answer : Option Node) (t : RunState) : Prop where
  node_iff : ∀ n, answer = some n ↔
    ∃ name found, Sole rules node raw group place name found ∧ found.node = n
  accepted : ∀ name found, Sole rules node raw group place name found →
    t.issues = s.issues ∧ t.log.toList = s.log.toList ++ warnings found.log.toList
  refused : answer = none →
    (∃ issue, issue.path = place.path ∧ t.issues = s.issues.push issue) ∧ t.log = s.log
  named : ∀ name found, Sole rules node raw group place name found →
    ∀ type es schema plain, (type, name) ∈ rules.registry.choiceMembers group →
      rules.registry.find? name = some schema → "type" ∉ schema.fieldNames →
      raw.entries? = some es →
      ∃ u, check rules node (.record (Record.insert es "type" (.text type)) plain) group place s =
          (.ok (some found.node), u) ∧ u.issues = s.issues ∧
        warnings u.log.toList = warnings t.log.toList

end Choice

open Choice

variable {levels : Nat} {group : String} {raw : Value} {place : Place} {s : RunState}

/-- A member that a value fits makes the same node of a record that names the type besides, and
gives the same warnings. -/
theorem Validation.check_named_of_fit {es : Entries Value} {schema : Schema} {type name : String}
    {found : Match} (coherent : rules.registry.Coherent)
    (framed : Framed rules (checkNodeAt rules levels raw name place) fun _ => True)
    (going : ¬ s.Stopped rules.errors) (untyped : namedType? raw = none)
    (fits : fit? (checkNodeAt rules levels) raw place name = some found)
    (member : (type, name) ∈ rules.registry.choiceMembers group)
    (known : rules.registry.find? name = some schema) (undeclared : "type" ∉ schema.fieldNames)
    (shape : raw.entries? = some es) (plain : Bool) :
    ∃ u, check rules (checkNodeAt rules levels)
        (.record (Record.insert es "type" (.text type)) plain) group place s =
          (.ok (some found.node), u) ∧
      u.issues = s.issues ∧ u.log = s.log ++ found.log := by
  obtain ⟨schema', known', choice⟩ := (coherent.member_iff group type name).mp member
  cases known.symm.trans known'
  obtain ⟨u, run, issues, log⟩ := node_of_fit framed going fits
  refine ⟨u, ?_, issues, log⟩
  rw [check_named coherent going namedType?_insert member,
    checkNodeAt_named levels known choice undeclared shape (readKey_of_untyped untyped shape), run]

/-- A value that names no type is resolved as the one member of its group that it fits. -/
theorem Registry.choice_infers (made : rules.registry.Made)
    (memoryless : rules.registry.Every (FieldSpec.Memoryless rules.registry.kinds)) (levels : Nat)
    {group : String} (several : 2 ≤ (rules.registry.choiceMembers group).length) {raw : Value}
    (untyped : namedType? raw = none) (filled : isEmptyRecord raw = false) (place : Place)
    {s : RunState} (going : ¬ s.Stopped rules.errors)
    (returns : ∀ name ∈ candidates rules group,
      ∃ answer t, Validation.checkNodeAt rules levels raw name place {} = (.ok answer, t))
    (shown : (∀ name found,
        ¬ Sole rules (Validation.checkNodeAt rules levels) raw group place name found) →
      ∃ text, raw.preview = .ok text) :
    ∃ answer t,
      check rules (Validation.checkNodeAt rules levels) raw group place s = (.ok answer, t) ∧
      Inferred rules (Validation.checkNodeAt rules levels) raw group place s answer t := by
  have coherent := made.coherent
  have distinct : (candidates rules group).Nodup := coherent.members group
  have framed := fun name => Validation.checkNodeAt_framed memoryless levels raw name place
  obtain ⟨memory, matched⟩ := matching_eq framed returns s
  rw [check_eq_byFit going several untyped filled]
  -- One member alone fits the value, or else none does or several do.
  by_cases one : ∃ name found,
      Sole rules (Validation.checkNodeAt rules levels) raw group place name found
  case pos =>
    obtain ⟨name, found, sole⟩ := one
    rw [(fitting_eq_singleton_iff distinct).mpr ⟨name, sole⟩] at matched
    obtain ⟨t, run, issues, log⟩ := byFit_of_one matched
    refine ⟨some found.node, t, run, fun n => ⟨?_, ?_⟩, ?_, ?_, ?_⟩
    · rintro ⟨⟩
      exact ⟨name, found, sole, rfl⟩
    · rintro ⟨name', found', sole', rfl⟩
      rw [(sole.unique sole').2]
    · intro name' found' sole'
      rw [(sole.unique sole').2]
      exact ⟨issues, log⟩
    · rintro ⟨⟩
    · intro name' found' sole' type es schema plain member known undeclared shape
      obtain ⟨rfl, rfl⟩ := sole.unique sole'
      obtain ⟨u, run', issues', log'⟩ := Validation.check_named_of_fit coherent (framed name')
        going untyped sole'.fits member known undeclared shape plain
      refine ⟨u, run', issues', ?_⟩
      rw [log', log]
      simp [warnings]
  case neg =>
    have nobody : ∀ name found,
        ¬ Sole rules (Validation.checkNodeAt rules levels) raw group place name found :=
      fun name found sole => one ⟨name, found, sole⟩
    have other : ∀ m, (candidates rules group).filterMap
        (fit? (Validation.checkNodeAt rules levels) raw place) ≠ [m] := by
      intro m single
      obtain ⟨name, sole⟩ := (fitting_eq_singleton_iff distinct).mp single
      exact nobody name m sole
    obtain ⟨t, run, issue, log⟩ := byFit_of_other matched other going (shown nobody)
    refine ⟨none, t, run, fun n => ⟨?_, ?_⟩, ?_, fun _ => ⟨issue, log⟩, ?_⟩
    · rintro ⟨⟩
    · rintro ⟨name, found, sole, -⟩
      exact absurd sole (nobody name found)
    · exact fun name found sole => absurd sole (nobody name found)
    · exact fun name found sole => absurd sole (nobody name found)

namespace Library

theorem registry_memoryless : registry.Every (FieldSpec.Memoryless registry.kinds) :=
  fun s hs top ht part hp => ⟨registry_builtin s hs top ht part hp,
    (registry_plain s hs top ht part hp).1, (registry_plain s hs top ht part hp).2.2.2⟩

def lenient : Rules := { registry }

/-- The place of a third part of a book. -/
def third : Place := ⟨["book.parts", "[2]"], [], {}, 2⟩

/-- A run that has recorded an issue and goes on. -/
def begun : RunState where
  issues := #[⟨["book.title"], .missingField, "the required field 'title' is missing", none, none⟩]

def burnt : Node := ⟨"note", [("text", .text "Burnt.")], [], some "note", []⟩

/-- A part with a text is a note. -/
theorem choice_burnt : ∃ t, Choice.check lenient (Validation.checkNodeAt lenient 2)
      (.record [("text", .text "Burnt.")] true) "part" third begun = (.ok (some burnt), t) ∧
    t.issues = begun.issues ∧ t.log = #[] := by
  have sole : Sole lenient (Validation.checkNodeAt lenient 2)
      (.record [("text", .text "Burnt.")] true) "part" third "note" ⟨burnt, #[]⟩ := by
    refine ⟨.tail _ (.head _), rfl, ?_⟩
    intro other member different
    rcases List.mem_cons.mp member with rfl | member
    · rfl
    · exact absurd (List.mem_singleton.mp member) different
  have returns : ∀ name ∈ candidates lenient "part", ∃ answer t,
      Validation.checkNodeAt lenient 2 (.record [("text", .text "Burnt.")] true) name third {} =
        (.ok answer, t) := by
    intro name member
    rcases List.mem_cons.mp member with rfl | member
    · exact ⟨_, _, rfl⟩
    · rw [List.mem_singleton.mp member]
      exact ⟨_, _, rfl⟩
  have made : lenient.registry.Made := registry_made
  have memoryless : lenient.registry.Every (FieldSpec.Memoryless lenient.registry.kinds) :=
    registry_memoryless
  have several : 2 ≤ (lenient.registry.choiceMembers "part").length := by decide
  have going : ¬ begun.Stopped lenient.errors := fun stopped => nomatch stopped.1
  obtain ⟨answer, t, run, inferred⟩ := Registry.choice_infers made memoryless 2 several rfl rfl
    third going returns fun nobody => absurd sole (nobody _ _)
  obtain ⟨issues, log⟩ := inferred.accepted _ _ sole
  rw [(inferred.node_iff burnt).mpr ⟨_, _, sole, rfl⟩] at run
  exact ⟨t, run, issues, Array.toList_inj.mp log⟩

/-- A part that fits no schema and cannot be shown is not reported: the run fails. -/
theorem choice_unshown :
    registry.Made ∧ registry.Every (FieldSpec.Memoryless registry.kinds) ∧
      2 ≤ (registry.choiceMembers "part").length ∧ ¬ begun.Stopped lenient.errors ∧
      Choice.namedType? (.record [("x", .bigint 1)] false) = none ∧
      Choice.isEmptyRecord (.record [("x", .bigint 1)] false) = false ∧
      (∀ name ∈ candidates lenient "part", ∃ t, Validation.checkNodeAt lenient 2
        (.record [("x", .bigint 1)] false) name third {} = (.ok none, t)) ∧
      (Choice.check lenient (Validation.checkNodeAt lenient 2) (.record [("x", .bigint 1)] false)
        "part" third begun).1 = .error .unwritable := by
  have several : 2 ≤ (registry.choiceMembers "part").length := by decide
  have going : ¬ begun.Stopped lenient.errors := fun stopped => nomatch stopped.1
  refine ⟨registry_made, registry_memoryless, several, going, rfl, rfl, ?_, rfl⟩
  intro name member
  rcases List.mem_cons.mp member with rfl | member
  · exact ⟨_, rfl⟩
  · rw [List.mem_singleton.mp member]
    exact ⟨_, rfl⟩

end Library

end ShapedTree
