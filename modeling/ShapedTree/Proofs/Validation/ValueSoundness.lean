import ShapedTree.Proofs.Kind.Inquiry
import ShapedTree.Proofs.Validation.Acceptance

namespace ShapedTree

open Run

namespace Kind

variable {rules : Rules}

theorem checkItems_ensures {item : PartCheck Run} {law : Value → Value → Prop}
    (h : ∀ raw label, Ensures (item raw label) (Answers (law raw))) (index : Nat)
    (items : List Value) :
    Ensures (checkItems (halted rules) item index items) (Answers (List.Forall₂ law items)) := by
  induction items generalizing index with
  | nil => exact .pure ⟨[], rfl, .nil⟩
  | cons raw rest ih =>
    refine (h raw _).bind_answer (fun v => ?_) ?_
    · refine Ensures.halted.bind fun stopped => ?_
      cases stopped with
      | true => exact .pure fun no => by cases no
      | false =>
        refine (ih (index + 1)).bind_answer (fun vs => ?_) (.pure trivial)
        exact .pure fun hvs _ hv => ⟨_, rfl, .cons hv hvs⟩
    · refine Ensures.halted.bind fun stopped => ?_
      cases stopped with
      | true => exact .pure fun _ => trivial
      | false => exact (ih (index + 1)).bind fun _ => .pure fun _ _ => trivial

theorem nodup_concat {past : List (String × Value)} {f : String × Value}
    (distinct : (past.map Prod.fst).Nodup)
    (new : ¬ Entries.has (Record.ofList past) f.1 = true) :
    ((past ++ [f]).map Prod.fst).Nodup := by
  rw [Entries.has_iff, Record.mem_keys_ofList] at new
  exact nodup_map_concat.mpr ⟨new, distinct⟩

/-- The entries checked so far, in the order of the raw ones, make the record that is done. -/
theorem checkEntries_ensures {byInteger : Bool} {key value : PartCheck Run}
    {keyLaw valueLaw : Value → Value → Prop}
    (hkey : ∀ raw label, Ensures (key raw label) (Answers (keyLaw raw)))
    (hvalue : ∀ raw label, Ensures (value raw label) (Answers (valueLaw raw)))
    (texts : ∀ s v, keyLaw (.text s) v → ∃ t, v = .text t) (es : List (String × Value))
    (failed : Bool) (past : List (String × Value)) (distinct : (past.map Prod.fst).Nodup) :
    Ensures (checkEntries (halted rules) byInteger key value failed (Record.ofList past) es)
      fun result => failed = false → Settles (fun v => ∃ fs,
        List.Forall₂ (fun e f : String × Value =>
          keyLaw (.text e.1) (.text f.1) ∧ valueLaw e.2 f.2) es fs ∧
        ((past ++ fs).map Prod.fst).Nodup ∧
        v = .record (sortMapping byInteger (Record.ofList (past ++ fs))) true) result := by
  induction es generalizing failed past with
  | nil =>
    refine .pure fun ok => ?_
    subst ok
    exact .ok ⟨[], .nil, by simpa using distinct, by simp⟩
  | cons e rest ih =>
    rw [checkEntries_cons]
    refine (hkey _ _).bind fun k => (hvalue _ _).bind fun v => ?_
    cases entry : settled k v with
    | none =>
      have goes : Ensures (checkRest (halted rules) byInteger key value true (Record.ofList past)
          rest) fun _ => True := by
        refine Ensures.halted.bind fun stopped => ?_
        cases stopped with
        | true => exact .pure fun _ => trivial
        | false => exact (ih true past distinct).mono fun _ _ _ => trivial
      refine goes.mono fun result _ hv hk => ?_
      -- A key and a value that are accepted come to an entry.
      obtain ⟨w, rfl, -⟩ := hv
      obtain ⟨s, rfl, taken⟩ := hk
      obtain ⟨t, rfl⟩ := texts _ _ taken
      cases entry
    | some f =>
      obtain ⟨rfl, rfl⟩ := settled_eq_some.mp entry
      simp only
      split
      next => exact .pure fun _ _ _ => .found _
      next new =>
        refine Ensures.halted.bind fun stopped => ?_
        cases stopped with
        | true => exact .pure fun no => by cases no
        | false =>
          have step := ih failed (past ++ [f]) (nodup_concat distinct new)
          rw [Record.ofList_concat] at step
          refine step.mono fun result outcome _ hv hk ok => ?_
          obtain ⟨_, ⟨⟩, valueHolds⟩ := hv
          obtain ⟨_, ⟨⟩, keyHolds⟩ := hk
          rcases outcome ok with found | ⟨w, rfl, fs, all, nodup, rfl⟩
          · exact .inl found
          · refine .ok ⟨f :: fs, .cons ⟨keyHolds, valueHolds⟩ all, ?_, ?_⟩
            · simpa using nodup
            · simp

end Kind

namespace Choice

variable {rules : Rules} {node : NodeRun} {law : NodeLaw}

theorem matching_ensures (h : ∀ raw name place,
    Ensures (node raw name place) (Answers (law raw name place.setting))) (raw : Value)
    (place : Place) (names : List String) :
    Ensures (matching node raw place names) fun found =>
      ∀ m ∈ found, ∃ name ∈ names, law raw name place.setting m.node := by
  induction names with
  | nil => exact .pure (by simp)
  | cons name rest ih =>
    refine (h raw name place).trial.bind fun (answer, issues, log) => ?_
    refine ih.bind fun others => ?_
    have weaker : (∀ m ∈ others, ∃ name ∈ rest, law raw name place.setting m.node) →
        ∀ m ∈ others, ∃ other ∈ name :: rest, law raw other place.setting m.node :=
      fun hothers m hm =>
        have ⟨other, mem, hm⟩ := hothers m hm
        ⟨other, List.mem_cons_of_mem name mem, hm⟩
    cases answer with
    | none => exact .pure fun hothers _ => weaker hothers
    | some n =>
      simp only
      split
      next clean =>
        refine .pure fun hothers hn m hm => ?_
        rcases List.mem_cons.mp hm with rfl | hm
        · obtain ⟨a, same, ha⟩ := hn (Array.isEmpty_iff.mp clean)
          cases same
          exact ⟨name, by simp, ha⟩
        · exact weaker hothers m hm
      next => exact .pure fun hothers _ => weaker hothers

theorem byType_ensures (h : ∀ raw name place,
    Ensures (node raw name place) (Answers (law raw name place.setting))) (raw : Value)
    (group : String) (place : Place) (types : List String) (type : Value) :
    Ensures (byType rules node raw group place (rules.registry.choiceMembers group) types type)
      (Answers (Validation.ChoiceAccepts rules.registry law raw group place.setting)) := by
  unfold byType
  split
  next target found =>
    unfold member? at found
    split at found
    next t =>
      exact (h raw target place).mono fun answer hn =>
        hn.mono fun n => .intro (Entries.mem_of_lookup found)
    next => cases found
  next =>
    refine (Ensures.lift _).bind fun shown => ?_
    exact Ensures.report.bind fun _ => .pure fun no => no.elim

theorem check_ensures (h : ∀ raw name place,
    Ensures (node raw name place) (Answers (law raw name place.setting))) (raw : Value)
    (group : String) (place : Place) :
    Ensures (check rules node raw group place)
      (Answers (Validation.ChoiceAccepts rules.registry law raw group place.setting)) := by
  unfold check
  refine Ensures.halted.bind fun stopped => ?_
  cases stopped with
  | true => exact .pure fun no => by cases no
  | false =>
    simp only [Bool.false_eq_true, if_false]
    split
    next type _ => exact (byType_ensures h raw group place _ type).mono fun _ hn _ => hn
    next =>
      split
      next type only members =>
        have member : (type, only) ∈ rules.registry.choiceMembers group := by
          rw [members]
          exact List.mem_singleton.mpr rfl
        exact (h raw only place).mono fun answer hn _ => hn.mono fun n => .intro member
      next =>
        split
        next => exact Ensures.report.bind fun _ => .pure fun no => no.elim
        next =>
          refine (matching_ensures h raw place _).bind fun found => ?_
          split
          next m =>
            refine (Ensures.adopt _).bind fun _ => .pure fun _ hm _ => ⟨m.node, rfl, ?_⟩
            obtain ⟨name, mem, hn⟩ := hm m (by simp)
            obtain ⟨member, hmember, rfl⟩ := List.mem_map.mp mem
            exact .intro hmember hn
          next => exact Ensures.report.bind fun _ => .pure fun no => no.elim

end Choice

namespace Validation

variable {rules : Rules} {node : NodeRun} {other : ValueRun} {NL : NodeLaw} {VL : ValueLaw}

/-- The rules by which a run accepts values, for the laws of nodes and values below. -/
abbrev Accepts (rules : Rules) (NL : NodeLaw) (VL : ValueLaw) : ValueLaw :=
  ValueAccepts rules.registry.kinds NL (ChoiceAccepts rules.registry NL) VL

/-- The checks of the parts of a specification answer with values that satisfy a law. -/
inductive PartsAnswer (law : FieldSpec → Value → Value → Prop) :
    FieldSpec → PartChecks Run → Prop
  | leaf {info : FieldInfo} : PartsAnswer law (.leaf info) .none
  | list {info : FieldInfo} {item : FieldSpec} {check : PartCheck Run}
      (h : ∀ raw label, Ensures (check raw label) (Answers (law item raw))) :
      PartsAnswer law (.list info item) (.list check)
  | mapping {info : FieldInfo} {key value : FieldSpec} {checkKey checkValue : PartCheck Run}
      (hkey : ∀ raw label, Ensures (checkKey raw label) (Answers (law key raw)))
      (hvalue : ∀ raw label, Ensures (checkValue raw label) (Answers (law value raw))) :
      PartsAnswer law (.mapping info key value)
        (.mapping (key.kind == PartChecks.integerKeys) checkKey checkValue)
  | either {info : FieldInfo} {primitive complex : FieldSpec} {checkP checkC : PartCheck Run}
      (hprimitive : ∀ raw label, Ensures (checkP raw label) (Answers (law primitive raw)))
      (hcomplex : ∀ raw label, Ensures (checkC raw label) (Answers (law complex raw))) :
      PartsAnswer law (.either info primitive complex) (.either checkP checkC)

/-- A built-in kind accepts by the rules, where the parts answer by their law. -/
theorem kind_ensures {k : BuiltinKind} {spec : FieldSpec} {parts : PartChecks Run} {raw : Value}
    {place : Place} (known : rules.registry.kinds.Knows k spec)
    (regular : spec.Regular rules.registry.kinds)
    (present : (raw.isNull && !rules.registry.kinds.acceptsNull spec.kind) = false)
    (hnode : ∀ raw name place, Ensures (node raw name place) (Answers (NL raw name place.setting)))
    (hparts : PartsAnswer (fun part raw v =>
      Accepts rules NL VL part raw (place.setting.inside spec) v ∧
        VL part raw (place.setting.inside spec) v) spec parts) :
    Ensures (k.check (context rules node other spec place) parts spec.info raw)
      (Kind.Settles fun v => KindAccepts rules.registry.kinds NL
        (ChoiceAccepts rules.registry NL) VL spec raw place.setting v ∧
        v.isUndefined = false) := by
  cases flat : k.isNested with
  | false =>
    rw [BuiltinKind.check_eq_verdict flat regular.fixed rfl]
    rw [known.acceptsNull_eq] at present
    refine .pure ((BuiltinKind.verdict_settles flat _ _).mono fun v hv => ?_)
    exact ⟨.scalar known flat hv, (BuiltinKind.holds_of_verdict flat hv present).isUndefined_eq⟩
  | true =>
    obtain ⟨q, asks, same⟩ := BuiltinKind.check_asks flat spec.info raw
    rw [same]
    cases asks with
    | mismatch | length => exact .pure (.found _)
    | @node target named =>
      refine (hnode raw target _).bind_answer (fun n => ?_) (.pure trivial)
      exact .pure fun hn => .ok ⟨.node known named hn, rfl⟩
    | @choice group named =>
      refine (Choice.check_ensures hnode raw group _).bind_answer (fun n => ?_) (.pure trivial)
      exact .pure fun hn => .ok ⟨.choice known named hn, rfl⟩
    | @items vs shape fits =>
      cases hparts with
      | list h =>
        refine (Kind.checkItems_ensures h 0 vs).bind_answer (fun ws => ?_) (.pure trivial)
        refine .pure fun hws => .ok ⟨.list known shape fits ?_, rfl⟩
        exact hws.imp fun _ _ => And.right
      | _ => exact .pure (.found _)
    | @entries es shape =>
      cases hparts with
      | mapping hkey hvalue =>
        obtain ⟨l, kind, yields⟩ := regular.keys
        refine (Kind.checkEntries_ensures hkey hvalue
          (fun s v h => h.1.text kind yields) es false [] (by simp)).mono fun result h => ?_
        refine (h rfl).mono ?_
        rintro v ⟨fs, all, distinct, rfl⟩
        refine ⟨.mapping known shape ?_ distinct, rfl⟩
        exact all.imp fun _ _ h => ⟨h.1.2, h.2.2⟩
      | _ => exact .pure (.found _)
    | form =>
      cases hparts with
      | @either info primitive complex checkP checkC hprimitive hcomplex =>
        have form : Ensures ((if raw.isPrimitive = true then checkP else checkC) raw "")
            (Answers fun v =>
              Accepts rules NL VL (if raw.isPrimitive then primitive else complex) raw
                (place.setting.inside (.either info primitive complex)) v ∧
              VL (if raw.isPrimitive then primitive else complex) raw
                (place.setting.inside (.either info primitive complex)) v) := by
          split
          · exact hprimitive raw ""
          · exact hcomplex raw ""
        refine form.bind_answer (fun v => ?_) (.pure trivial)
        exact .pure fun hv => .ok ⟨.either known hv.2, hv.1.isUndefined_eq⟩
      | _ => exact .pure (.found _)

theorem checkAccepted_ensures {spec : FieldSpec} {raw v : Value} {path : List String}
    (held : v.isUndefined = false) :
    Ensures (checkAccepted rules spec raw v path) (Answers fun w => w = v ∧ spec.Passes v) := by
  unfold checkAccepted
  simp only [held, Bool.false_eq_true, if_false]
  split
  next none => exact .pure ⟨v, rfl, rfl, by simp [FieldSpec.Passes, none]⟩
  next check some =>
    refine (Ensures.lift _).bind fun verdict => ?_
    cases verdict with
    | pass => exact .pure fun pass => ⟨v, rfl, rfl, by simpa [FieldSpec.Passes, some] using pass⟩
    | fail => exact Ensures.report.bind fun _ => .pure fun no => no.elim
    | failWith => exact Ensures.report.bind fun _ => .pure fun no => no.elim

theorem checkAccepted_grows (spec : FieldSpec) (raw v : Value) (path : List String) :
    Ensures (checkAccepted rules spec raw v path) fun _ => True := by
  cases validator : spec.info.constraints.validator with
  | none =>
    simp only [checkAccepted, validator]
    exact .pure trivial
  | some check =>
    simp only [checkAccepted, validator]
    refine (Ensures.lift (check v)).bind fun verdict => ?_
    cases verdict with
    | pass => exact .pure fun _ => trivial
    | fail => exact Ensures.report.bind fun _ => .pure fun _ _ => trivial
    | failWith => exact Ensures.report.bind fun _ => .pure fun _ _ => trivial

theorem reportAll_ensures {path : List String} {raw : Value} (f : Finding) (fs : List Finding) :
    Ensures ((f :: fs).forM (reportFinding rules path raw)) fun _ => False := by
  have grows : Ensures (fs.forM (reportFinding rules path raw)) fun _ => True := by
    induction fs with
    | nil => exact .pure trivial
    | cons g gs ih => exact Ensures.report.bind fun _ => ih.mono fun _ _ _ => trivial
  exact Ensures.report.bind fun _ => grows.mono fun _ _ no => no

/-- A check without issues answers with null where it may be, or with what the kind made of the
value once the extra check has passed. -/
theorem checkWith_answers {ctx : KindContext Run} {parts : PartChecks Run} {spec : FieldSpec}
    {raw : Value} {path : List String} {P : Value → Prop}
    (h : (raw.isNull && !rules.registry.kinds.acceptsNull spec.kind) = false →
      Ensures (rules.registry.kinds.check spec.kind ctx parts spec raw)
        (Kind.Settles fun v => P v ∧ v.isUndefined = false)) :
    Ensures (checkWith rules ctx parts spec raw path) (Answers fun v =>
      raw = .null ∧ v = .null ∧ rules.registry.kinds.acceptsNull spec.kind = false ∧
        spec.info.nullable = true ∨
      (raw.isNull && !rules.registry.kinds.acceptsNull spec.kind) = false ∧
        raw.isUndefined = false ∧ P v ∧ v.isUndefined = false ∧ spec.Passes v) := by
  unfold checkWith
  refine Ensures.halted.bind fun stopped => ?_
  cases stopped with
  | true => exact .pure fun no => by cases no
  | false =>
    simp only [Bool.false_eq_true, if_false]
    split
    next null =>
      rw [Bool.and_eq_true, Bool.not_eq_true'] at null
      split
      next nullable =>
        cases raw with
        | null => exact .pure fun _ => ⟨.null, rfl, .inl ⟨rfl, rfl, null.2, nullable⟩⟩
        | _ => cases null.1
      next => exact Ensures.report.bind fun _ => .pure fun no => no.elim
    next present =>
      split
      next => exact Ensures.report.bind fun _ => .pure fun no => no.elim
      next defined =>
        rw [Bool.not_eq_true] at present defined
        refine (h present).bind fun result => ?_
        cases result with
        | error findings =>
          cases findings with
          | nil =>
            -- Without a finding there is no failure that settles.
            refine .pure fun settled => ?_
            rcases settled with ⟨f, fs, no⟩ | ⟨v, no, -⟩ <;> cases no
          | cons f fs =>
            refine (reportAll_ensures f fs).bind fun _ => .pure fun no => no.elim
        | ok v =>
          cases held : v.isUndefined with
          | true =>
            refine (checkAccepted_grows spec raw v path).mono fun _ _ settled => ?_
            rcases settled with ⟨f, fs, no⟩ | ⟨w, same, -, defined⟩
            · cases no
            · cases same
              cases held.symm.trans defined
          | false =>
            refine (checkAccepted_ensures held).mono fun answer hanswer settled => ?_
            obtain ⟨w, rfl, rfl, passes⟩ := hanswer
            rcases settled with ⟨f, fs, no⟩ | ⟨v, same, taken, -⟩
            · cases no
            · cases same
              exact fun _ => ⟨w, rfl, .inr ⟨present, defined, taken, held, passes⟩⟩

theorem checkWith_ensures {ctx : KindContext Run} {parts : PartChecks Run} {spec : FieldSpec}
    {raw : Value} {path : List String} {here : Setting}
    (h : (raw.isNull && !rules.registry.kinds.acceptsNull spec.kind) = false →
      Ensures (rules.registry.kinds.check spec.kind ctx parts spec raw)
        (Kind.Settles fun v => KindAccepts rules.registry.kinds NL
          (ChoiceAccepts rules.registry NL) VL spec raw here v ∧ v.isUndefined = false)) :
    Ensures (checkWith rules ctx parts spec raw path)
      (Answers (Accepts rules NL VL spec raw here)) := by
  refine (checkWith_answers h).mono fun answer hanswer => hanswer.mono fun v hv => ?_
  rcases hv with ⟨rfl, rfl, left, nullable⟩ | ⟨present, defined, taken, held, passes⟩
  · exact .null left nullable
  · exact .value present defined taken held passes

/-- A value that a run accepts without issues is accepted by the rules, for laws that hold of all
that the rules accept in such a run. -/
theorem checkSpec_ensures {Good : FieldSpec → Prop}
    (regular : ∀ spec, Good spec → spec.Regular rules.registry.kinds)
    (hnode : ∀ raw name place, Ensures (node raw name place) (Answers (NL raw name place.setting)))
    (closed : ∀ spec raw place v, spec.Every Good →
      Accepts rules NL VL spec raw place.setting v →
      Accepted (checkSpec rules node other spec raw place) (some v) →
      VL spec raw place.setting v)
    {spec : FieldSpec} (good : spec.Every Good) (raw : Value) (place : Place) :
    Ensures (checkSpec rules node other spec raw place)
      (Answers (Accepts rules NL VL spec raw place.setting)) := by
  -- What a part answers satisfies the law as well, because its own run comes to it.
  have lawful : ∀ {part : FieldSpec}, part.Every Good →
      (∀ raw place, Ensures (checkSpec rules node other part raw place)
        (Answers (Accepts rules NL VL part raw place.setting))) →
      ∀ raw place, Ensures (checkSpec rules node other part raw place)
        (Answers fun v => Accepts rules NL VL part raw place.setting v ∧
          VL part raw place.setting v) := by
    intro part hpart ih raw place
    refine ((ih raw place).and (ih raw place).accepted).mono ?_
    rintro _ ⟨⟨v, rfl, taken⟩, run⟩
    exact ⟨v, rfl, taken, closed part raw place v hpart taken run⟩
  induction spec generalizing raw place with
  | leaf info =>
    obtain ⟨k, known⟩ := (regular _ good.self).builtin
    refine checkWith_ensures fun present => ?_
    rw [known.check_eq]
    exact kind_ensures known (regular _ good.self) present hnode .leaf
  | list info item ih =>
    obtain ⟨k, known⟩ := (regular _ good.self).builtin
    refine checkWith_ensures fun present => ?_
    rw [known.check_eq]
    refine kind_ensures known (regular _ good.self) present hnode (.list fun raw label => ?_)
    exact lawful good.item (ih good.item) raw _
  | mapping info key value ihKey ihValue =>
    obtain ⟨k, known⟩ := (regular _ good.self).builtin
    refine checkWith_ensures fun present => ?_
    rw [known.check_eq]
    refine kind_ensures known (regular _ good.self) present hnode
      (.mapping (fun raw label => ?_) fun raw label => ?_)
    · exact lawful good.key (ihKey good.key) raw _
    · exact lawful good.value (ihValue good.value) raw _
  | either info primitive complex ihPrimitive ihComplex =>
    obtain ⟨k, known⟩ := (regular _ good.self).builtin
    refine checkWith_ensures fun present => ?_
    rw [known.check_eq]
    refine kind_ensures known (regular _ good.self) present hnode
      (.either (fun raw label => ?_) fun raw label => ?_)
    · exact lawful good.primitive (ihPrimitive good.primitive) raw _
    · exact lawful good.complex (ihComplex good.complex) raw _

/-- The law holds of what a run without issues comes to. -/
theorem checkSpec_lawful {Good : FieldSpec → Prop}
    (regular : ∀ spec, Good spec → spec.Regular rules.registry.kinds)
    (hnode : ∀ raw name place, Ensures (node raw name place) (Answers (NL raw name place.setting)))
    (closed : ∀ spec raw place v, spec.Every Good →
      Accepts rules NL VL spec raw place.setting v →
      Accepted (checkSpec rules node other spec raw place) (some v) →
      VL spec raw place.setting v)
    {spec : FieldSpec} (good : spec.Every Good) (raw : Value) (place : Place) :
    Ensures (checkSpec rules node other spec raw place)
      (Answers (VL spec raw place.setting)) := by
  have sound : Ensures (checkSpec rules node other spec raw place)
      (Answers (Accepts rules NL VL spec raw place.setting)) :=
    checkSpec_ensures regular hnode closed good raw place
  refine (sound.and sound.accepted).mono ?_
  rintro _ ⟨⟨v, rfl, taken⟩, run⟩
  exact ⟨v, rfl, closed spec raw place v good taken run⟩

end Validation

end ShapedTree
