import Mathlib.Data.List.Duplicate
import ShapedTree.Proofs.Run.Recording
import ShapedTree.Proofs.Validation.Discriminators
import ShapedTree.Proofs.Validation.EntryOrder

namespace ShapedTree

open Run ShapedTree.Computation

/-- What a computation answers in a run of its own. -/
def Run.Gives {α : Type} (x : Run (Option α)) (a : α) : Prop := (x {}).1 = .ok (some a)

theorem Run.Gives.unique {α : Type} {x : Run (Option α)} {a b : α} (h : Gives x a)
    (h' : Gives x b) : a = b := Option.some.inj (Except.ok.inj (h.symm.trans h'))

namespace Kind

variable {rules : Rules} {byInteger : Bool} {key value : PartCheck Run}

/-- An entry of a raw mapping comes to an entry of the mapping: its key to a text, and its value. -/
structure ComesTo (key value : PartCheck Run) (e f : String × Value) : Prop where
  key : Gives (key (.text e.1) (Validation.entryLabel e.1)) (.text f.1)
  value : Gives (value e.2 (Validation.entryLabel e.1)) f.2

theorem ComesTo.unique {e f g : String × Value} (h : ComesTo key value e f)
    (h' : ComesTo key value e g) : f = g :=
  Prod.ext (Value.text.inj (h.key.unique h'.key)) (h.value.unique h'.value)

theorem comesTo_unique {es fs gs : List (String × Value)}
    (h : List.Forall₂ (ComesTo key value) es fs) (h' : List.Forall₂ (ComesTo key value) es gs) :
    fs = gs := by
  induction h generalizing gs with
  | nil =>
    cases h'
    rfl
  | cons first _ ih =>
    cases h' with
    | cons first' rest' => rw [first.unique first', ih rest']

theorem comesTo_of_gives {e : String × Value}
    (text : ∀ k, Gives (key (.text e.1) (Validation.entryLabel e.1)) k → ∃ t, k = .text t)
    (accepted : (∃ k, Gives (key (.text e.1) (Validation.entryLabel e.1)) k) ∧
      ∃ v, Gives (value e.2 (Validation.entryLabel e.1)) v) :
    ∃ f, ComesTo key value e f := by
  obtain ⟨⟨k, keyed⟩, v, valued⟩ := accepted
  obtain ⟨t, rfl⟩ := text k keyed
  exact ⟨(t, v), keyed, valued⟩

/-- Without a halt, the first entry is checked and then the others, unless its key is there. -/
theorem checkEntries_batch (batch : rules.errors = .batch) (failed : Bool) (done : Entries Value)
    (e : String × Value) (rest : List (String × Value)) :
    checkEntries (halted rules) byInteger key value failed done (e :: rest) = (do
      let k ← key (.text e.1) (Validation.entryLabel e.1)
      let v ← value e.2 (Validation.entryLabel e.1)
      match settled k v with
      | some f =>
        if Entries.has done f.1 then
          return violation s!"after normalizing, the key '{f.1}' occurs more than once"
        else checkEntries (halted rules) byInteger key value failed (Record.insert done f.1 f.2) rest
      | none => checkEntries (halted rules) byInteger key value true done rest) := by
  have goes : ∀ failed done, checkRest (halted rules) byInteger key value failed done rest =
      checkEntries (halted rules) byInteger key value failed done rest := by
    intro failed done
    funext s
    unfold checkRest
    rw [bind_of_ok (halted_apply rules s), batch]
    rfl
  have step : checkEntries (halted rules) byInteger key value failed done (e :: rest) = _ :=
    checkEntries_cons (halted rules) failed done e rest
  simp only [goes] at step
  exact step

/-- What a mapping comes to whose entries have all come to entries. -/
inductive Merges (byInteger : Bool) (fs : List (String × Value)) : KindResult → Prop
  | distinct (distinct : (fs.map Prod.fst).Nodup) :
      Merges byInteger fs (.ok (.record (sortMapping byInteger (Record.ofList fs)) true))
  | repeated {k : String} (twice : List.Duplicate k (fs.map Prod.fst)) :
      Merges byInteger fs (violation s!"after normalizing, the key '{k}' occurs more than once")

section

variable (batch : rules.errors = .batch)
  (hkey : ∀ text label, Oblivious (key (.text text) label) fun _ => True)
  (hvalue : ∀ raw label, Oblivious (value raw label) fun _ => True)

include batch hkey hvalue

theorem checkEntries_merges {es fs : List (String × Value)}
    (all : List.Forall₂ (ComesTo key value) es fs) (past : List (String × Value))
    (distinct : (past.map Prod.fst).Nodup) (s : RunState) :
    ∃ result t, checkEntries (halted rules) byInteger key value false (Record.ofList past) es s =
      (.ok result, t) ∧ Merges byInteger (past ++ fs) result := by
  induction all generalizing past s with
  | nil =>
    rw [List.append_nil]
    exact ⟨_, s, rfl, .distinct distinct⟩
  | @cons e f es fs first _ ih =>
    obtain ⟨s₁, keyed⟩ := (hkey e.1 _).comes first.key s
    obtain ⟨s₂, valued⟩ := (hvalue e.2 _).comes first.value s₁
    rw [checkEntries_batch batch, bind_of_ok keyed, bind_of_ok valued]
    have entry : settled (some (.text f.1)) (some f.2) = some f := settled_eq_some.mpr ⟨rfl, rfl⟩
    simp only [entry]
    split
    next old =>
      have before : f.1 ∈ past.map Prod.fst := Record.mem_keys_ofList.mp (Entries.has_iff.mp old)
      refine ⟨_, s₂, rfl, .repeated ?_⟩
      rw [List.duplicate_iff_sublist, List.map_append]
      exact (List.singleton_sublist.mpr before).append (List.singleton_sublist.mpr (by simp))
    next new =>
      have step := ih _ (nodup_concat distinct new) s₂
      rwa [Record.ofList_concat, List.append_assoc] at step

/-- A mapping that is accepted has had no failure, and its entries have come to what it holds. -/
theorem merges_of_checkEntries {es : List (String × Value)} (past : List (String × Value))
    {failed : Bool} (distinct : (past.map Prod.fst).Nodup) {s t : RunState} {v : Value}
    (run : checkEntries (halted rules) byInteger key value failed (Record.ofList past) es s =
      (.ok (.ok v), t)) :
    failed = false ∧ ∃ fs, List.Forall₂ (ComesTo key value) es fs ∧
      ((past ++ fs).map Prod.fst).Nodup ∧
      v = .record (sortMapping byInteger (Record.ofList (past ++ fs))) true := by
  induction es generalizing past failed s with
  | nil =>
    cases failed with
    | true => cases run
    | false =>
      cases run
      exact ⟨rfl, [], .nil, by simpa using distinct, by rw [List.append_nil]⟩
  | cons e rest ih =>
    rw [checkEntries_batch batch] at run
    obtain ⟨k, s₁, keyed, run⟩ := bind_eq_ok run
    obtain ⟨w, s₂, valued, run⟩ := bind_eq_ok run
    cases entry : settled k w with
    | none =>
      rw [entry] at run
      cases (ih past distinct run).1
    | some f =>
      simp only [entry] at run
      split at run
      next => cases run
      next new =>
        rw [← Record.ofList_concat] at run
        obtain ⟨going, fs, all, apart, rfl⟩ := ih _ (nodup_concat distinct new) run
        obtain ⟨rfl, rfl⟩ := settled_eq_some.mp entry
        rw [List.append_assoc] at apart ⊢
        have keyLaw := ((hkey _ _).split keyed).2.1
        have valueLaw := ((hvalue _ _).split valued).2.1
        exact ⟨going, f :: fs, .cons ⟨keyLaw, valueLaw⟩ all, apart, rfl⟩

/-- The entries come to a mapping exactly if all of them are accepted and no two of their keys are the
same. -/
theorem checkEntries_accepts_iff {es : List (String × Value)}
    (texts : ∀ e ∈ es, ∀ k, Gives (key (.text e.1) (Validation.entryLabel e.1)) k →
      ∃ t, k = .text t) (s : RunState) :
    (∃ v t, checkEntries (halted rules) byInteger key value false [] es s = (.ok (.ok v), t)) ↔
      (∀ e ∈ es, (∃ k, Gives (key (.text e.1) (Validation.entryLabel e.1)) k) ∧
        ∃ v, Gives (value e.2 (Validation.entryLabel e.1)) v) ∧
      ∀ fs, List.Forall₂ (ComesTo key value) es fs → (fs.map Prod.fst).Nodup := by
  constructor
  · rintro ⟨v, t, run⟩
    obtain ⟨-, fs, all, distinct, -⟩ :=
      merges_of_checkEntries batch hkey hvalue [] List.nodup_nil run
    refine ⟨fun e he => ?_, fun gs all' => comesTo_unique all all' ▸ distinct⟩
    obtain ⟨f, -, comes⟩ := exists_left_of_mem all.flip e he
    exact ⟨⟨_, comes.key⟩, _, comes.value⟩
  · rintro ⟨accepted, distinct⟩
    obtain ⟨fs, all⟩ := exists_forall₂ fun e he => comesTo_of_gives (texts e he) (accepted e he)
    obtain ⟨result, t, run, merged⟩ :=
      checkEntries_merges batch hkey hvalue all [] List.nodup_nil s
    cases merged with
    | distinct => exact ⟨_, t, run⟩
    | repeated twice =>
      exact (List.exists_duplicate_iff_not_nodup.mp ⟨_, twice⟩ (distinct fs all)).elim

end

theorem sortMapping_perm_self {es : Entries Value} (distinct : (es.map Prod.fst).Nodup) :
    (sortMapping byInteger es).Perm es := by
  rw [sortMapping_eq, Record.sortBy]
  have sorted := List.mergeSort_perm es fun a b => keyLE byInteger a.1 b.1
  exact (Record.ofList_perm ((sorted.map Prod.fst).nodup_iff.mpr distinct)).trans sorted

end Kind

namespace Validation

variable {rules : Rules} {node : NodeRun} {other : ValueRun}

/-- A specification that keeps texts answers a text with a text, if at all. -/
theorem checkSpec_textual {spec : FieldSpec}
    (builtin : spec.Every (FieldSpec.Builtin rules.registry.kinds)) (keeps : spec.KeepsTexts)
    (text : String) (place : Place) :
    Grants (checkSpec rules node other spec (.text text) place)
      (Permits fun v => ∃ t, v = .text t) := by
  induction keeps generalizing place with
  | @plain spec k kind keeps =>
    obtain ⟨l, known⟩ := builtin.self
    obtain rfl : k = l := BuiltinKind.tag_injective (kind.symm.trans known.1)
    rw [checkSpec_eq]
    refine checkWith_grants known ?_
    cases flat : k.isNested with
    | false =>
      refine (BuiltinKind.check_grants flat rfl _ _).mono fun result settles v same => ?_
      rcases settles with ⟨f, fs, no⟩ | ⟨w, taken, verdict⟩
      · cases same.symm.trans no
      · cases same.symm.trans taken
        exact BuiltinKind.text_of_keepsTexts keeps flat verdict
    | true =>
      cases k with
      | list | mapping => exact .pure .error
      | node | choice | either => cases keeps
      | _ => cases flat
  | @either info primitive complex kind form ih =>
    obtain ⟨k, known⟩ := builtin.self
    cases BuiltinKind.tag_injective (kind.symm.trans known.1)
    refine checkWith_grants known ?_
    refine (ih builtin.primitive _).bind fun answer held => ?_
    cases answer with
    | none => exact .pure .error
    | some v => exact .pure (.ok (held v rfl))

/-- The kind of a specification checks a value at a place. -/
def checkKind (rules : Rules) (node : NodeRun) (other : ValueRun) (spec : FieldSpec) (raw : Value)
    (place : Place) : Run KindResult :=
  rules.registry.kinds.check spec.kind (context rules node other spec place)
    (.ofSpec (fun part raw label =>
      checkSpec rules node other part raw ((place.inside spec).labelled label)) spec) spec raw

theorem checkKind_mapping {info : FieldInfo} {key value : FieldSpec}
    (known : rules.registry.kinds.Knows .mapping (.mapping info key value)) (place : Place)
    {raw : Value} {es : Entries Value} (shape : raw.entries? = some es) :
    checkKind rules node other (.mapping info key value) raw place =
      Kind.checkEntries (halted rules) (key.kind == PartChecks.integerKeys)
        (fun raw label => checkSpec rules node other key raw
          ((place.inside (.mapping info key value)).labelled label))
        (fun raw label => checkSpec rules node other value raw
          ((place.inside (.mapping info key value)).labelled label)) false [] es := by
  unfold checkKind
  rw [known.check_eq]
  simp only [BuiltinKind.check, Kind.checkMapping, shape]
  rfl

/-- The mapping kind accepts a record exactly if all keys and values are accepted and no two keys are
the same once normalized. The mapping then holds what the entries come to, one entry for each; and
if only the keys stand against it, the result says so. -/
theorem mapping_keeps_entries (batch : rules.errors = .batch)
    (plain : rules.registry.Every (FieldSpec.Memoryless rules.registry.kinds))
    {info : FieldInfo} {key value : FieldSpec}
    (known : rules.registry.kinds.Knows .mapping (.mapping info key value))
    (parts : (FieldSpec.mapping info key value).Every
      (FieldSpec.Memoryless rules.registry.kinds))
    (textual : key.KeepsTexts) (levels : Nat) (other : ValueRun) (place : Place) {raw : Value}
    {es : Entries Value} (shape : raw.entries? = some es) (s : RunState) :
    let node := checkNodeAt rules levels
    let kind := checkKind rules node other (.mapping info key value) raw place
    let part := fun spec raw label => checkSpec rules node other spec raw
      ((place.inside (.mapping info key value)).labelled label)
    let Accepted := ∀ e ∈ es, (∃ k, Gives (part key (.text e.1) (entryLabel e.1)) k) ∧
      ∃ v, Gives (part value e.2 (entryLabel e.1)) v
    let Normal := List.Forall₂ (Kind.ComesTo (part key) (part value)) es
    ((∃ v t, kind s = (.ok (.ok v), t)) ↔
      Accepted ∧ ∀ fs, Normal fs → (fs.map Prod.fst).Nodup) ∧
    (∀ v t, kind s = (.ok (.ok v), t) →
      ∃ fs out, Normal fs ∧ v = .record out true ∧ out.Perm fs) ∧
    (Accepted → ∃ fs, Normal fs ∧ (¬ (fs.map Prod.fst).Nodup →
      ∃ k t, List.Duplicate k (fs.map Prod.fst) ∧ kind s =
        (.ok (Kind.violation s!"after normalizing, the key '{k}' occurs more than once"), t))) := by
  intro node kind part Accepted Normal
  let C := freePremises (L := .oblivious batch) id plain
  have admits : (FieldSpec.mapping info key value).Every C.Admits :=
    parts.mono fun _ h => h.admits id
  -- The checks of the parts come to the same answers whatever was recorded before.
  have holds : ∀ spec : FieldSpec, spec.Every C.Admits → ∀ raw label,
      Oblivious (part spec raw label) fun _ => True := by
    intro spec admitted raw label
    have nodes := checkNodeAt_holds (L := .oblivious batch) id plain levels (place.depth + 1)
    have checked : Oblivious (part spec raw label) _ :=
      checkSpec_holds nodes spec admitted raw _ trivial ⟨trivial, fun _ _ _ _ => trivial, rfl⟩
    exact checked.mono fun _ _ => trivial
  have keys := fun text label => holds key admits.key (.text text) label
  have values := holds value admits.value
  have texts : ∀ e ∈ es, ∀ k, Gives (part key (.text e.1) (entryLabel e.1)) k →
      ∃ t, k = .text t := by
    intro e he k keyed
    have builtin := (parts.mono fun _ h => h.builtin).key
    exact (checkSpec_textual builtin textual e.1 _ {} _ _ (Prod.ext keyed rfl)).2 k rfl
  have runs : kind = Kind.checkEntries (halted rules) _ (part key) (part value) false [] es :=
    checkKind_mapping known place shape
  rw [runs]
  refine ⟨Kind.checkEntries_accepts_iff batch keys values texts s, fun v t run => ?_,
    fun accepted => ?_⟩
  · obtain ⟨-, fs, normal, distinct, rfl⟩ :=
      Kind.merges_of_checkEntries batch keys values [] List.nodup_nil run
    refine ⟨fs, _, normal, rfl, ?_⟩
    exact (Kind.sortMapping_perm_self (Record.nodup_ofList fs)).trans (Record.ofList_perm distinct)
  · obtain ⟨fs, normal⟩ :=
      exists_forall₂ fun e he => Kind.comesTo_of_gives (texts e he) (accepted e he)
    refine ⟨fs, normal, fun collide => ?_⟩
    obtain ⟨result, t, run, merged⟩ :=
      Kind.checkEntries_merges batch keys values normal [] List.nodup_nil s
    cases merged with
    | distinct distinct => exact (collide distinct).elim
    | repeated twice => exact ⟨_, t, twice, run⟩

end Validation

namespace Ranking

def ranks : FieldSpec :=
  .mapping { name := "ranks", kind := "mapping" } (.leaf { name := "year", kind := "integerstring" })
    (.leaf { name := "rank", kind := "integer" })

theorem ranks_memoryless : ranks.Every (FieldSpec.Memoryless Library.registry.kinds) := by
  have plain : ∀ part ∈ ranks.walk, part.FixedPattern ∧ part.PureDefault := by
    simp [ranks, FieldSpec.walk, FieldSpec.FixedPattern, FieldSpec.PureDefault, FieldSpec.info]
  have builtin : ranks.Every (FieldSpec.Builtin Library.registry.kinds) := by
    simp only [FieldSpec.Every, ranks, FieldSpec.walk, List.forall_mem_cons, List.cons_append,
      List.nil_append, List.not_mem_nil, false_imp_iff, implies_true, and_true]
    exact ⟨⟨.mapping, rfl, rfl⟩, ⟨.integerText, rfl, rfl⟩, ⟨.integer, rfl, rfl⟩⟩
  exact fun part hp => ⟨builtin part hp, (plain part hp).1, (plain part hp).2⟩

/-- The ranks of an album on its own page. -/
def page : Place := ⟨["album.ranks"], [], {}, 0⟩

/-- The same year comes twice, once with a leading zero. -/
def doubled : Entries Value := [("7", .number 1), ("07", .number 2)]

/-- Both years are taken by themselves, but not together. -/
theorem doubled_refused :
    Library.lenient.errors = .batch ∧
      Library.registry.Every (FieldSpec.Memoryless Library.registry.kinds) ∧
      Library.registry.kinds.Knows .mapping ranks ∧
      ranks.Every (FieldSpec.Memoryless Library.registry.kinds) ∧
      (FieldSpec.leaf { name := "year", kind := "integerstring" }).KeepsTexts ∧
      ∃ t, Validation.checkKind Library.lenient (Validation.checkNodeAt Library.lenient 2)
        (fun _ _ _ => pure none) ranks (.record doubled true) page {} =
          (.ok (Kind.violation "after normalizing, the key '7' occurs more than once"), t) := by
  have batch : Library.lenient.errors = .batch := rfl
  have known : Library.registry.kinds.Knows .mapping ranks := ⟨rfl, rfl⟩
  have textual : (FieldSpec.leaf { name := "year", kind := "integerstring" }).KeepsTexts :=
    .plain (k := .integerText) rfl rfl
  refine ⟨batch, Library.registry_memoryless, known, ranks_memoryless, textual, ?_⟩
  have shape : (Value.record doubled true).entries? = some doubled := rfl
  obtain ⟨-, -, collide⟩ := Validation.mapping_keeps_entries batch Library.registry_memoryless known
    ranks_memoryless textual 2 (fun _ _ _ => pure none) page shape {}
  have accepted : ∀ {P : String × Value → Prop}, P ("7", .number 1) → P ("07", .number 2) →
      ∀ e ∈ doubled, P e := by
    intro P first second
    simpa [doubled] using ⟨first, second⟩
  obtain ⟨fs, normal, twice⟩ := collide (accepted ⟨⟨.text "7", rfl⟩, .number 1, rfl⟩
    ⟨⟨.text "7", rfl⟩, .number 2, rfl⟩)
  obtain rfl : fs = [("7", .number 1), ("7", .number 2)] :=
    Kind.comesTo_unique normal (.cons ⟨rfl, rfl⟩ (.cons ⟨rfl, rfl⟩ .nil))
  obtain ⟨k, t, again, run⟩ := twice (by decide)
  obtain rfl : k = "7" := by simpa using again.mem
  exact ⟨t, run⟩

end Ranking

end ShapedTree
