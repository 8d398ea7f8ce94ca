import ShapedTree.Proofs.Validation.Mappings

namespace ShapedTree

open Run

namespace Kind

variable {rules : Rules} {byInteger : Bool} {key value : PartCheck Run}

/-- A mapping of sorted entries whose keys are lawful. -/
def Sorted (byInteger : Bool) (law : String → Prop) (v : Value) : Prop :=
  ∃ done : Entries Value, (done.map Prod.fst).Nodup ∧ (∀ k ∈ done.map Prod.fst, law k) ∧
    v = .record (sortMapping byInteger done) true

/-- Whatever was recorded, a mapping that is accepted is sorted, and its keys are lawful. -/
theorem checkEntries_sorted {law : String → Prop}
    (hkey : ∀ text label, Returns (key (.text text) label)
      fun k => ∀ t, k = some (.text t) → law t)
    {es : List (String × Value)} {failed : Bool} {past : Entries Value}
    (distinct : (past.map Prod.fst).Nodup) (lawful : ∀ k ∈ past.map Prod.fst, law k) :
    Returns (checkEntries (halted rules) byInteger key value failed past es)
      (Allows (Sorted byInteger law)) := by
  have ending : ∀ {failed : Bool} {past : Entries Value}, (past.map Prod.fst).Nodup →
      (∀ k ∈ past.map Prod.fst, law k) → Allows (Sorted byInteger law)
        (if failed then reported else .ok (.record (sortMapping byInteger past) true)) := by
    intro failed past distinct lawful
    cases failed with
    | true => exact .error
    | false => exact .ok ⟨past, distinct, lawful, rfl⟩
  induction es generalizing failed past with
  | nil => exact .pure (ending distinct lawful)
  | cons e rest ih =>
    have goes : ∀ {failed : Bool} {past : Entries Value}, (past.map Prod.fst).Nodup →
        (∀ k ∈ past.map Prod.fst, law k) →
        Returns (checkRest (halted rules) byInteger key value failed past rest)
          (Allows (Sorted byInteger law)) := by
      intro failed past distinct lawful
      refine Returns.bind fun stopped => ?_
      cases stopped with
      | true => exact .pure (ending distinct lawful)
      | false => exact ih distinct lawful
    rw [checkEntries_cons]
    refine (hkey e.1 _).bind_of fun k keyed => Returns.bind fun v => ?_
    cases entry : settled k v with
    | none => exact goes distinct lawful
    | some f =>
      obtain ⟨rfl, -⟩ := settled_eq_some.mp entry
      simp only
      split
      next => exact .pure .error
      next =>
        refine goes (Record.nodup_insert distinct f.1 f.2) fun k hk => ?_
        rcases Record.mem_keys_insert.mp hk with rfl | old
        · exact keyed f.1 rfl
        · exact lawful k old

end Kind

namespace Validation

variable {rules : Rules} {node : NodeRun} {other : ValueRun}

/-- A text that is taken as an integer comes out as the canonical spelling of one. -/
theorem checkSpec_integer {spec : FieldSpec} (known : rules.registry.kinds.Knows .integerText spec)
    (text : String) (place : Place) :
    Grants (checkSpec rules node other spec (.text text) place) Kind.KeyOfInteger := by
  have taken : Grants (checkSpec rules node other spec (.text text) place) (Permits fun v =>
      ∃ n : Int, n.natAbs < Number.exactLimit ∧ v = .text (Decimal.integerText n)) := by
    refine checkSpec_text known rfl (fun v verdict => ?_) place
    cases BuiltinKind.holds_of_verdict rfl verdict rfl with
    | integerText small => exact ⟨_, small, rfl⟩
  refine taken.mono fun answer permits s same => ?_
  obtain ⟨n, small, spelled⟩ := permits _ same
  exact ⟨n, small, Value.text.inj spelled⟩

theorem written_as_enumerated {out : Entries Value} (made : Record.ofList out = out) (o : Omission) :
    ∃ written, (Value.record out true).serialize o = .record written true ∧
      Record.ofList written = written ∧ written.map Prod.fst = out.map Prod.fst := by
  refine ⟨Value.serializeEntries o out, rfl, ?_, Node.keys_serializeEntries o out⟩
  rw [Value.serializeEntries_eq_map]
  exact (Record.ofList_map (fun _ => Value.serialize o) out).trans (by rw [made])

/-- An accepted mapping enumerates its array indices by their number and then its other keys in their
order. So its keys ascend exactly if no index belongs behind another key, which for integers means
that no index comes beside a negative one. Output enumerates the same keys in the same order. -/
theorem mapping_enumerates {info : FieldInfo} {key value : FieldSpec}
    (known : rules.registry.kinds.Knows .mapping (.mapping info key value))
    (integers : key.kind = PartChecks.integerKeys → rules.registry.kinds.Knows .integerText key)
    {raw : Value} {place : Place} {s t : RunState} {v : Value}
    (accepted : checkKind rules node other (.mapping info key value) raw place s =
      (.ok (.ok v), t)) :
    let byInteger := key.kind == PartChecks.integerKeys
    let before := Kind.KeyBefore byInteger
    ∃ out : Entries Value, v = .record out true ∧
      let keys := out.map Prod.fst
      keys.Pairwise (Record.Enumerated before) ∧
      (keys.Pairwise before ↔
        ∀ a ∈ keys, ∀ b ∈ keys, Record.Enumerated before a b → before a b) ∧
      (byInteger = true → (keys.Pairwise before ↔
        ∀ a ∈ keys, ∀ b ∈ keys, Kind.keyInteger a < 0 → Record.index? b = none)) ∧
      (∀ o, ∃ written, v.serialize o = .record written true ∧ Record.ofList written = written ∧
        written.map Prod.fst = keys) ∧
      ∀ (n : Node) (field : String) (o : Omission), (n.values.map Prod.fst).Nodup →
        n.values.lookup field = some v → n.keeps o field = true →
        (n.serialize o).lookup field = some (v.serialize o) := by
  intro byInteger before
  have sorted : Kind.Sorted byInteger (fun k => byInteger = true → ∃ n : Int,
      n.natAbs < Number.exactLimit ∧ k = Decimal.integerText n) v := by
    cases shape : raw.entries? with
    | none =>
      unfold checkKind at accepted
      rw [known.check_eq] at accepted
      simp only [BuiltinKind.check, Kind.checkMapping, shape] at accepted
      cases accepted
    | some es =>
      rw [checkKind_mapping known place shape] at accepted
      have start : (([] : Entries Value).map Prod.fst).Nodup := List.nodup_nil
      refine Kind.checkEntries_sorted (fun text label => ?_) start (List.forall_mem_nil _)
        _ _ _ accepted v rfl
      intro s k t run text' same numeric
      have canonical := checkSpec_integer (integers (eq_of_beq numeric)) text _ s k t run
      exact canonical.2 text' same
  obtain ⟨done, distinct, lawful, rfl⟩ := sorted
  have canonical : byInteger = true → Kind.IntegerKeys done :=
    fun numeric key hk => lawful key hk numeric
  have enumerated := Kind.enumerated_sortMapping distinct canonical
  exact ⟨_, rfl, enumerated, Record.pairwise_before_iff Kind.KeyBefore.asymm enumerated,
    fun numeric => Kind.integers_ascend_iff numeric distinct (canonical numeric),
    written_as_enumerated (Kind.ofList_sortMapping byInteger done),
    fun n field o single held kept => Node.lookup_serialize_kept single held kept⟩

end Validation

namespace Ranking

/-- A year before the first one, and the first one. -/
def years : Entries Value := [("-1", .number 1), ("1", .number 2)]

/-- The index is enumerated first. -/
def enumerated : Entries Value := [("1", .number 2), ("-1", .number 1)]

theorem years_taken :
    Validation.checkKind Library.lenient (Validation.checkNodeAt Library.lenient 2)
      (fun _ _ _ => pure none) ranks (.record years true) page {} =
        (.ok (.ok (.record enumerated true)), {}) := by
  have sorted : Kind.sortMapping true enumerated = enumerated := by
    have integers : Kind.IntegerKeys enumerated := by
      intro key hk
      rcases List.mem_pair.mp hk with rfl | rfl
      · exact ⟨1, by decide, rfl⟩
      · exact ⟨-1, by decide, rfl⟩
    have backwards : enumerated.Perm years := .swap _ _ []
    rw [Kind.sortMapping_perm (by decide) (fun _ => integers) backwards,
      Kind.sortMapping, if_pos rfl, List.mergeSort_of_pairwise (by simp [years]; rfl)]
    rfl
  rw [← sorted]
  rfl

/-- The years that were taken are not in ascending order. -/
theorem years_descend :
    Library.registry.kinds.Knows .mapping ranks ∧
      Validation.checkKind Library.lenient (Validation.checkNodeAt Library.lenient 2)
        (fun _ _ _ => pure none) ranks (.record years true) page {} =
          (.ok (.ok (.record enumerated true)), {}) ∧
      ¬ (enumerated.map Prod.fst).Pairwise (Kind.KeyBefore true) := by
  refine ⟨⟨rfl, rfl⟩, years_taken, fun ascending => ?_⟩
  have first : Kind.keyInteger "1" < Kind.keyInteger "-1" :=
    (List.pairwise_cons.mp ascending).1 "-1" (by simp)
  exact absurd first (by decide)

theorem years_enumerated :
    Library.registry.kinds.Knows .mapping ranks ∧
      Library.registry.kinds.Knows .integerText
        (.leaf { name := "year", kind := "integerstring" }) ∧
      (enumerated.map Prod.fst).Pairwise (Record.Enumerated (Kind.KeyBefore true)) := by
  have known : Library.registry.kinds.Knows .mapping ranks := ⟨rfl, rfl⟩
  have integer : Library.registry.kinds.Knows .integerText
    (.leaf { name := "year", kind := "integerstring" }) := ⟨rfl, rfl⟩
  obtain ⟨out, same, ordered, -⟩ :=
    Validation.mapping_enumerates known (fun _ => integer) years_taken
  cases same
  exact ⟨known, integer, ordered⟩

end Ranking

end ShapedTree
