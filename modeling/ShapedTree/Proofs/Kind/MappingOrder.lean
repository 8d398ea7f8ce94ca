import ShapedTree.Proofs.Record.Index
import ShapedTree.Proofs.Record.Sorting

namespace ShapedTree

namespace Kind

/-- The order of a mapping's keys. -/
def keyLE (byInteger : Bool) : String → String → Bool :=
  if byInteger then numericLE else Text.unitsLE

theorem sortMapping_eq (byInteger : Bool) (es : Entries Value) :
    sortMapping byInteger es = Record.sortBy (keyLE byInteger) es := by
  cases byInteger <;> rfl

theorem mem_of_mem_sortMapping {byInteger : Bool} {es : Entries Value} {e : String × Value}
    (h : e ∈ sortMapping byInteger es) : e ∈ es := by
  rw [sortMapping_eq] at h
  exact Record.mem_of_mem_sortBy h

theorem nodup_sortMapping (byInteger : Bool) (es : Entries Value) :
    ((sortMapping byInteger es).map Prod.fst).Nodup := by
  rw [sortMapping_eq]
  exact Record.nodup_sortBy es

theorem sortMapping_map (byInteger : Bool) (f : Value → Value) (es : Entries Value) :
    sortMapping byInteger (es.map fun e => (e.1, f e.2)) =
      (sortMapping byInteger es).map fun e => (e.1, f e.2) := by
  rw [sortMapping_eq, sortMapping_eq]
  exact Record.sortBy_map (fun _ => f) es

theorem ofList_sortMapping (byInteger : Bool) (es : Entries Value) :
    Record.ofList (sortMapping byInteger es) = sortMapping byInteger es := by
  rw [sortMapping_eq]
  exact Record.ofList_ofList _

/-- A record in its order stays in it, whatever is done to its values. -/
theorem sortMapping_ofList_map {byInteger : Bool} {es : Entries Value}
    (fixed : Record.ofList es = es) (sorted : sortMapping byInteger es = es) (f : Value → Value) :
    sortMapping byInteger (Record.ofList (es.map fun e => (e.1, f e.2))) =
      es.map fun e => (e.1, f e.2) := by
  rw [Record.ofList_map fun _ => f, fixed, sortMapping_map, sorted]

/-- The keys are canonical spellings of integers that numbers hold exactly. -/
def IntegerKeys (es : Entries Value) : Prop :=
  ∀ key ∈ es.map Prod.fst, ∃ n : Int, n.natAbs < Number.exactLimit ∧ key = Decimal.integerText n

/-- The integer of a key; what spells none counts as zero. -/
def keyInteger (key : String) : Int := (Numeral.integer? key).getD 0

theorem keyInteger_integerText (n : Int) : keyInteger (Decimal.integerText n) = n := by
  simp [keyInteger, Numeral.integer?_integerText]

theorem numericLE_integerText {m n : Int} (hm : m.natAbs < Number.exactLimit)
    (hn : n.natAbs < Number.exactLimit) :
    numericLE (Decimal.integerText m) (Decimal.integerText n) = decide (m ≤ n) := by
  unfold numericLE
  rw [Numeral.number?_integerText (by omega), Numeral.number?_integerText (by omega)]
  simp only [Number.ofInt, Number.lt, Rat.intCast_lt_intCast, ← decide_not, Int.not_lt]

/-- A linear order of the given keys that puts them as a mapping does. -/
structure Orders (byInteger : Bool) (keys : List String) (le : String → String → Bool) :
    Prop where
  trans : ∀ a b c, le a b = true → le b c = true → le a c = true
  total : ∀ a b, (le a b || le b a) = true
  antisymm : ∀ a ∈ keys, ∀ b ∈ keys, le a b = true → le b a = true → a = b
  agrees : ∀ a ∈ keys, ∀ b ∈ keys, keyLE byInteger a b = le a b

theorem Orders.sortMapping_eq {byInteger : Bool} {keys : List String}
    {le : String → String → Bool} (h : Orders byInteger keys le) {es : Entries Value}
    (known : ∀ k ∈ es.map Prod.fst, k ∈ keys) : sortMapping byInteger es = Record.sortBy le es := by
  rw [Kind.sortMapping_eq]
  exact Record.sortBy_congr fun a ha b hb => h.agrees a (known a ha) b (known b hb)

theorem exists_orders {byInteger : Bool} {es : Entries Value}
    (integers : byInteger = true → IntegerKeys es) :
    ∃ le, Orders byInteger (es.map Prod.fst) le := by
  cases byInteger with
  | false =>
    refine ⟨Text.unitsLE, ?_, Text.unitsLE_total, ?_, fun _ _ _ _ => rfl⟩
    · exact fun _ _ _ => Text.unitsLE_trans
    · exact fun _ _ _ _ => Text.unitsLE_antisymm
  | true =>
    -- On these keys the numeric order is the order of integers.
    refine ⟨fun a b => decide (keyInteger a ≤ keyInteger b), ?_, ?_, ?_, ?_⟩
    · intro a b c hab hbc
      simp only [decide_eq_true_eq] at *
      omega
    · intro a b
      simp only [Bool.or_eq_true, decide_eq_true_eq]
      omega
    · intro a ha b hb hab hba
      obtain ⟨m, hm, rfl⟩ := integers rfl a ha
      obtain ⟨n, hn, rfl⟩ := integers rfl b hb
      simp only [keyInteger_integerText, decide_eq_true_eq] at hab hba
      rw [show m = n by omega]
    · intro a ha b hb
      obtain ⟨m, hm, rfl⟩ := integers rfl a ha
      obtain ⟨n, hn, rfl⟩ := integers rfl b hb
      simp only [keyInteger_integerText]
      exact numericLE_integerText hm hn

theorem sortMapping_sortMapping {byInteger : Bool} {es : Entries Value}
    (integers : byInteger = true → IntegerKeys es) :
    sortMapping byInteger (sortMapping byInteger es) = sortMapping byInteger es := by
  obtain ⟨le, order⟩ := exists_orders integers
  have sorted : sortMapping byInteger es = Record.sortBy le es :=
    order.sortMapping_eq fun _ hk => hk
  rw [sorted, order.sortMapping_eq fun k hk => Record.mem_keys_sortBy.mp hk]
  exact Record.sortBy_sortBy order.trans order.total order.antisymm

/-- The order in which entries came does not show in a mapping. -/
theorem sortMapping_perm {byInteger : Bool} {es fs : Entries Value}
    (distinct : (es.map Prod.fst).Nodup) (integers : byInteger = true → IntegerKeys es)
    (h : es.Perm fs) : sortMapping byInteger es = sortMapping byInteger fs := by
  obtain ⟨le, order⟩ := exists_orders integers
  rw [order.sortMapping_eq fun _ hk => hk,
    order.sortMapping_eq fun _ hk => (h.map Prod.fst).mem_iff.mpr hk]
  exact Record.sortBy_perm order.trans order.total distinct order.antisymm h

/-- A key comes before another one: as an integer, or by units. -/
def KeyBefore (byInteger : Bool) (a b : String) : Prop :=
  if byInteger then keyInteger a < keyInteger b else Text.Before a b

theorem KeyBefore.asymm {byInteger : Bool} (a b : String) (h : KeyBefore byInteger a b) :
    ¬ KeyBefore byInteger b a := by
  intro h'
  cases byInteger with
  | true =>
    have forth : keyInteger a < keyInteger b := h
    have back : keyInteger b < keyInteger a := h'
    omega
  | false =>
    obtain ⟨le, apart⟩ := Text.before_iff.mp h
    exact apart (Text.unitsLE_antisymm le (Text.before_iff.mp h').1)

theorem IntegerKeys.keyBefore {byInteger : Bool} {es : Entries Value}
    (integers : byInteger = true → IntegerKeys es) {a b : String} (ha : a ∈ es.map Prod.fst)
    (hb : b ∈ es.map Prod.fst) (le : keyLE byInteger a b = true) (apart : a ≠ b) :
    KeyBefore byInteger a b := by
  cases byInteger with
  | true =>
    obtain ⟨m, hm, rfl⟩ := integers rfl a ha
    obtain ⟨n, hn, rfl⟩ := integers rfl b hb
    have ordered : m ≤ n := of_decide_eq_true ((numericLE_integerText hm hn).symm.trans le)
    have different : m ≠ n := by
      rintro rfl
      exact apart rfl
    show keyInteger _ < keyInteger _
    rw [keyInteger_integerText, keyInteger_integerText]
    omega
  | false => exact Text.before_iff.mpr ⟨le, apart⟩

/-- A sorted mapping enumerates its indices and then its other keys in order. -/
theorem enumerated_sortMapping {byInteger : Bool} {es : Entries Value}
    (distinct : (es.map Prod.fst).Nodup) (integers : byInteger = true → IntegerKeys es) :
    ((sortMapping byInteger es).map Prod.fst).Pairwise
      (Record.Enumerated (KeyBefore byInteger)) := by
  obtain ⟨le, order⟩ := exists_orders integers
  let sorted := es.mergeSort fun a b => le a.1 b.1
  have perm : sorted.Perm es := List.mergeSort_perm es _
  have apart : (sorted.map Prod.fst).Nodup := (perm.map Prod.fst).nodup_iff.mpr distinct
  have ascending : (sorted.map Prod.fst).Pairwise fun a b => le a b = true :=
    Record.ascending_mergeSort order.trans order.total es
  rw [order.sortMapping_eq fun _ hk => hk]
  refine Record.enumerated_ofList apart ((ascending.and apart).imp_of_mem ?_)
  rintro a b ha hb ⟨before, different⟩
  have known := fun {key} => ((perm.map Prod.fst).mem_iff (a := key)).mp
  rw [← order.agrees a (known ha) b (known hb)] at before
  exact IntegerKeys.keyBefore integers (known ha) (known hb) before different

theorem keyInteger_of_index {key : String} {i : Nat} (h : Record.index? key = some i) :
    keyInteger key = i ∧ i ≤ Record.largestIndex := by
  obtain ⟨rfl, bounded⟩ := Record.index?_eq_some.mp h
  exact ⟨keyInteger_integerText i, bounded⟩

/-- Integers are enumerated in ascending order exactly if no index comes beside a negative one. -/
theorem enumerated_integers_iff {keys : List String}
    (integers : ∀ key ∈ keys, ∃ n : Int, key = Decimal.integerText n) :
    (∀ a ∈ keys, ∀ b ∈ keys, Record.Enumerated (KeyBefore true) a b → KeyBefore true a b) ↔
      ∀ a ∈ keys, ∀ b ∈ keys, keyInteger a < 0 → Record.index? b = none := by
  constructor
  · intro agree a ha b hb negative
    cases index : Record.index? b with
    | none => rfl
    | some j =>
      -- A negative key is no index, so the index `b` is enumerated before it.
      have other : Record.index? a = none := by
        cases ofA : Record.index? a with
        | none => rfl
        | some i =>
          have := keyInteger_of_index ofA
          omega
      have first : Record.Enumerated (KeyBefore true) b a := by
        simp only [Record.Enumerated, index, other]
      have less : keyInteger b < keyInteger a := agree b hb a ha first
      have := keyInteger_of_index index
      omega
  · intro beside a ha b hb first
    show keyInteger a < keyInteger b
    unfold Record.Enumerated at first
    cases ofA : Record.index? a with
    | none =>
      cases ofB : Record.index? b with
      | none =>
        simp only [ofA, ofB] at first
        exact first
      | some j => simp only [ofA, ofB] at first
    | some i =>
      have left := keyInteger_of_index ofA
      cases ofB : Record.index? b with
      | some j =>
        simp only [ofA, ofB] at first
        have right := keyInteger_of_index ofB
        omega
      | none =>
        -- Beside an index, a key that is none is larger than every index.
        obtain ⟨n, rfl⟩ := integers b hb
        have nonnegative : ¬ n < 0 := by
          intro negative
          have none := beside _ hb a ha (by rwa [keyInteger_integerText])
          cases ofA.symm.trans none
        have large : ¬ n.toNat ≤ Record.largestIndex := by
          intro bounded
          cases ofB.symm.trans (Record.index?_integerText.mpr ⟨by omega, bounded⟩)
        rw [keyInteger_integerText]
        omega

/-- A mapping of integers ascends exactly if no index comes beside a negative one. -/
theorem integers_ascend_iff {byInteger : Bool} (numeric : byInteger = true) {es : Entries Value}
    (distinct : (es.map Prod.fst).Nodup) (integers : IntegerKeys es) :
    ((sortMapping byInteger es).map Prod.fst).Pairwise (KeyBefore byInteger) ↔
      ∀ a ∈ (sortMapping byInteger es).map Prod.fst,
        ∀ b ∈ (sortMapping byInteger es).map Prod.fst,
          keyInteger a < 0 → Record.index? b = none := by
  subst numeric
  have enumerated : ((sortMapping true es).map Prod.fst).Pairwise _ :=
    enumerated_sortMapping distinct fun _ => integers
  refine (Record.pairwise_before_iff KeyBefore.asymm enumerated).trans
    (enumerated_integers_iff fun key hk => ?_)
  obtain ⟨e, he, rfl⟩ := List.mem_map.mp hk
  obtain ⟨n, -, spelled⟩ := integers e.1 (List.mem_map_of_mem (mem_of_mem_sortMapping he))
  exact ⟨n, spelled⟩

end Kind

end ShapedTree
