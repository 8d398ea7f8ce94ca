import ShapedTree.Proofs.Value.Copy
import ShapedTree.Proofs.Value.Reordering

namespace ShapedTree

namespace Value

/-- A finite tree of null, booleans, finite numbers, texts, lists and records. -/
inductive PlainData : Value → Prop
  | null : PlainData .null
  | bool (b : Bool) : PlainData (.bool b)
  | text (s : String) : PlainData (.text s)
  | number {n : Number} (finite : n.isFinite = true) : PlainData (.number n)
  | list {vs : List Value} (items : ∀ v ∈ vs, PlainData v) : PlainData (.list vs)
  | record {es : Entries Value} {plain : Bool} (values : ∀ e ∈ es, PlainData e.2) :
      PlainData (.record es plain)

/-- A list somewhere in a value misses an item. -/
inductive Gap : Value → Prop
  | hole {vs : List Value} (missing : Value.hole ∈ vs) : Gap (.list vs)
  | item {vs : List Value} {v : Value} (mem : v ∈ vs) (gap : Gap v) : Gap (.list vs)
  | entry {es : Entries Value} {plain : Bool} {e : String × Value} (mem : e ∈ es) (gap : Gap e.2) :
      Gap (.record es plain)

theorem isHole_iff {v : Value} : v.isHole = true ↔ v = .hole := by
  cases v <;> simp [isHole]

theorem gap_list_iff {vs : List Value} : (Value.list vs).Gap ↔ .hole ∈ vs ∨ ∃ v ∈ vs, v.Gap := by
  constructor
  · rintro (missing | ⟨mem, gap⟩)
    · exact .inl missing
    · exact .inr ⟨_, mem, gap⟩
  · rintro (missing | ⟨v, mem, gap⟩)
    · exact .hole missing
    · exact .item mem gap

theorem gap_record_iff {es : Entries Value} {plain : Bool} :
    (Value.record es plain).Gap ↔ ∃ e ∈ es, e.2.Gap := by
  constructor
  · rintro (_ | _ | ⟨mem, gap⟩)
    exact ⟨_, mem, gap⟩
  · rintro ⟨e, mem, gap⟩
    exact .entry mem gap

theorem areJson_iff {vs : List Value} :
    areJson vs = true ↔ ∀ v ∈ vs, v = .hole ∨ v.isJson = true := by
  induction vs with
  | nil => simp [areJson]
  | cons v vs ih => simp [areJson, ih, isHole_iff]

theorem haveJson_iff {es : Entries Value} : haveJson es = true ↔ ∀ e ∈ es, e.2.isJson = true := by
  induction es with
  | nil => simp [haveJson]
  | cons e es ih => simp [haveJson, ih]

mutual

/-- What passes the test is plain data but for the items that lists miss. -/
theorem plainData_of_isJson : ∀ {v : Value}, v.isJson = true → ¬ v.Gap → v.PlainData
  | .null, _, _ => .null
  | .bool b, _, _ => .bool b
  | .text s, _, _ => .text s
  | .number _, finite, _ => .number finite
  | .list _, items, whole =>
    .list (plainData_of_areJson items (fun missing => whole (.hole missing)) fun _ mem gap =>
      whole (.item mem gap))
  | .record _ _, values, whole =>
    .record (plainData_of_haveJson values fun _ mem gap => whole (.entry mem gap))
  | .undefined, h, _ | .hole, h, _ | .bigint _, h, _ | .exotic _, h, _ | .knot, h, _
  | .node _, h, _ => by
    cases h
termination_by structural v => v

theorem plainData_of_areJson : ∀ {vs : List Value}, areJson vs = true → .hole ∉ vs →
    (∀ v ∈ vs, ¬ v.Gap) → ∀ v ∈ vs, v.PlainData
  | [], _, _, _ => by simp
  | v :: vs, h, there, whole => by
    obtain ⟨first, others⟩ := Bool.and_eq_true_iff.mp h
    rw [List.mem_cons, not_or] at there
    rw [List.forall_mem_cons] at whole
    rw [Bool.or_eq_true, isHole_iff] at first
    exact List.forall_mem_cons.mpr
      ⟨plainData_of_isJson (first.resolve_left (Ne.symm there.1)) whole.1,
        plainData_of_areJson others there.2 whole.2⟩
termination_by structural vs => vs

theorem plainData_of_haveJson : ∀ {es : Entries Value}, haveJson es = true →
    (∀ e ∈ es, ¬ e.2.Gap) → ∀ e ∈ es, e.2.PlainData
  | [], _, _ => by simp
  | (_, v) :: es, h, whole => by
    obtain ⟨first, others⟩ := Bool.and_eq_true_iff.mp h
    rw [List.forall_mem_cons] at whole
    exact List.forall_mem_cons.mpr
      ⟨plainData_of_isJson first whole.1, plainData_of_haveJson others whole.2⟩
termination_by structural es => es

end

theorem PlainData.isJson {v : Value} (data : v.PlainData) : v.isJson = true := by
  induction data with
  | null | bool | text => rfl
  | number finite => exact finite
  | list _ ih => exact areJson_iff.mpr fun v mem => .inr (ih v mem)
  | record _ ih => exact haveJson_iff.mpr ih

theorem PlainData.whole {v : Value} (data : v.PlainData) : ¬ v.Gap := by
  induction data with
  | null | bool | text | number => exact nofun
  | list items ih =>
    rintro (missing | ⟨mem, gap⟩)
    · exact nomatch items .hole missing
    · exact ih _ mem gap
  | record _ ih =>
    rintro (_ | _ | ⟨mem, gap⟩)
    exact ih _ mem gap

/-- Plain data is what passes the test and misses no item of a list. -/
theorem plainData_iff {v : Value} : v.PlainData ↔ v.isJson = true ∧ ¬ v.Gap :=
  ⟨fun data => ⟨data.isJson, data.whole⟩, fun ⟨passed, whole⟩ => plainData_of_isJson passed whole⟩

theorem plainData_of_jsonCopy? {v c : Value} (copy : v.jsonCopy? = some c) : v.PlainData := by
  refine Copying.of_jsonCopy? (P := fun v _ => v.PlainData) ?_ copy
  exact {
    null := .null
    bool := .bool
    text := .text
    number := .number
    list := fun items => .list fun v mem =>
      (exists_left_of_mem items.flip v mem).elim fun _ pair => pair.2
    record := fun values => .record fun e mem =>
      (exists_left_of_mem values.flip e mem).elim fun _ pair => pair.2.2 }

theorem PlainData.copied {v : Value} (data : v.PlainData) : ∃ c, v.jsonCopy? = some c := by
  induction data with
  | null => exact ⟨_, rfl⟩
  | bool => exact ⟨_, rfl⟩
  | text => exact ⟨_, rfl⟩
  | number finite => exact ⟨_, if_pos finite⟩
  | list _ ih =>
    obtain ⟨cs, copies⟩ := exists_forall₂ ih
    exact ⟨_, by rw [jsonCopy?, copyItems?_eq_some.mpr copies, Option.map_some]⟩
  | @record es _ _ ih =>
    have each : ∀ e ∈ es, ∃ c : String × Value, e.1 = c.1 ∧ e.2.jsonCopy? = some c.2 :=
      fun e mem => (ih e mem).elim fun c copy => ⟨(e.1, c), rfl, copy⟩
    obtain ⟨cs, copies⟩ := exists_forall₂ each
    exact ⟨_, by rw [jsonCopy?, copyEntries?_eq_some.mpr copies, Option.map_some]⟩

/-- A value has a copy exactly if it is plain data. -/
theorem isSome_jsonCopy?_iff {v : Value} : v.jsonCopy?.isSome = true ↔ v.PlainData := by
  rw [Option.isSome_iff_exists]
  exact ⟨fun ⟨_, copy⟩ => plainData_of_jsonCopy? copy, PlainData.copied⟩

/-- Where no list misses an item, a value has a copy exactly if it passes the test. -/
theorem isSome_jsonCopy? {v : Value} (whole : ¬ v.Gap) : v.jsonCopy?.isSome = v.isJson := by
  rw [Bool.eq_iff_iff, isSome_jsonCopy?_iff, plainData_iff, and_iff_left whole]

/-- The copy has the scalars of the value and the copies of its items in their order. Of a record it
holds the copies of the entries, inserted one after another in the order of their keys. -/
inductive CopyOf : Value → Value → Prop
  | null : CopyOf .null .null
  | bool (b : Bool) : CopyOf (.bool b) (.bool b)
  | text (s : String) : CopyOf (.text s) (.text s)
  | number (n : Number) : CopyOf (.number n) (.number n)
  | list {vs cs : List Value} (items : List.Forall₂ CopyOf vs cs) : CopyOf (.list vs) (.list cs)
  | record {es cs sorted : Entries Value} {plain : Bool}
      (keys : es.map Prod.fst = cs.map Prod.fst)
      (values : List.Forall₂ CopyOf (es.map Prod.snd) (cs.map Prod.snd))
      (perm : sorted.Perm cs) (ascending : sorted.Pairwise fun a b => Text.unitsLE a.1 b.1 = true)
      (whole : (es.map Prod.fst).Nodup → (Record.ofList sorted).Perm cs) :
      CopyOf (.record es plain) (.record (Record.ofList sorted) true)

theorem copyOf_of_jsonCopy? {v c : Value} (copy : v.jsonCopy? = some c) : v.CopyOf c := by
  refine Copying.of_jsonCopy? ⟨.null, .bool, .text, fun _ => .number _, .list, ?_⟩ copy
  intro es cs plain values
  have keys : es.map Prod.fst = cs.map Prod.fst := Entries.keys_eq_of_forall₂ values
  let order : String × Value → String × Value → Bool := fun a b => Text.unitsLE a.1 b.1
  have perm : (cs.mergeSort order).Perm cs := List.mergeSort_perm cs order
  have ascending : (cs.mergeSort order).Pairwise fun a b => Text.unitsLE a.1 b.1 = true :=
    List.pairwise_map.mp (Record.ascending_mergeSort_units cs)
  refine .record keys ?_ perm ascending fun distinct => ?_
  · refine List.forall₂_map_left_iff.mpr (List.forall₂_map_right_iff.mpr ?_)
    exact values.imp fun _ _ pair => pair.2
  · have single := (perm.map Prod.fst).nodup_iff.mpr (keys ▸ distinct)
    exact (Record.ofList_perm single).trans perm

/-- The entries of a record are copied as the items of a list are. -/
theorem copyEntries?_eq_zip (es : Entries Value) :
    copyEntries? es = (copyItems? (es.map Prod.snd)).map fun cs => (es.map Prod.fst).zip cs := by
  induction es with
  | nil => rfl
  | cons e es ih =>
    obtain ⟨k, v⟩ := e
    simp only [copyEntries?, copyItems?, List.map_cons, ih]
    cases v.jsonCopy? with
    | none => rfl
    | some c => simp only [Option.map_map, Function.comp_def, List.zip_cons_cons]

/-- The copy of a record whose keys are in order. -/
theorem jsonCopy?_ascending {es : Entries Value} {plain : Bool}
    (ascending : (es.map Prod.fst).Pairwise fun a b => Text.unitsLE a b = true) :
    (Value.record es plain).jsonCopy? = (copyItems? (es.map Prod.snd)).map fun cs =>
      .record (Record.ofList ((es.map Prod.fst).zip cs)) true := by
  rw [jsonCopy?, copyEntries?_eq_zip]
  cases copies : copyItems? (es.map Prod.snd) with
  | none => rfl
  | some cs =>
    have length := (copyItems?_eq_some.mp copies).length_eq
    have keys : ((es.map Prod.fst).zip cs).map Prod.fst = es.map Prod.fst :=
      List.map_fst_zip (by simpa using Nat.le_of_eq length)
    rw [← keys, List.pairwise_map] at ascending
    simp only [Option.map_some]
    rw [sortEntries, List.mergeSort_of_pairwise ascending]

/-- The copy does not show in which order a record lists its entries. -/
theorem jsonCopy?_perm {es fs : Entries Value} {plain : Bool} (distinct : (es.map Prod.fst).Nodup)
    (perm : es.Perm fs) : (Value.record es plain).jsonCopy? = (Value.record fs plain).jsonCopy? := by
  refine (Reordered.record distinct (perm.map Prod.fst) fun key v w hv hw => ?_).jsonCopy?_eq
  have same := List.inj_on_of_nodup_map distinct hv (perm.mem_iff.mpr hw) rfl
  cases same
  exact .refl v

/-- A copy is one, and is its own copy. -/
theorem jsonCopy?_faithful {v c : Value} (copy : v.jsonCopy? = some c) :
    v.CopyOf c ∧ c.jsonCopy? = some c :=
  ⟨copyOf_of_jsonCopy? copy, (steady_of_jsonCopy? copy).copy⟩

end Value

end ShapedTree
