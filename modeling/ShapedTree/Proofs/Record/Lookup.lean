import Mathlib.Data.List.Induction
import Mathlib.Data.List.Nodup
import ShapedTree.Proofs.Lists
import ShapedTree.Record

namespace ShapedTree

namespace Entries

variable {α β : Type} {es : Entries α}

theorem has_iff {key : String} : has es key = true ↔ key ∈ es.map Prod.fst := by
  simp [has]

theorem lookup_eq_none_iff {key : String} : es.lookup key = none ↔ key ∉ es.map Prod.fst := by
  rw [List.lookup_eq_none_iff, List.mem_map]
  constructor
  · rintro h ⟨e, he, rfl⟩
    simpa using h e he
  · intro h e he
    exact bne_iff_ne.mpr fun same => h ⟨e, he, same.symm⟩

theorem mem_of_lookup {key : String} {v : α} (h : es.lookup key = some v) : (key, v) ∈ es := by
  obtain ⟨before, after, rfl, -⟩ := List.lookup_eq_some_iff.mp h
  simp

theorem lookup_of_mem {key : String} {v : α} (distinct : (es.map Prod.fst).Nodup)
    (h : (key, v) ∈ es) : es.lookup key = some v := by
  induction es with
  | nil => simp at h
  | cons e es ih =>
    obtain ⟨k, w⟩ := e
    simp only [List.map_cons, List.nodup_cons] at distinct
    rcases List.mem_cons.mp h with h | h
    · obtain ⟨rfl, rfl⟩ := Prod.mk.inj h
      simp
    · have other : (key == k) = false := by
        rw [beq_eq_false_iff_ne]
        intro same
        exact distinct.1 (List.mem_map.mpr ⟨_, h, same⟩)
      rw [List.lookup_cons, other]
      exact ih distinct.2 h

theorem lookup_perm {fs : Entries α} (distinct : (es.map Prod.fst).Nodup) (h : es.Perm fs)
    (key : String) : fs.lookup key = es.lookup key := by
  cases hl : es.lookup key with
  | none =>
    rw [lookup_eq_none_iff] at hl ⊢
    exact fun hm => hl ((h.map Prod.fst).mem_iff.mpr hm)
  | some v =>
    exact lookup_of_mem ((h.map Prod.fst).nodup_iff.mp distinct) (h.mem_iff.mp (mem_of_lookup hl))

theorem lookup_map (f : String → α → β) (key : String) :
    (es.map fun e => (e.1, f e.1 e.2)).lookup key = (es.lookup key).map (f key) := by
  induction es with
  | nil => rfl
  | cons e es ih =>
    obtain ⟨k, v⟩ := e
    by_cases h : key = k
    · simp [h]
    · have other : (key == k) = false := beq_eq_false_iff_ne.mpr h
      rw [List.map_cons, List.lookup_cons, List.lookup_cons, other]
      exact ih

theorem lookup_filter (p : String → Bool) (es : Entries α) (key : String) :
    (es.filter fun e => p e.1).lookup key = if p key then es.lookup key else none := by
  induction es with
  | nil => simp
  | cons e es ih =>
    obtain ⟨k, v⟩ := e
    rw [List.filter_cons, List.lookup_cons]
    by_cases same : key = k
    · subst same
      cases h : p key <;> simp [h, ih]
    · have other : (key == k) = false := beq_eq_false_iff_ne.mpr same
      cases h : p k <;> simp [ih, List.lookup_cons, other]

/-- The keys of what some names are looked up as come in the order of the names. -/
theorem keys_filterMap_sublist (value? : String → Option α) (names : List String) :
    ((names.filterMap fun name => (value? name).map fun v => (name, v)).map Prod.fst).Sublist
      names := by
  induction names with
  | nil => exact .slnil
  | cons name rest ih =>
    rw [List.filterMap_cons]
    cases value? name with
    | none => exact ih.cons name
    | some v => exact ih.cons_cons name

theorem lookup_filterMap (value? : String → Option α) (names : List String) (key : String) :
    (names.filterMap fun name => (value? name).map fun v => (name, v)).lookup key =
      if key ∈ names then value? key else none := by
  induction names with
  | nil => rfl
  | cons name rest ih =>
    by_cases same : key = name
    · subst same
      cases held : value? key with
      | none => simp [held, ih]
      | some v => simp [held]
    · have apart : (key == name) = false := beq_eq_false_iff_ne.mpr same
      cases held : value? name with
      | none => simp [held, ih, same]
      | some v => simp [held, ih, same, List.lookup_cons, apart]

theorem keys_replace (es : Entries α) (key : String) (v : α) :
    (replace es key v).map Prod.fst = es.map Prod.fst := by
  simp only [replace, List.map_map]
  refine List.map_congr_left fun e _ => ?_
  simp only [Function.comp_apply]
  split <;> rfl

theorem replace_eq_map (es : Entries α) (key : String) (v : α) :
    replace es key v = es.map fun e => (e.1, if e.1 = key then v else e.2) := by
  refine List.map_congr_left fun e _ => ?_
  split <;> rfl

theorem mem_of_mem_replace {key : String} {v : α} {e : String × α} (h : e ∈ replace es key v) :
    e = (key, v) ∨ e ∈ es := by
  rw [replace_eq_map] at h
  obtain ⟨d, hd, rfl⟩ := List.mem_map.mp h
  by_cases same : d.1 = key
  · simp [same]
  · simp [same, hd]

theorem filter_replace {key : String} {p : String → Bool} (dropped : p key = false)
    (es : Entries α) (v : α) :
    (replace es key v).filter (fun e => p e.1) = es.filter fun e => p e.1 := by
  rw [replace_eq_map]
  induction es with
  | nil => rfl
  | cons e es ih =>
    rw [List.map_cons, List.filter_cons, List.filter_cons, ih]
    by_cases same : e.1 = key
    · simp [same, dropped]
    · simp [same]

theorem lookup_replace (es : Entries α) (key : String) (v : α) (other : String) :
    (replace es key v).lookup other =
      (es.lookup other).map fun w => if other = key then v else w := by
  rw [replace_eq_map]
  exact lookup_map (fun k w => if k = key then v else w) other

theorem put_map (f : α → β) (es : Entries α) (key : String) (v : α) :
    put (es.map fun e => (e.1, f e.2)) key (f v) = (put es key v).map fun e => (e.1, f e.2) := by
  have same : has (es.map fun e => (e.1, f e.2)) key = has es key := by
    simp [has, List.any_map, Function.comp_def]
  unfold put
  rw [same]
  split
  next =>
    simp only [replace, List.map_map]
    refine List.map_congr_left fun e _ => ?_
    simp only [Function.comp_apply]
    split <;> rfl
  next => rw [List.map_append, List.map_singleton]

theorem keys_put (es : Entries α) (key : String) (v : α) :
    (put es key v).map Prod.fst =
      if has es key then es.map Prod.fst else es.map Prod.fst ++ [key] := by
  unfold put
  split
  · exact keys_replace es key v
  · simp

theorem nodup_put (distinct : (es.map Prod.fst).Nodup) (key : String) (v : α) :
    ((put es key v).map Prod.fst).Nodup := by
  rw [keys_put]
  split
  next => exact distinct
  next new =>
    rw [← List.concat_eq_append]
    exact distinct.concat (mt has_iff.mpr new)

theorem mem_of_mem_put {key : String} {v : α} {e : String × α} (h : e ∈ put es key v) :
    e = (key, v) ∨ e ∈ es := by
  unfold put at h
  split at h
  next => exact mem_of_mem_replace h
  next => exact (List.mem_append.mp h).symm.imp_left List.mem_singleton.mp

theorem lookup_put (es : Entries α) (key : String) (v : α) (other : String) :
    (put es key v).lookup other = if other = key then some v else es.lookup other := by
  unfold put
  split
  next h =>
    rw [lookup_replace]
    split
    next same =>
      obtain ⟨w, hw⟩ := Option.ne_none_iff_exists'.mp
        (mt lookup_eq_none_iff.mp (not_not.mpr (has_iff.mp h)))
      simp [same, hw]
    next => simp
  next h =>
    rw [List.lookup_append]
    by_cases same : other = key
    · have none : es.lookup key = none := lookup_eq_none_iff.mpr (mt has_iff.mpr h)
      simp [same, none]
    · have no : (other == key) = false := beq_eq_false_iff_ne.mpr same
      simp [List.lookup_cons, no, same]

theorem ofList_concat (es : List (String × α)) (e : String × α) :
    ofList (es ++ [e]) = put (ofList es) e.1 e.2 := by
  simp [ofList]

theorem ofList_map (f : α → β) (es : List (String × α)) :
    ofList (es.map fun e => (e.1, f e.2)) = (ofList es).map fun e => (e.1, f e.2) := by
  induction es using List.reverseRecOn with
  | nil => rfl
  | append_singleton es e ih =>
    rw [List.map_append, List.map_singleton, ofList_concat, ofList_concat, ih]
    exact put_map f (ofList es) e.1 e.2

/-- Entries hold nothing but what was put in. -/
theorem mem_of_mem_ofList {es : List (String × α)} {e : String × α} (h : e ∈ ofList es) :
    e ∈ es := by
  induction es using List.reverseRecOn with
  | nil => cases h
  | append_singleton es d ih =>
    rw [ofList_concat] at h
    rcases mem_of_mem_put h with rfl | old
    · exact List.mem_append_right _ (List.mem_singleton_self _)
    · exact List.mem_append_left _ (ih old)

theorem ofList_of_nodup {es : List (String × α)} (distinct : (es.map Prod.fst).Nodup) :
    ofList es = es := by
  induction es using List.reverseRecOn with
  | nil => rfl
  | append_singleton es e ih =>
    obtain ⟨new, first⟩ := nodup_map_concat.mp distinct
    have fresh : has es e.1 = false := by
      rw [← Bool.not_eq_true, has_iff]
      exact new
    rw [ofList_concat, ih first]
    simp [put, fresh]

theorem nodup_ofList (es : List (String × α)) : ((ofList es).map Prod.fst).Nodup := by
  induction es using List.reverseRecOn with
  | nil => simp [ofList]
  | append_singleton es e ih =>
    rw [ofList_concat]
    exact nodup_put ih e.1 e.2

theorem keys_ofList_sublist (es : List (String × α)) :
    ((ofList es).map Prod.fst).Sublist (es.map Prod.fst) := by
  induction es using List.reverseRecOn with
  | nil => simp [ofList]
  | append_singleton es e ih =>
    rw [ofList_concat, keys_put, List.map_append]
    split
    next => exact ih.trans (List.sublist_append_left _ _)
    next => exact ih.append (by simp)

end Entries

namespace Record

variable {α β : Type} {es : Entries α}

theorem insertIndex_perm (index : Nat) (key : String) (v : α) (es : Entries α) :
    (insertIndex index key v es).Perm ((key, v) :: es) := by
  induction es with
  | nil => exact .refl _
  | cons e es ih =>
    unfold insertIndex
    split
    next => exact .refl _
    next => exact (ih.cons e).trans (.swap _ _ _)

theorem insert_perm {key : String} (new : Entries.has es key = false) (v : α) :
    (insert es key v).Perm ((key, v) :: es) := by
  unfold insert
  simp only [new, Bool.false_eq_true, if_false]
  split
  next => exact insertIndex_perm _ _ _ _
  next => exact List.perm_append_singleton _ _

theorem insert_of_has {key : String} (old : Entries.has es key = true) (v : α) :
    insert es key v = Entries.replace es key v := by
  simp [insert, old]

/-- A new entry is put somewhere between the others. -/
theorem insert_of_new {key : String} (new : Entries.has es key = false) (v : α) :
    ∃ before after, es = before ++ after ∧ insert es key v = before ++ (key, v) :: after := by
  have indexed : ∀ index, ∃ before after, es = before ++ after ∧
      insertIndex index key v es = before ++ (key, v) :: after := by
    intro index
    clear new
    induction es with
    | nil => exact ⟨[], [], rfl, rfl⟩
    | cons e es ih =>
      obtain ⟨before, after, rfl, put⟩ := ih
      unfold insertIndex
      split
      next => exact ⟨[], e :: (before ++ after), rfl, rfl⟩
      next => exact ⟨e :: before, after, rfl, by rw [put]; rfl⟩
  unfold insert
  simp only [new, Bool.false_eq_true, if_false]
  split
  next index _ => exact indexed index
  next => exact ⟨es, [], (List.append_nil es).symm, rfl⟩

theorem lookup_insert (es : Entries α) (key : String) (v : α) (other : String) :
    (insert es key v).lookup other = if other = key then some v else es.lookup other := by
  cases held : Entries.has es key with
  | true =>
    have put : insert es key v = Entries.put es key v := by
      rw [insert_of_has held, Entries.put, if_pos held]
    rw [put, Entries.lookup_put]
  | false =>
    obtain ⟨before, after, rfl, put⟩ := insert_of_new held v
    rw [put, List.lookup_append, List.lookup_append, List.lookup_cons]
    by_cases same : other = key
    · subst same
      have none : before.lookup other = none := by
        rw [Entries.lookup_eq_none_iff]
        intro hm
        have has : Entries.has (before ++ after) other = true :=
          Entries.has_iff.mpr (by rw [List.map_append]; exact List.mem_append_left _ hm)
        cases held.symm.trans has
      simp [none]
    · have no : (other == key) = false := beq_eq_false_iff_ne.mpr same
      simp [no, same]

theorem filter_insert {key : String} {p : String → Bool} (dropped : p key = false)
    (es : Entries α) (v : α) :
    (insert es key v).filter (fun e => p e.1) = es.filter fun e => p e.1 := by
  cases held : Entries.has es key with
  | true =>
    rw [insert_of_has held]
    exact Entries.filter_replace dropped es v
  | false =>
    obtain ⟨before, after, rfl, put⟩ := insert_of_new held v
    rw [put, List.filter_append, List.filter_append, List.filter_cons, dropped]
    rfl

theorem ofList_concat (es : List (String × α)) (e : String × α) :
    ofList (es ++ [e]) = insert (ofList es) e.1 e.2 := by
  simp [ofList, merge]

theorem mem_keys_insert {key other : String} {v : α} :
    other ∈ (insert es key v).map Prod.fst ↔ other = key ∨ other ∈ es.map Prod.fst := by
  cases h : Entries.has es key with
  | false => rw [((insert_perm h v).map Prod.fst).mem_iff]; simp
  | true =>
    rw [insert_of_has h, Entries.keys_replace]
    refine ⟨Or.inr, ?_⟩
    rintro (rfl | hm)
    · exact Entries.has_iff.mp h
    · exact hm

theorem nodup_insert (distinct : (es.map Prod.fst).Nodup) (key : String) (v : α) :
    ((insert es key v).map Prod.fst).Nodup := by
  cases h : Entries.has es key with
  | false =>
    rw [((insert_perm h v).map Prod.fst).nodup_iff]
    exact List.nodup_cons.mpr ⟨fun hm => by simp [Entries.has_iff.mpr hm] at h, distinct⟩
  | true => rwa [insert_of_has h, Entries.keys_replace]

theorem nodup_ofList (es : List (String × α)) : ((ofList es).map Prod.fst).Nodup := by
  induction es using List.reverseRecOn with
  | nil => simp [ofList, merge]
  | append_singleton es e ih => rw [ofList_concat]; exact nodup_insert ih _ _

theorem mem_keys_ofList {es : List (String × α)} {key : String} :
    key ∈ (ofList es).map Prod.fst ↔ key ∈ es.map Prod.fst := by
  induction es using List.reverseRecOn with
  | nil => simp [ofList, merge]
  | append_singleton es e ih =>
    rw [ofList_concat, mem_keys_insert, ih, List.map_append, List.mem_append]
    simp [or_comm]

theorem mem_of_mem_insert {key : String} {v : α} {e : String × α} (h : e ∈ insert es key v) :
    e = (key, v) ∨ e ∈ es := by
  cases old : Entries.has es key with
  | false => exact List.mem_cons.mp ((insert_perm old v).mem_iff.mp h)
  | true =>
    rw [insert_of_has old] at h
    exact Entries.mem_of_mem_replace h

/-- A record holds nothing but entries that were put in. -/
theorem mem_of_mem_ofList {es : List (String × α)} {e : String × α} (h : e ∈ ofList es) :
    e ∈ es := by
  induction es using List.reverseRecOn with
  | nil => simp [ofList, merge] at h
  | append_singleton es d ih =>
    rw [ofList_concat] at h
    rcases mem_of_mem_insert h with rfl | h
    · simp
    · exact List.mem_append_left _ (ih h)

theorem ofList_perm {es : List (String × α)} (distinct : (es.map Prod.fst).Nodup) :
    (ofList es).Perm es := by
  induction es using List.reverseRecOn with
  | nil => exact .refl _
  | append_singleton es e ih =>
    obtain ⟨new, first⟩ := nodup_map_concat.mp distinct
    have fresh : Entries.has (ofList es) e.1 = false := by
      rw [← Bool.not_eq_true, Entries.has_iff, mem_keys_ofList]
      exact new
    rw [ofList_concat]
    exact (insert_perm fresh e.2).trans (((ih first).cons e).trans
      (List.perm_append_singleton _ _).symm)

theorem lookup_ofList {es : List (String × α)} (distinct : (es.map Prod.fst).Nodup)
    (key : String) : (ofList es).lookup key = es.lookup key :=
  Entries.lookup_perm distinct (ofList_perm distinct).symm key

/-- A record holds under the key that was put in last nothing but its value. -/
theorem eq_or_mem_of_mem_insert {key : String} {v : α} {e : String × α} (h : e ∈ insert es key v) :
    e = (key, v) ∨ e.1 ≠ key ∧ e ∈ es := by
  cases held : Entries.has es key with
  | true =>
    rw [insert_of_has held, Entries.replace_eq_map] at h
    obtain ⟨d, hd, rfl⟩ := List.mem_map.mp h
    by_cases same : d.1 = key
    · simp [same]
    · simp [same, hd]
  | false =>
    rcases mem_of_mem_insert h with new | old
    · exact .inl new
    · refine .inr ⟨?_, old⟩
      rintro rfl
      have has : Entries.has es e.1 = true := Entries.has_iff.mpr (List.mem_map_of_mem old)
      cases held.symm.trans has

theorem merge_concat (base es : Entries α) (e : String × α) :
    merge base (es ++ [e]) = insert (merge base es) e.1 e.2 := by
  simp [merge]

theorem lookup_merge (base es : Entries α) (key : String) :
    (merge base es).lookup key = (es.reverse.lookup key).or (base.lookup key) := by
  induction es using List.reverseRecOn with
  | nil => rfl
  | append_singleton es d ih =>
    rw [merge_concat, lookup_insert, ih, List.reverse_append, List.reverse_singleton,
      List.singleton_append]
    obtain ⟨name, v⟩ := d
    rw [List.lookup_cons]
    by_cases same : key = name
    · simp [same]
    · simp [same, beq_eq_false_iff_ne.mpr same]

/-- Under a key that was merged in, a record holds the value that came last. -/
theorem value_of_mem_merge {base : Entries α} {e : String × α} {v : α} (h : e ∈ merge base es)
    (last : es.reverse.lookup e.1 = some v) : e.2 = v := by
  induction es using List.reverseRecOn with
  | nil => cases last
  | append_singleton es d ih =>
    rw [merge_concat] at h
    rw [List.reverse_append, List.reverse_singleton, List.singleton_append, List.lookup_cons] at last
    rcases eq_or_mem_of_mem_insert h with rfl | ⟨other, old⟩
    · simpa using last
    · rw [beq_eq_false_iff_ne.mpr other] at last
      exact ih old last

theorem mem_keys_merge {base : Entries α} {key : String} :
    key ∈ (merge base es).map Prod.fst ↔ key ∈ base.map Prod.fst ∨ key ∈ es.map Prod.fst := by
  induction es using List.reverseRecOn with
  | nil => simp [merge]
  | append_singleton es d ih =>
    rw [merge_concat, mem_keys_insert, ih, List.map_append, List.mem_append, List.map_singleton,
      List.mem_singleton]
    tauto

/-- Entries whose keys are all there already only bring their values. -/
theorem merge_of_mem {base : Entries α} (old : ∀ e ∈ es, e.1 ∈ base.map Prod.fst) :
    merge base es = base.map fun e => (e.1, (es.reverse.lookup e.1).getD e.2) := by
  induction es using List.reverseRecOn with
  | nil => simp [merge]
  | append_singleton es d ih =>
    have before := ih fun e he => old e (by simp [he])
    have held : Entries.has (merge base es) d.1 = true :=
      Entries.has_iff.mpr (mem_keys_merge.mpr (.inl (old d (by simp))))
    rw [merge_concat, insert_of_has held, Entries.replace_eq_map, before, List.map_map]
    refine List.map_congr_left fun e _ => ?_
    rw [List.reverse_append, List.reverse_singleton, List.singleton_append]
    obtain ⟨key, v⟩ := d
    rw [List.lookup_cons]
    by_cases same : e.1 = key
    · simp [same]
    · simp [same, beq_eq_false_iff_ne.mpr same]

/-- Merging the same entries again changes nothing. -/
theorem merge_merge (base es : Entries α) : merge (merge base es) es = merge base es := by
  have old : ∀ e ∈ es, e.1 ∈ (merge base es).map Prod.fst := fun e he =>
    mem_keys_merge.mpr (.inr (List.mem_map_of_mem he))
  rw [merge_of_mem old]
  have same : ∀ e ∈ merge base es, (e.1, (es.reverse.lookup e.1).getD e.2) = e := by
    intro e he
    cases last : es.reverse.lookup e.1 with
    | none => rfl
    | some v =>
      rw [Option.getD_some, ← value_of_mem_merge he last]
  rw [List.map_congr_left same, List.map_id']

end Record

end ShapedTree
