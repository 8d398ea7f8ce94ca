import ShapedTree.Proofs.Record.Lookup

namespace ShapedTree

namespace Record

variable {α β : Type}

/-- A key may be enumerated before another one: no smaller index comes behind it. -/
def NotAfter (a b : String) : Prop :=
  ∀ j, index? b = some j → ∃ i, index? a = some i ∧ i ≤ j

/-- The keys are in an order of enumeration. -/
def Ordered (es : Entries α) : Prop := (es.map Prod.fst).Pairwise NotAfter

theorem ordered_iff {es : Entries α} :
    Ordered es ↔ es.Pairwise fun a b => NotAfter a.1 b.1 := List.pairwise_map

theorem precedes_eq_false_iff {index : Nat} {key : String} :
    precedes index key = false ↔ ∃ i, index? key = some i ∧ i ≤ index := by
  unfold precedes
  split
  next i h => simp [h]
  next h => simp [h]

theorem ordered_insertIndex {index : Nat} {key : String} (h : index? key = some index) (v : α)
    {es : Entries α} (ordered : Ordered es) : Ordered (insertIndex index key v es) := by
  rw [ordered_iff] at *
  induction es with
  | nil => simp [insertIndex]
  | cons e es ih =>
    obtain ⟨first, rest⟩ := List.pairwise_cons.mp ordered
    unfold insertIndex
    split
    next before =>
      refine List.pairwise_cons.mpr ⟨fun f hf j hj => ⟨index, h, ?_⟩, ordered⟩
      have known : ∃ i, index? e.1 = some i ∧ i ≤ j := by
        rcases List.mem_cons.mp hf with rfl | hf
        · exact ⟨j, hj, Nat.le_refl j⟩
        · exact first f hf j hj
      obtain ⟨i, hi, hij⟩ := known
      simp only [precedes, hi, decide_eq_true_eq] at before
      omega
    next after =>
      refine List.pairwise_cons.mpr ⟨fun f hf => ?_, ih rest⟩
      rcases List.mem_cons.mp ((insertIndex_perm index key v es).mem_iff.mp hf) with rfl | hf
      · intro j hj
        cases h.symm.trans hj
        exact precedes_eq_false_iff.mp (Bool.eq_false_iff.mpr after)
      · exact first f hf

theorem ordered_insert {es : Entries α} (ordered : Ordered es) (key : String) (v : α) :
    Ordered (insert es key v) := by
  unfold insert
  split
  next => rwa [Ordered, Entries.keys_replace]
  next =>
    split
    next h => exact ordered_insertIndex h v ordered
    next h =>
      rw [ordered_iff] at *
      refine List.pairwise_append.mpr ⟨ordered, by simp, ?_⟩
      rintro a - b hb j hj
      simp only [List.mem_singleton] at hb
      simp [hb, h] at hj

theorem ordered_ofList (es : List (String × α)) : Ordered (ofList es) := by
  induction es using List.reverseRecOn with
  | nil => simp [Ordered, ofList, merge]
  | append_singleton es e ih => rw [ofList_concat]; exact ordered_insert ih _ _

theorem insertIndex_eq_append {index : Nat} {key : String} {v : α} {es : Entries α}
    (h : ∀ e ∈ es, precedes index e.1 = false) :
    insertIndex index key v es = es ++ [(key, v)] := by
  induction es with
  | nil => rfl
  | cons e es ih =>
    simp only [List.mem_cons, forall_eq_or_imp] at h
    simp [insertIndex, h.1, ih h.2]

/-- Entries in order make a record of just these entries. -/
theorem ofList_of_ordered {es : Entries α} (distinct : (es.map Prod.fst).Nodup)
    (ordered : Ordered es) : ofList es = es := by
  induction es using List.reverseRecOn with
  | nil => rfl
  | append_singleton es e ih =>
    rw [ordered_iff] at ordered ih
    obtain ⟨new, first⟩ := nodup_map_concat.mp distinct
    have before := List.pairwise_append.mp ordered
    have fresh : Entries.has es e.1 = false := by
      rw [← Bool.not_eq_true, Entries.has_iff]
      exact new
    rw [ofList_concat, ih first before.1]
    unfold insert
    simp only [fresh, Bool.false_eq_true, if_false]
    split
    next i hi =>
      refine insertIndex_eq_append fun f hf => precedes_eq_false_iff.mpr ?_
      exact before.2.2 f hf e (by simp) i hi
    next => rfl

theorem ofList_ofList (es : List (String × α)) : ofList (ofList es) = ofList es :=
  ofList_of_ordered (nodup_ofList es) (ordered_ofList es)

theorem insertIndex_map (f : String → α → β) (index : Nat) (key : String) (v : α)
    (es : Entries α) :
    insertIndex index key (f key v) (es.map fun e => (e.1, f e.1 e.2)) =
      (insertIndex index key v es).map fun e => (e.1, f e.1 e.2) := by
  induction es with
  | nil => rfl
  | cons e es ih =>
    simp only [insertIndex, List.map_cons]
    split
    next => rfl
    next => rw [ih, List.map_cons]

theorem insert_map (f : String → α → β) (es : Entries α) (key : String) (v : α) :
    insert (es.map fun e => (e.1, f e.1 e.2)) key (f key v) =
      (insert es key v).map fun e => (e.1, f e.1 e.2) := by
  have same : Entries.has (es.map fun e => (e.1, f e.1 e.2)) key = Entries.has es key := by
    simp [Entries.has, List.any_map, Function.comp_def]
  unfold insert
  rw [same]
  split
  next =>
    rw [Entries.replace_eq_map, Entries.replace_eq_map, List.map_map, List.map_map]
    refine List.map_congr_left fun e _ => ?_
    by_cases h : e.1 = key <;> simp [h]
  next =>
    split
    next => exact insertIndex_map f _ key v es
    next => simp

theorem ofList_map (f : String → α → β) (es : List (String × α)) :
    ofList (es.map fun e => (e.1, f e.1 e.2)) = (ofList es).map fun e => (e.1, f e.1 e.2) := by
  induction es using List.reverseRecOn with
  | nil => rfl
  | append_singleton es e ih =>
    rw [List.map_append, ofList_concat]
    exact (ofList_concat _ _).trans (ih ▸ insert_map f (ofList es) e.1 e.2)

/-- An entry that comes again makes no difference to where its key is enumerated. -/
theorem ofList_put {es : Entries α} (key : String) (v : α) :
    ofList (Entries.put es key v) = insert (ofList es) key v := by
  cases h : Entries.has es key with
  | false => simp only [Entries.put, h, Bool.false_eq_true, if_false, ofList_concat]
  | true =>
    have again : Entries.has (ofList es) key = true := by
      rw [Entries.has_iff, mem_keys_ofList]
      exact Entries.has_iff.mp h
    simp only [Entries.put, h, if_true]
    rw [insert_of_has again, Entries.replace_eq_map, Entries.replace_eq_map]
    exact ofList_map (fun k w => if k = key then v else w) es

theorem ofList_entries_ofList (es : List (String × α)) :
    ofList (Entries.ofList es) = ofList es := by
  induction es using List.reverseRecOn with
  | nil => rfl
  | append_singleton es e ih => rw [Entries.ofList_concat, ofList_put, ih, ofList_concat]

end Record

end ShapedTree
