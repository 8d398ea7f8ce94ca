import ShapedTree.Kind.Nested
import ShapedTree.Proofs.Record.Order
import ShapedTree.Proofs.Text.UnitOrder

namespace ShapedTree

namespace Record

variable {α β : Type} {le : String → String → Bool}

/-- The record of the entries sorted by their keys. -/
def sortBy (le : String → String → Bool) (es : List (String × α)) : Entries α :=
  ofList (es.mergeSort fun a b => le a.1 b.1)

theorem mem_keys_sortBy {es : List (String × α)} {key : String} :
    key ∈ (sortBy le es).map Prod.fst ↔ key ∈ es.map Prod.fst := by
  rw [sortBy, mem_keys_ofList]
  exact ((List.mergeSort_perm es _).map Prod.fst).mem_iff

theorem mem_of_mem_sortBy {es : List (String × α)} {e : String × α} (h : e ∈ sortBy le es) :
    e ∈ es := (List.mergeSort_perm es _).mem_iff.mp (mem_of_mem_ofList h)

theorem nodup_sortBy (es : List (String × α)) : ((sortBy le es).map Prod.fst).Nodup :=
  nodup_ofList _

theorem sortBy_map (f : String → α → β) (es : List (String × α)) :
    sortBy le (es.map fun e => (e.1, f e.1 e.2)) =
      (sortBy le es).map fun e => (e.1, f e.1 e.2) := by
  unfold sortBy
  rw [← ofList_map, List.map_mergeSort]
  exact fun _ _ _ _ => rfl

theorem sortBy_congr {le' : String → String → Bool} {es : List (String × α)}
    (h : ∀ a ∈ es.map Prod.fst, ∀ b ∈ es.map Prod.fst, le a b = le' a b) :
    sortBy le es = sortBy le' es := by
  have same := List.map_mergeSort (l := es) (f := id) (r := fun a b => le a.1 b.1)
    (s := fun a b => le' a.1 b.1)
    fun a ha b hb => h a.1 (List.mem_map_of_mem ha) b.1 (List.mem_map_of_mem hb)
  simp only [List.map_id] at same
  rw [sortBy, same, sortBy]

theorem ascending_mergeSort (trans : ∀ a b c, le a b = true → le b c = true → le a c = true)
    (total : ∀ a b, (le a b || le b a) = true) (es : List (String × α)) :
    ((es.mergeSort fun a b => le a.1 b.1).map Prod.fst).Pairwise fun a b => le a b = true :=
  List.pairwise_map.mpr
    (List.pairwise_mergeSort (fun a b c => trans a.1 b.1 c.1) (fun a b => total a.1 b.1) es)

theorem ascending_mergeSort_units (es : List (String × α)) :
    ((es.mergeSort fun a b => Text.unitsLE a.1 b.1).map Prod.fst).Pairwise fun a b =>
      Text.unitsLE a b = true :=
  @ascending_mergeSort α Text.unitsLE (fun _ _ _ => Text.unitsLE_trans) Text.unitsLE_total es

/-- A record of sorted entries is sorted. -/
theorem sortBy_sortBy (trans : ∀ a b c, le a b = true → le b c = true → le a c = true)
    (total : ∀ a b, (le a b || le b a) = true) {es : List (String × α)}
    (antisymm : ∀ a ∈ es.map Prod.fst, ∀ b ∈ es.map Prod.fst,
      le a b = true → le b a = true → a = b) :
    sortBy le (sortBy le es) = sortBy le es := by
  let order : String × α → String × α → Bool := fun a b => le a.1 b.1
  let sorted := es.mergeSort order
  -- Entries that come again are merged, so that the rest have distinct keys.
  let merged := Entries.ofList sorted
  have hsorted : (sorted.map Prod.fst).Pairwise fun a b => le a b = true :=
    ascending_mergeSort trans total es
  have hmerged : merged.Pairwise fun a b => order a b = true :=
    List.pairwise_map.mp (hsorted.sublist (Entries.keys_ofList_sublist sorted))
  have distinct : (merged.map Prod.fst).Nodup := Entries.nodup_ofList sorted
  have heq : sortBy le es = ofList merged := (ofList_entries_ofList sorted).symm
  have hmem : ∀ e ∈ merged, e.1 ∈ es.map Prod.fst := fun e he =>
    ((List.mergeSort_perm es order).map Prod.fst).mem_iff.mp
      ((Entries.keys_ofList_sublist sorted).subset (List.mem_map_of_mem he))
  have perm : ((ofList merged).mergeSort order).Perm merged :=
    (List.mergeSort_perm _ _).trans (ofList_perm distinct)
  have again : (ofList merged).mergeSort order = merged := by
    refine List.Perm.eq_of_pairwise (fun a b ha hb hab hba => ?_)
      (List.pairwise_map.mp (ascending_mergeSort trans total _)) hmerged perm
    have ha' := perm.mem_iff.mp ha
    exact List.inj_on_of_nodup_map distinct ha' hb
      (antisymm a.1 (hmem a ha') b.1 (hmem b hb) hab hba)
  rw [heq, sortBy, again]

/-- Entries that differ in their order only make one record, once they are sorted. -/
theorem sortBy_perm (trans : ∀ a b c, le a b = true → le b c = true → le a c = true)
    (total : ∀ a b, (le a b || le b a) = true) {es fs : List (String × α)}
    (distinct : (es.map Prod.fst).Nodup) (antisymm : ∀ a ∈ es.map Prod.fst, ∀ b ∈ es.map Prod.fst,
      le a b = true → le b a = true → a = b) (h : es.Perm fs) : sortBy le es = sortBy le fs := by
  let order : String × α → String × α → Bool := fun a b => le a.1 b.1
  have sorted : ∀ gs : List (String × α),
      (gs.mergeSort order).Pairwise fun a b => order a b = true := fun gs =>
    List.pairwise_map.mp (ascending_mergeSort trans total gs)
  have left := List.mergeSort_perm es order
  have perm : (es.mergeSort order).Perm (fs.mergeSort order) :=
    left.trans (h.trans (List.mergeSort_perm fs order).symm)
  have same : es.mergeSort order = fs.mergeSort order := by
    refine List.Perm.eq_of_pairwise (fun a b ha hb hab hba => ?_) (sorted es) (sorted fs) perm
    have ha := left.mem_iff.mp ha
    have hb := left.mem_iff.mp (perm.mem_iff.mpr hb)
    exact List.inj_on_of_nodup_map distinct ha hb
      (antisymm a.1 (List.mem_map_of_mem ha) b.1 (List.mem_map_of_mem hb) hab hba)
  rw [sortBy, same, sortBy]

end Record

namespace Value

theorem sortEntries_eq (es : List (String × Value)) :
    sortEntries es = Record.sortBy Text.unitsLE es := rfl

theorem sortEntries_sortEntries (es : List (String × Value)) :
    sortEntries (sortEntries es) = sortEntries es := by
  simp only [sortEntries_eq]
  apply Record.sortBy_sortBy
  · exact fun _ _ _ => Text.unitsLE_trans
  · exact Text.unitsLE_total
  · exact fun _ _ _ _ => Text.unitsLE_antisymm

end Value

end ShapedTree
