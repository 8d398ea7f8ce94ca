import ShapedTree.Text.Units

namespace ShapedTree

namespace Text

theorem unitsOfChar_append_injective {a b : Char} {as bs : List Nat}
    (h : unitsOfChar a ++ as = unitsOfChar b ++ bs) : a = b ∧ as = bs := by
  have surrogate : ∀ c : Char, c.toNat < 0xD800 ∨ 0xDFFF < c.toNat ∧ c.toNat < 0x110000 :=
    fun c => c.valid
  have ha := surrogate a
  have hb := surrogate b
  have same : a.toNat = b.toNat ∧ as = bs := by
    unfold unitsOfChar at h
    split at h <;> split at h <;> simp only [List.cons_append, List.nil_append, List.cons.injEq] at h
    · exact h
    · omega
    · omega
    · exact ⟨by omega, h.2.2⟩
  exact ⟨Char.toNat_inj.mp same.1, same.2⟩

theorem units_injective {s t : String} (h : units s = units t) : s = t := by
  suffices ∀ as bs : List Char, as.flatMap unitsOfChar = bs.flatMap unitsOfChar → as = bs from
    String.toList_inj.mp (this _ _ h)
  have nonempty : ∀ c : Char, unitsOfChar c ≠ [] := by intro c; unfold unitsOfChar; split <;> simp
  intro as
  induction as with
  | nil =>
    intro bs h
    cases bs with
    | nil => rfl
    | cons b bs => simp [nonempty b] at h
  | cons a as ih =>
    intro bs h
    cases bs with
    | nil => simp [nonempty a] at h
    | cons b bs =>
      simp only [List.flatMap_cons] at h
      obtain ⟨rfl, rest⟩ := unitsOfChar_append_injective h
      rw [ih bs rest]

theorem compareUnits_eq (as bs : List Nat) : compareUnits as bs = List.compareLex compare as bs := by
  induction as generalizing bs with
  | nil => cases bs <;> simp [compareUnits, List.compareLex_nil_nil, List.compareLex_nil_cons]
  | cons a as ih =>
    cases bs with
    | nil => simp [compareUnits, List.compareLex_cons_nil]
    | cons b bs => simp [compareUnits, List.compareLex_cons_cons, ih]

instance : Std.TransCmp compareUnits := by
  have lexicographic : compareUnits = List.compareLex compare := by
    funext as bs
    exact compareUnits_eq as bs
  rw [lexicographic]
  infer_instance

theorem unitsLE_eq (a b : String) :
    unitsLE a b = (List.compareLex compare (units a) (units b)).isLE := by
  unfold unitsLE compareByUnits
  rw [compareUnits_eq]
  cases List.compareLex compare (units a) (units b) <;> rfl

theorem unitsLE_trans {a b c : String} (h : unitsLE a b = true) (h' : unitsLE b c = true) :
    unitsLE a c = true := by
  rw [unitsLE_eq] at *
  exact Std.TransCmp.isLE_trans h h'

theorem unitsLE_total (a b : String) : (unitsLE a b || unitsLE b a) = true := by
  have swap : List.compareLex compare (units b) (units a) =
      (List.compareLex compare (units a) (units b)).swap := Std.OrientedCmp.eq_swap
  rw [unitsLE_eq, unitsLE_eq, swap]
  cases List.compareLex compare (units a) (units b) <;> rfl

theorem unitsLE_antisymm {a b : String} (h : unitsLE a b = true) (h' : unitsLE b a = true) :
    a = b := by
  rw [unitsLE_eq] at *
  exact units_injective (Std.LawfulEqCmp.eq_of_compare (Std.OrientedCmp.isLE_antisymm h h'))

/-- A text comes before another one in the order by units. -/
def Before (a b : String) : Prop := compareByUnits a b = .lt

theorem before_iff {a b : String} : Before a b ↔ unitsLE a b = true ∧ a ≠ b := by
  constructor
  · intro before
    refine ⟨by rw [unitsLE, before]; rfl, ?_⟩
    rintro rfl
    have reflexive : compareByUnits a a = .eq := by
      rw [compareByUnits, compareUnits_eq]
      exact Std.ReflCmp.compare_self
    cases before.symm.trans reflexive
  · rintro ⟨le, different⟩
    cases order : compareByUnits a b with
    | lt => exact order
    | eq =>
      rw [compareByUnits, compareUnits_eq] at order
      exact absurd (units_injective (Std.LawfulEqCmp.eq_of_compare order)) different
    | gt =>
      rw [unitsLE, order] at le
      cases le

theorem sortByUnits_ascending {ss : List String} (distinct : ss.Nodup) :
    (sortByUnits ss).Pairwise Before := by
  have perm : (sortByUnits ss).Perm ss := List.mergeSort_perm ss unitsLE
  have sorted := @List.pairwise_mergeSort _ unitsLE (fun _ _ _ => unitsLE_trans) unitsLE_total ss
  have apart : (sortByUnits ss).Nodup := perm.nodup_iff.mpr distinct
  exact (sorted.and apart).imp fun h => before_iff.mpr h

theorem mem_sortByUnits {ss : List String} {s : String} : s ∈ sortByUnits ss ↔ s ∈ ss :=
  (List.mergeSort_perm ss unitsLE).mem_iff

end Text

end ShapedTree
