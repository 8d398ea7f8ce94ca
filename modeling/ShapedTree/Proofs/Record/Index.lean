import Mathlib.Data.List.Pairwise
import ShapedTree.Proofs.Number.IntegerText
import ShapedTree.Proofs.Record.Order

namespace ShapedTree

namespace Numeral

theorem digits_digitValue {c : Char} (digit : c.isDigit = true) :
    Decimal.digits (digitValue c) = [c] := by
  have bounds : 48 ≤ c.toNat ∧ c.toNat ≤ 57 := Char.isDigit_iff_toNat.mp digit
  have value : digitValue c = c.toNat - 48 := if_pos digit
  have small : c.toNat - 48 < 10 := by omega
  rw [value, Decimal.digits, Nat.toDigits_of_lt_base small]
  have same : (Nat.digitChar (c.toNat - 48)).toNat = c.toNat := by
    rw [Nat.toNat_digitChar_of_lt_ten small]
    omega
  rw [Char.toNat_inj.mp same]

theorem digitValue_lt {c : Char} (digit : c.isDigit = true) : digitValue c < 10 := by
  have bounds : 48 ≤ c.toNat ∧ c.toNat ≤ 57 := Char.isDigit_iff_toNat.mp digit
  have value : digitValue c = c.toNat - 48 := if_pos digit
  omega

/-- Digits behind those of a positive number are digits of a larger one. -/
theorem digits_append {cs : List Char} (digits : ∀ c ∈ cs, c.isDigit = true) {n : Nat}
    (positive : 0 < n) :
    Decimal.digits n ++ cs = Decimal.digits (cs.foldl (fun n c => 10 * n + digitValue c) n) := by
  induction cs generalizing n with
  | nil => simp
  | cons c cs ih =>
    obtain ⟨first, others⟩ := List.forall_mem_cons.mp digits
    have step : Decimal.digits n ++ [c] = Decimal.digits (10 * n + digitValue c) := by
      rw [← digits_digitValue first]
      exact Nat.toDigits_append_toDigits (by decide) positive (digitValue_lt first)
    calc Decimal.digits n ++ c :: cs = Decimal.digits n ++ [c] ++ cs := by simp
      _ = Decimal.digits (10 * n + digitValue c) ++ cs := by rw [step]
      _ = _ := ih others (by omega)

/-- A row of digits without a leading zero is that of its value. -/
theorem digits_valueInBase {c : Char} {cs : List Char}
    (digits : ∀ d ∈ c :: cs, d.isDigit = true) (canonical : c ≠ '0' ∨ cs = []) :
    Decimal.digits (valueInBase 10 (c :: cs)) = c :: cs := by
  obtain ⟨first, others⟩ := List.forall_mem_cons.mp digits
  have head : valueInBase 10 (c :: cs) =
      cs.foldl (fun n c => 10 * n + digitValue c) (digitValue c) := by simp [valueInBase]
  rcases canonical with nonzero | rfl
  · have positive : 0 < digitValue c := by
      have bounds : 48 ≤ c.toNat ∧ c.toNat ≤ 57 := Char.isDigit_iff_toNat.mp first
      have value : digitValue c = c.toNat - 48 := if_pos first
      have other : c.toNat ≠ 48 := fun zero => nonzero (Char.toNat_inj.mp zero)
      omega
    rw [head, ← digits_append others positive, digits_digitValue first]
    rfl
  · rw [head]
    exact digits_digitValue first

end Numeral

namespace Record

open Numeral

/-- An index is spelled in one way. -/
theorem index?_eq_some {key : String} {n : Nat} :
    index? key = some n ↔ key = Decimal.integerText n ∧ n ≤ largestIndex := by
  have spelled : (Decimal.integerText n).toList = Decimal.digits n := by
    simp [toList_integerText]
  constructor
  · intro h
    unfold index? at h
    split at h
    next => cases h
    next c cs chars =>
      split at h
      next canonical =>
        simp only at h
        split at h
        next bounded =>
          obtain rfl := Option.some.inj h
          refine ⟨String.toList_inj.mp ?_, bounded⟩
          rw [chars, spelled, digits_valueInBase (List.all_eq_true.mp canonical.1) canonical.2.1]
        next => cases h
      next => cases h
  · rintro ⟨rfl, bounded⟩
    unfold index?
    rw [spelled]
    cases row : Decimal.digits n with
    | nil => exact absurd row (digits_ne_nil n)
    | cons c cs =>
      have digits : (c :: cs).all Char.isDigit = true :=
        List.all_eq_true.mpr fun d hd => isDigit_digits (row ▸ hd)
      have canonical : c ≠ '0' ∨ cs = [] := by
        rcases Nat.eq_zero_or_pos n with rfl | positive
        · cases row
          exact .inr rfl
        · exact .inl (head_digits_ne_zero positive row)
      have short : (Decimal.digits n).length ≤ 10 := by
        unfold largestIndex at bounded
        exact (Nat.length_toDigits_le_iff (by decide) (by decide)).mpr (by omega)
      rw [row, List.length_cons] at short
      have value : valueInBase 10 (c :: cs) = n := row ▸ valueInBase_digits n
      simp only [digits, canonical, show cs.length < 10 by omega, and_self, if_true, value, bounded]

theorem index?_injective {a b : String} {n : Nat} (ha : index? a = some n)
    (hb : index? b = some n) : a = b :=
  (index?_eq_some.mp ha).1.trans (index?_eq_some.mp hb).1.symm

theorem index?_integerText {m : Int} {n : Nat} :
    index? (Decimal.integerText m) = some n ↔ m = n ∧ n ≤ largestIndex := by
  rw [index?_eq_some]
  refine and_congr_left fun _ => ⟨fun same => ?_, fun same => same ▸ rfl⟩
  have read := congrArg integer? same
  rw [integer?_integerText, integer?_integerText] at read
  exact Option.some.inj read

variable {α : Type} {before : String → String → Prop}

/-- Keys that are no indices stand in a record as they came. -/
theorem filter_ofList {es : List (String × α)} (distinct : (es.map Prod.fst).Nodup) :
    (ofList es).filter (fun e => (index? e.1).isNone) =
      es.filter fun e => (index? e.1).isNone := by
  induction es using List.reverseRecOn with
  | nil => rfl
  | append_singleton es e ih =>
    obtain ⟨apart, first⟩ := nodup_map_concat.mp distinct
    rw [ofList_concat, List.filter_append]
    cases index : index? e.1 with
    | some i =>
      have dropped : (index? e.1).isNone = false := by rw [index]; rfl
      rw [filter_insert (p := fun key => (index? key).isNone) dropped, ih first]
      simp [index]
    | none =>
      have new : Entries.has (ofList es) e.1 = false := by
        rw [← Bool.not_eq_true, Entries.has_iff, mem_keys_ofList]
        exact apart
      simp only [insert, new, index, Bool.false_eq_true, if_false, List.filter_append, ih first]

/-- A key is enumerated before another one: indices by their number, then the other keys in a given
order. -/
def Enumerated (before : String → String → Prop) (a b : String) : Prop :=
  match index? a, index? b with
  | some i, some j => i < j
  | some _, none => True
  | none, some _ => False
  | none, none => before a b

theorem enumerated_ofList {es : List (String × α)} (distinct : (es.map Prod.fst).Nodup)
    (ascending : (es.map Prod.fst).Pairwise before) :
    ((ofList es).map Prod.fst).Pairwise (Enumerated before) := by
  have others : ((ofList es).map Prod.fst).Pairwise fun a b =>
      index? a = none → index? b = none → before a b := by
    have kept := (List.pairwise_map.mp ascending).filter fun e => (index? e.1).isNone
    rw [← filter_ofList distinct, List.pairwise_filter] at kept
    simpa [List.pairwise_map] using kept
  have different : ((ofList es).map Prod.fst).Pairwise (· ≠ ·) := nodup_ofList es
  refine ((ordered_ofList es).and (different.and others)).imp ?_
  rintro a b ⟨notAfter, apart, ascends⟩
  unfold Enumerated
  cases hb : index? b with
  | some j =>
    obtain ⟨i, hi, le⟩ := notAfter j hb
    have ne : i ≠ j := by
      rintro rfl
      exact apart (index?_injective hi hb)
    simp only [hi]
    omega
  | none =>
    cases ha : index? a with
    | some i => trivial
    | none => exact ascends ha hb

theorem Enumerated.asymm (asymm : ∀ a b, before a b → ¬ before b a) {a b : String}
    (h : Enumerated before a b) : ¬ Enumerated before b a := by
  unfold Enumerated at *
  intro h'
  cases ha : index? a <;> cases hb : index? b <;> simp only [ha, hb] at h h'
  · exact asymm a b h h'
  · omega

/-- Keys in the order of enumeration are in the given one exactly if no two of them are in different
orders. -/
theorem pairwise_before_iff (asymm : ∀ a b, before a b → ¬ before b a) {keys : List String}
    (enumerated : keys.Pairwise (Enumerated before)) :
    keys.Pairwise before ↔
      ∀ a ∈ keys, ∀ b ∈ keys, Enumerated before a b → before a b := by
  constructor
  · intro ascending a ha b hb
    let Agrees := fun a b => Enumerated before a b → before a b
    have contrary : ∀ {a b}, Enumerated before a b → flip Agrees a b :=
      fun h back => (h.asymm asymm back).elim
    have forward : keys.Pairwise Agrees := by
      refine ascending.imp ?_
      intro a b h _
      exact h
    have backward : keys.Pairwise (flip Agrees) := enumerated.imp contrary
    exact forward.forall_of_forall_of_flip (fun _ _ h => contrary h h) backward ha hb
  · intro agree
    exact enumerated.imp_of_mem fun ha hb => agree _ ha _ hb

end Record

end ShapedTree
