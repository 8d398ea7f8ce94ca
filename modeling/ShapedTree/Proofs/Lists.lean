import Mathlib.Data.List.Basic
import Mathlib.Data.List.Forall2
import Mathlib.Data.List.Nodup

namespace ShapedTree

variable {α β γ : Type}

section Forall₂

variable {R : α → β → Prop} {xs : List α} {ys : List β}

theorem forall₂_iff_getElem? :
    List.Forall₂ R xs ys ↔ xs.length = ys.length ∧
      ∀ (i : Nat) x y, xs[i]? = some x → ys[i]? = some y → R x y := by
  rw [List.forall₂_iff_get]
  refine and_congr_right fun _ => ⟨fun h i x y hx hy => ?_, fun h i hi hj => ?_⟩
  · obtain ⟨hi, rfl⟩ := List.getElem?_eq_some_iff.mp hx
    obtain ⟨hj, rfl⟩ := List.getElem?_eq_some_iff.mp hy
    exact h i hi hj
  · exact h i _ _ (List.getElem?_eq_getElem hi) (List.getElem?_eq_getElem hj)

theorem exists_left_of_mem (h : List.Forall₂ R xs ys) : ∀ y ∈ ys, ∃ x ∈ xs, R x y := by
  induction h with
  | nil => simp
  | cons first _ ih =>
    refine List.forall_mem_cons.mpr ⟨⟨_, by simp, first⟩, fun y hy => ?_⟩
    obtain ⟨x, hx, hxy⟩ := ih y hy
    exact ⟨x, List.mem_cons_of_mem _ hx, hxy⟩

theorem exists_forall₂ (h : ∀ x ∈ xs, ∃ y, R x y) : ∃ ys, List.Forall₂ R xs ys := by
  induction xs with
  | nil => exact ⟨[], .nil⟩
  | cons x xs ih =>
    obtain ⟨⟨y, first⟩, others⟩ := List.forall_mem_cons.mp h
    obtain ⟨ys, rest⟩ := ih others
    exact ⟨y :: ys, .cons first rest⟩

/-- What is said of the one list can be said of the other one, item by item. -/
theorem forall₂_transfer {P : α → γ → Prop} {Q : β → γ → Prop} {zs : List γ}
    (alike : List.Forall₂ R xs ys) (all : List.Forall₂ P xs zs)
    (imp : ∀ x y z, R x y → P x z → Q y z) : List.Forall₂ Q ys zs := by
  induction alike generalizing zs with
  | nil => cases all; exact .nil
  | cons first _ ih =>
    cases all with
    | cons hz rest => exact .cons (imp _ _ _ first hz) (ih rest)

/-- Entries whose values are related to the items of a list, paired with these. -/
theorem forall₂_zip_keys {es : List (γ × α)} (each : List.Forall₂ R (es.map Prod.snd) ys) :
    List.Forall₂ (fun e f => e.1 = f.1 ∧ R e.2 f.2) es ((es.map Prod.fst).zip ys) := by
  induction es generalizing ys with
  | nil => exact .nil
  | cons e es ih =>
    cases each with
    | cons first rest => exact .cons ⟨rfl, first⟩ (ih rest)

end Forall₂

section Option

variable {R S : α → α → Prop} {o p : Option α}

theorem optionRel_refl (refl : ∀ a, R a a) (o : Option α) : Option.Rel R o o := by
  cases o with
  | none => exact .none
  | some a => exact .some (refl a)

theorem optionRel_of_isSome (same : o.isSome = p.isSome)
    (h : ∀ a b, o = some a → p = some b → R a b) : Option.Rel R o p := by
  cases o <;> cases p
  · exact .none
  · cases same
  · cases same
  · exact .some (h _ _ rfl rfl)

theorem optionRel_mono (le : ∀ a b, R a b → S a b) (h : Option.Rel R o p) : Option.Rel S o p := by
  cases h with
  | none => exact .none
  | some pair => exact .some (le _ _ pair)

end Option

theorem nodup_map_concat {f : α → β} {xs : List α} {x : α} :
    ((xs ++ [x]).map f).Nodup ↔ f x ∉ xs.map f ∧ (xs.map f).Nodup := by
  rw [List.map_append, List.map_singleton, ← List.concat_eq_append, List.nodup_concat]

theorem append_prefix_iff {us vs xs : List α} :
    us ++ vs <+: xs ↔ us <+: xs ∧ vs <+: xs.drop us.length := by
  constructor
  · rintro ⟨rest, rfl⟩
    exact ⟨⟨vs ++ rest, by simp⟩, ⟨rest, by simp⟩⟩
  · rintro ⟨⟨rest, rfl⟩, behind⟩
    rw [List.drop_left] at behind
    exact List.prefix_append_right_inj us |>.mpr behind

/-- One element alone is sent to a value, and the value is all that comes of the list. -/
theorem filterMap_eq_singleton_iff {f : α → Option β} {xs : List α} (distinct : xs.Nodup) {b : β} :
    xs.filterMap f = [b] ↔ ∃ x ∈ xs, f x = some b ∧ ∀ y ∈ xs, y ≠ x → f y = none := by
  rw [List.filterMap_eq_cons_iff]
  constructor
  · rintro ⟨before, x, after, rfl, hbefore, fits, hafter⟩
    refine ⟨x, by simp, fits, fun y hy other => ?_⟩
    rcases List.mem_append.mp hy with hy | hy
    · exact hbefore y hy
    · exact List.filterMap_eq_nil_iff.mp hafter y (List.mem_of_ne_of_mem other hy)
  · rintro ⟨x, hx, fits, alone⟩
    obtain ⟨before, after, rfl⟩ := List.append_of_mem hx
    have apart := List.nodup_middle.mp distinct
    have unlike : ∀ y ∈ before ++ after, y ≠ x := by
      rintro y hy rfl
      exact (List.nodup_cons.mp apart).1 hy
    refine ⟨before, x, after, rfl, fun y hy => ?_, fits, List.filterMap_eq_nil_iff.mpr fun y hy => ?_⟩
    · exact alone y (by simp [hy]) (unlike y (List.mem_append_left _ hy))
    · exact alone y (by simp [hy]) (unlike y (List.mem_append_right _ hy))

/-- Lists made of the elements of a list and of their positions are in order if each of them is and
if what comes of an earlier position goes first. -/
theorem pairwise_flatMap_zipIdx {R : β → β → Prop} {xs : List α} {f : α × Nat → List β}
    (within : ∀ p ∈ xs.zipIdx, (f p).Pairwise R)
    (across : ∀ p q : α × Nat, p.2 < q.2 → ∀ a ∈ f p, ∀ b ∈ f q, R a b) :
    (xs.zipIdx.flatMap f).Pairwise R := by
  have positions : xs.zipIdx.Pairwise fun p q => p.2 < q.2 := by
    have increasing : (xs.zipIdx.map Prod.snd).Pairwise (· < ·) := by
      rw [List.zipIdx_map_snd]
      exact List.pairwise_lt_range'
    exact List.pairwise_map.mp increasing
  exact List.pairwise_flatMap.mpr ⟨within, positions.imp fun lt => across _ _ lt⟩

theorem mem_intercalate {between x : α} {parts : List (List α)}
    (h : x ∈ [between].intercalate parts) : x = between ∨ ∃ part ∈ parts, x ∈ part := by
  induction parts with
  | nil => simp at h
  | cons part parts ih =>
    cases parts with
    | nil => exact .inr ⟨part, by simp, by simpa using h⟩
    | cons other parts =>
      rw [List.intercalate_cons_cons, List.append_assoc] at h
      rcases List.mem_append.mp h with here | behind
      · exact .inr ⟨part, by simp, here⟩
      rcases List.mem_append.mp behind with point | rest
      · exact .inl (by simpa using point)
      · rcases ih rest with point | ⟨p, hp, hx⟩
        · exact .inl point
        · exact .inr ⟨p, List.mem_cons_of_mem part hp, hx⟩

end ShapedTree
