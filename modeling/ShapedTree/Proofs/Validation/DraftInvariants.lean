import ShapedTree.Proofs.Run.Frame
import ShapedTree.Proofs.Validation.NodeCalls

namespace ShapedTree

open Run ShapedTree.Computation

namespace Validation

variable {rules : Rules} {value : ValueRun} {schema : Schema} {record : Entries Value}
  {place : Place} {I : Draft → Prop}

/-- What every field keeps that is resolved at once, the first pass keeps. -/
theorem firstPass_invariant (specs : List FieldSpec)
    (declared : ∀ spec ∈ specs, spec ∈ schema.fields)
    (step : ∀ spec ∈ specs, ∀ raw, Feeds record spec raw →
      (!raw.isNull && rules.registry.kinds.isNested spec.kind) = false → ∀ draft mark, I draft →
        Grants (resolve value place draft spec raw mark) I)
    {draft : Draft} (h : I draft) :
    Grants (firstPass rules value schema record place draft specs) fun r =>
      (∀ slot ∈ r.1, slot.FedBy schema record) ∧ I r.2 := by
  induction specs generalizing draft with
  | nil => exact .pure ⟨List.forall_mem_nil _, h⟩
  | cons spec rest ih =>
    obtain ⟨here, others⟩ := List.forall_mem_cons.mp declared
    obtain ⟨keeps, keep⟩ := List.forall_mem_cons.mp step
    have next : ∀ (draft : Draft) (slot : Slot), I draft → slot.FedBy schema record → Grants (do
          let r ← firstPass rules value schema record place draft rest
          return (slot :: r.1, r.2)) fun r : List Slot × Draft =>
            (∀ slot ∈ r.1, slot.FedBy schema record) ∧ I r.2 :=
      fun draft slot h hslot => (ih others keep h).bind fun r hr =>
        .pure ⟨List.forall_mem_cons.mpr ⟨hslot, hr.1⟩, hr.2⟩
    have idle : ∀ supplied, Slot.FedBy schema record { spec, supplied } := fun supplied =>
      ⟨here, fun raw mark no => by cases no⟩
    unfold firstPass
    refine Grants.halted.bind fun stopped _ => ?_
    cases stopped with
    | true => exact next draft _ h (idle false)
    | false =>
      have starts : Grants (start schema record spec) (Permits fun st => Feeds record spec st.1) :=
        .of_returns (start_ensures spec) (start_feeds spec)
      refine starts.bind fun started fed => ?_
      rcases started with _ | ⟨raw, mark⟩
      · exact next draft _ h (idle false)
      · have hraw : Feeds record spec raw := fed _ rfl
        simp only
        split
        next =>
          refine next draft _ h ⟨here, fun raw' mark' same => ?_⟩
          cases same
          exact hraw
        next ready =>
          exact (keeps raw hraw (Bool.eq_false_iff.mpr ready) draft mark h).bind fun d hd =>
            next d _ hd (idle _)

/-- What every field keeps that is resolved, the second pass keeps. -/
theorem secondPass_invariant (slots : List Slot) (fed : ∀ slot ∈ slots, slot.FedBy schema record)
    (step : ∀ slot ∈ slots, ∀ raw, Feeds record slot.spec raw → ∀ draft mark, I draft →
      Grants (resolve value place draft slot.spec raw mark) I)
    (earlier : List String) {draft : Draft} (h : I draft) :
    Grants (secondPass rules value place earlier draft slots) I := by
  induction slots generalizing earlier draft with
  | nil => exact .pure h
  | cons slot rest ih =>
    obtain ⟨here, others⟩ := List.forall_mem_cons.mp fed
    obtain ⟨keeps, keep⟩ := List.forall_mem_cons.mp step
    unfold secondPass
    refine Grants.halted.bind fun stopped _ => ?_
    cases stopped with
    | true => exact ih others keep _ h
    | false =>
      simp only [Bool.false_eq_true, if_false]
      split
      next raw mark waiting =>
        exact (keeps raw (here.waiting raw mark waiting) draft mark h).bind fun d hd =>
          ih others keep _ hd
      next generate _ _ default =>
        refine (Grants.lift _).bind fun raw made => ?_
        exact (keeps raw (.inr ⟨_, default, _, made⟩) draft true h).bind fun d hd =>
          ih others keep _ hd
      next => exact ih others keep _ h

/-- The second pass does nothing in a run that has stopped. -/
theorem secondPass_of_stopped {s : RunState} (stopped : s.Stopped rules.errors)
    (slots : List Slot) (earlier : List String) (draft : Draft) :
    secondPass rules value place earlier draft slots s = (.ok draft, s) := by
  have asked : halted rules s = (.ok true, s) := by
    rw [halted_apply, stopped.1, show s.issues.isEmpty = false by simpa using stopped.2]
    rfl
  induction slots generalizing earlier with
  | nil => rfl
  | cons slot rest ih =>
    unfold secondPass
    rw [bind_of_ok asked]
    exact ih _

/-- A computation only adds issues and messages, and whatever it returns satisfies `post` unless it
has recorded an issue or the run has stopped. -/
def Flags (rules : Rules) {α : Type} (x : Run α) (post : α → Prop) : Prop :=
  ∀ s a t, x s = (.ok a, t) → s.Precedes t ∧
    (post a ∨ s.issues.size < t.issues.size ∨ t.Stopped rules.errors)

namespace Flags

variable {α β : Type} {x : Run α} {f : α → Run β} {P : α → Prop} {Q : β → Prop}

theorem pure {a : α} {post : α → Prop} (h : post a) : Flags rules (pure a) post := by
  intro s b t run
  cases run
  exact ⟨.refl _, .inl h⟩

theorem mono {Q : α → Prop} (h : Flags rules x P) (le : ∀ a, P a → Q a) : Flags rules x Q :=
  fun s a t run => (h s a t run).imp_right fun flagged => flagged.imp_left (le a)

/-- Later steps take no issue back. -/
theorem bind {R : α → β → Prop} (hx : Flags rules x P) (hf : ∀ a, Grants (f a) (R a)) :
    Flags rules (x >>= f) fun b => ∃ a, P a ∧ R a b := by
  intro s b u run
  obtain ⟨a, t, first, second⟩ := bind_eq_ok run
  obtain ⟨before, ha⟩ := hx s a t first
  obtain ⟨after, hb⟩ := hf a t b u second
  refine ⟨before.trans after, ?_⟩
  have grown : t.issues.size ≤ u.issues.size := by simpa using after.issues.length_le
  rcases ha with ha | flawed | stopped
  · exact .inl ⟨a, ha, hb⟩
  · exact .inr (.inl (flawed.trans_le grown))
  · refine .inr (.inr ⟨stopped.1, fun clean => stopped.2 ?_⟩)
    exact after.clean clean

/-- Earlier steps only add to the issues. -/
theorem after (hx : Grants x P) (hf : ∀ a, P a → Flags rules (f a) Q) :
    Flags rules (x >>= f) Q := by
  intro s b u run
  obtain ⟨a, t, first, second⟩ := bind_eq_ok run
  obtain ⟨before, ha⟩ := hx s a t first
  obtain ⟨after, hb⟩ := hf a ha t b u second
  have grown : s.issues.size ≤ t.issues.size := by simpa using before.issues.length_le
  exact ⟨before.trans after, hb.imp_right fun hb => hb.imp_left grown.trans_lt⟩

theorem report {path : List String} {kind : IssueKind} {message : String}
    {suggestion : Option String} {raw : Option Value} :
    Flags rules (report rules path kind message suggestion raw) fun _ => False := by
  intro s a t run
  rcases report_eq_ok run with ⟨rfl, yes⟩ | ⟨issue, rfl⟩
  · exact ⟨.refl _, .inr (.inr (by simpa [RunState.Stopped] using yes))⟩
  · exact ⟨⟨by simp, List.prefix_refl _⟩, .inr (.inl (by simp))⟩

end Flags

/-- A node is answered only from a draft that was filled without an issue. -/
theorem checkFields_finishes
    (filled : Flags rules (fill rules value schema record place) I) :
    Grants (checkFields rules value schema record place) (Permits fun n =>
      ∃ d, I d ∧ n = d.finish schema.fieldNames schema.choiceType schema.compactable) := by
  rw [checkFields_eq]
  intro s answer t run
  obtain ⟨⟨draft, flawed⟩, s', watched, run⟩ := bind_eq_ok run
  obtain ⟨reached, flag⟩ := eq_ok_of_watched watched
  obtain ⟨before, flagged⟩ := filled s draft s' reached
  cases flawed with
  | true =>
    cases run
    exact ⟨before, .none⟩
  | false =>
    simp only [Bool.false_eq_true, if_false] at run
    obtain ⟨stopped, s'', asked, run⟩ := bind_eq_ok run
    obtain ⟨same, rfl⟩ := Prod.mk.inj asked
    cases stopped with
    | true =>
      cases run
      exact ⟨before, .none⟩
    | false =>
      simp only [Bool.false_eq_true, if_false] at run
      obtain ⟨passed, s'', checked, run⟩ := bind_eq_ok run
      have later := (checkNode_ensures _ _ _ checked).1
      have going : ¬ s'.Stopped rules.errors := by
        simpa [RunState.Stopped] using same
      have kept : ¬ s.issues.size < s'.issues.size := by simpa using flag
      have invariant := flagged.resolve_right fun no => no.elim kept going
      cases passed with
      | false =>
        cases run
        exact ⟨before.trans later, .none⟩
      | true =>
        cases run
        exact ⟨before.trans later, .some ⟨draft, invariant, rfl⟩⟩

end Validation

end ShapedTree
