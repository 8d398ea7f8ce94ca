import Mathlib.Data.List.Forall2
import ShapedTree.Proofs.Run.Ensures

namespace ShapedTree

/-- Issues that say the same at related paths. -/
def Issue.Like (P : List String → List String → Prop) (i j : Issue) : Prop :=
  P i.path j.path ∧ j = { i with path := j.path }

/-- The warnings among messages. -/
def warnings (log : List LogEntry) : List LogEntry := log.filter fun e => e.level == .warn

namespace RunState

variable {P : List String → List String → Prop} {e : ErrorMode} {A B : List LogEntry}
  {s t u : RunState}

/-- A run in the given mode has stopped. -/
def Stopped (e : ErrorMode) (t : RunState) : Prop := e = .failFast ∧ t.issues ≠ #[]

/-- Two runs in step: their issues are alike, and so is what they logged behind `A` and `B`. -/
structure InStep (P : List String → List String → Prop) (e : ErrorMode) (A B : List LogEntry)
    (s t : RunState) : Prop where
  issues : List.Forall₂ (Issue.Like P) s.issues.toList t.issues.toList
  log : ∃ d, s.log.toList = A ++ d ∧ t.log.toList = B ++ d
  going : ¬ t.Stopped e

/-- The second run has stopped at its first issue, which is like the first one of the first run. -/
structure Parted (P : List String → List String → Prop) (e : ErrorMode) (A B : List LogEntry)
    (s t : RunState) : Prop where
  stopped : t.Stopped e
  issues : ∃ i is j, s.issues.toList = i :: is ∧ t.issues.toList = [j] ∧ i.Like P j
  log : ∃ d d', s.log.toList = A ++ d ∧ t.log.toList = B ++ d' ∧ warnings d' <+: warnings d

theorem InStep.size_eq (h : InStep P e A B s t) : s.issues.size = t.issues.size := by
  simpa using h.issues.length_eq

theorem InStep.clean_iff (h : InStep P e A B s t) : s.Clean ↔ t.Clean := by
  rw [Clean, Clean, ← Array.size_eq_zero_iff, ← Array.size_eq_zero_iff, h.size_eq]

theorem InStep.clean (h : InStep P .failFast A B s t) : t.Clean := by
  by_contra recorded
  exact h.going ⟨rfl, recorded⟩

theorem InStep.of_clean (hs : s.Clean) (ht : t.Clean) :
    InStep P e s.log.toList t.log.toList s t where
  issues := by rw [hs, ht]; exact .nil
  log := ⟨[], by simp, by simp⟩
  going := fun stopped => stopped.2 ht

theorem InStep.fresh (m m' : Memory) : InStep P e [] [] { memory := m } { memory := m' } where
  issues := .nil
  log := ⟨[], rfl, rfl⟩
  going := fun stopped => stopped.2 rfl

theorem Parted.not_clean (h : Parted P e A B s t) : ¬ s.Clean := by
  obtain ⟨i, is, j, hs, -⟩ := h.issues
  intro clean
  rw [clean] at hs
  cases hs

/-- Whatever the first run adds, the two stay parted. -/
theorem Parted.mono (h : Parted P e A B s t) (le : s.Precedes u) : Parted P e A B u t := by
  obtain ⟨i, is, j, hs, ht, like⟩ := h.issues
  obtain ⟨d, d', hA, hB, fewer⟩ := h.log
  obtain ⟨more, issues⟩ := le.issues
  obtain ⟨later, log⟩ := le.log
  refine ⟨h.stopped, ⟨i, is ++ more, j, ?_, ht, like⟩, d ++ later, d', ?_, hB, ?_⟩
  · rw [← issues, hs, List.cons_append]
  · rw [← log, hA, List.append_assoc]
  · exact fewer.trans (by simp [warnings])

end RunState

namespace Run

open RunState ShapedTree.Computation

variable {α β : Type} {P : List String → List String → Prop} {e : ErrorMode}

/-- A stopped run comes to a result, records no issue and warns of nothing. -/
def Inert (e : ErrorMode) (bad : β → Prop) (y : Run β) : Prop :=
  ∀ t, t.Stopped e → ∃ b t', y t = (.ok b, t') ∧ t'.issues = t.issues ∧
    (∃ d, t'.log.toList = t.log.toList ++ d ∧ warnings d = []) ∧ bad b

/-- A run is followed by another one: in step both come to the same, and the second one parts from
the first only by stopping, with a result that is `bad`. -/
structure Follows (P : List String → List String → Prop) (e : ErrorMode) (bad : α → Prop)
    (x y : Run α) : Prop where
  grows : Ensures x fun _ => True
  tracks : ∀ A B s t a s', InStep P e A B s t → x s = (.ok a, s') →
    ∃ b t', y t = (.ok b, t') ∧
      (InStep P e A B s' t' ∧ b = a ∨ Parted P e A B s' t' ∧ bad b)

namespace Inert

variable {bad : β → Prop} {worse : α → Prop}

theorem pure {b : β} (h : bad b) : Inert e bad (pure b) := fun t _ =>
  ⟨b, t, rfl, rfl, ⟨[], by simp, rfl⟩, h⟩

theorem bind {y : Run α} {g : α → Run β} (hy : Inert e worse y)
    (hg : ∀ a, worse a → Inert e bad (g a)) : Inert e bad (y >>= g) := by
  intro t stopped
  obtain ⟨a, t', run, same, ⟨d, log, quiet⟩, ha⟩ := hy t stopped
  have still : t'.Stopped e := ⟨stopped.1, same ▸ stopped.2⟩
  obtain ⟨b, t'', run', same', ⟨d', log', quiet'⟩, hb⟩ := hg a ha t' still
  refine ⟨b, t'', by rw [bind_of_ok run, run'], same'.trans same, ⟨d ++ d', ?_, ?_⟩, hb⟩
  · rw [log', log, List.append_assoc]
  · simp only [warnings, List.filter_append] at quiet quiet' ⊢
    rw [quiet, quiet', List.append_nil]

/-- A stopped run finds out that it has stopped. -/
theorem halted {rules : Rules} (mode : rules.errors = e) :
    Inert e (· = true) (halted rules) := by
  intro t stopped
  have recorded : t.issues.isEmpty = false := by simpa using stopped.2
  refine ⟨true, t, ?_, rfl, ⟨[], by simp, rfl⟩, rfl⟩
  rw [halted_apply, mode, stopped.1, recorded]
  rfl

theorem guard {rules : Rules} (mode : rules.errors = e) {y z : Run β} (h : Inert e bad y) :
    Inert e bad (do if ← Run.halted rules then y else z) :=
  (halted mode).bind fun stopped yes => by rw [yes]; exact h

theorem report {rules : Rules} (mode : rules.errors = e) {path : List String} {kind : IssueKind}
    {message : String} {suggestion : Option String} {raw : Option Value} :
    Inert e (fun _ => True) (report rules path kind message suggestion raw) := by
  unfold Run.report
  exact guard mode (.pure trivial)

theorem debug (text : String) : Inert e (fun _ => True) (log .debug text) := fun t _ =>
  ⟨(), _, rfl, rfl, ⟨[⟨.debug, text⟩], by simp, rfl⟩, trivial⟩

end Inert

namespace Follows

variable {bad : α → Prop} {worse : β → Prop} {x y : Run α}

theorem pure (a : α) : Follows P e bad (pure a) (pure a) where
  grows := .pure trivial
  tracks A B s t b s' step run := by
    obtain ⟨hab, rfl⟩ := Prod.mk.inj run
    cases hab
    exact ⟨a, t, rfl, .inl ⟨step, rfl⟩⟩

theorem throw {f : Fault} :
    Follows P e bad (MonadExcept.throw f : Run α) (MonadExcept.throw f) where
  grows := .throw
  tracks A B s t b s' step run := by cases (Prod.mk.inj run).1

theorem lift (r : Except Fault α) : Follows P e (fun _ => False) (liftM r) (liftM r) where
  grows := (Ensures.lift r).mono fun _ _ => trivial
  tracks A B s t b s' step run := by
    obtain ⟨rfl, rfl⟩ := Prod.mk.inj run
    exact ⟨b, t, rfl, .inl ⟨step, rfl⟩⟩

theorem bind_returns {f g : α → Run β} {Q : α → Prop} (hx : Follows P e bad x y)
    (hr : Returns x Q) (hf : ∀ a, Q a → Follows P e worse (f a) (g a))
    (hg : ∀ a, bad a → Inert e worse (g a)) : Follows P e worse (x >>= f) (y >>= g) where
  grows := hx.grows.bind_returns hr fun a ha => (hf a ha).grows.mono fun _ _ _ => trivial
  tracks A B s t b s'' step run := by
    obtain ⟨a, s', hxa, hfa⟩ := bind_eq_ok run
    have next := hf a (hr s a s' hxa)
    obtain ⟨a', t', hya, ⟨step', rfl⟩ | ⟨parted, ha⟩⟩ := hx.tracks A B s t a s' step hxa
    · obtain ⟨b', t'', hgb, after⟩ := next.tracks A B s' t' b s'' step' hfa
      exact ⟨b', t'', by rw [bind_of_ok hya, hgb], after⟩
    · obtain ⟨b', t'', hgb, same, ⟨d, log, quiet⟩, hb⟩ := hg a' ha t' parted.stopped
      refine ⟨b', t'', by rw [bind_of_ok hya, hgb], .inr ⟨?_, hb⟩⟩
      obtain ⟨stopped, ⟨i, is, j, hs, ht, like⟩, ⟨c, c', hA, hB, fewer⟩⟩ :=
        parted.mono (next.grows s' b s'' hfa).1
      refine ⟨⟨stopped.1, same ▸ stopped.2⟩, ⟨i, is, j, hs, by rw [same, ht], like⟩,
        ⟨c, c' ++ d, hA, by rw [log, hB, List.append_assoc], ?_⟩⟩
      simp only [warnings, List.filter_append] at quiet fewer ⊢
      rwa [quiet, List.append_nil]

theorem bind {f g : α → Run β} (hx : Follows P e bad x y)
    (hf : ∀ a, Follows P e worse (f a) (g a)) (hg : ∀ a, bad a → Inert e worse (g a)) :
    Follows P e worse (x >>= f) (y >>= g) :=
  hx.bind_returns (Q := fun _ => True) (fun _ _ _ _ => trivial) (fun a _ => hf a) hg

/-- After runs that never part there is no parting to follow up. -/
theorem bind_together {f g : α → Run β} (hx : Follows P e (fun _ => False) x y)
    (hf : ∀ a, Follows P e worse (f a) (g a)) : Follows P e worse (x >>= f) (y >>= g) :=
  hx.bind hf fun _ no => no.elim

/-- Both runs ask whether they have stopped, and in step neither has. -/
theorem guard {full quick : Rules} (mode : quick.errors = e)
    (pace : quick.errors = full.errors ∨ quick.errors = .failFast) {z w : Run α}
    (hz : Ensures z fun _ => True) (h : Follows P e bad x y) :
    Follows P e bad (do if ← halted full then z else x) (do if ← halted quick then w else y) where
  grows := by
    refine Ensures.halted.bind fun stopped => ?_
    cases stopped with
    | true => exact hz.mono fun _ _ _ => trivial
    | false => exact h.grows.mono fun _ _ _ => trivial
  tracks A B s t a s' step run := by
    have still : quick.errors ≠ .failFast ∨ t.issues.isEmpty = true := by
      by_cases fast : quick.errors = .failFast
      · have := step.going
        simp only [Stopped, ← mode, fast, true_and, not_not] at this
        simp [this]
      · exact .inl fast
    have same : s.issues.isEmpty = t.issues.isEmpty := by
      rw [Bool.eq_iff_iff, Array.isEmpty_iff, Array.isEmpty_iff]
      exact step.clean_iff
    have second : (quick.errors == .failFast && !t.issues.isEmpty) = false := by
      rcases still with other | empty
      · simp [other]
      · simp [empty]
    have first : (full.errors == .failFast && !s.issues.isEmpty) = false := by
      rcases pace with pace | pace
      · rw [same, ← pace, second]
      · rcases still with other | empty
        · exact absurd pace other
        · simp [same, empty]
    rw [bind_of_ok (halted_apply full s), first] at run
    rw [bind_of_ok (halted_apply quick t), second]
    exact h.tracks A B s t a s' step run

/-- The same messages keep two runs in step. -/
theorem modifyLog {f : RunState → RunState} {d : List LogEntry}
    (issues : ∀ s, (f s).issues = s.issues)
    (log : ∀ s, (f s).log.toList = s.log.toList ++ d) :
    Follows P e (fun _ => False) (modify f) (modify f) where
  grows := Ensures.modify fun s =>
    ⟨by simp [issues s], ⟨d, (log s).symm⟩⟩
  tracks A B s t a s' step run := by
    obtain ⟨-, rfl⟩ := Prod.mk.inj run
    obtain ⟨c, hA, hB⟩ := step.log
    refine ⟨(), f t, rfl, .inl ⟨⟨?_, ⟨c ++ d, ?_, ?_⟩, ?_⟩, rfl⟩⟩
    · rw [issues, issues]
      exact step.issues
    · rw [log, hA, List.append_assoc]
    · rw [log, hB, List.append_assoc]
    · rw [Stopped, issues]
      exact step.going

theorem log (level : LogLevel) (text : String) :
    Follows P e (fun _ => False) (log level text) (log level text) :=
  modifyLog (d := [⟨level, text⟩]) (by intro s; rfl) (by intro s; simp)

theorem adopt (entries : Array LogEntry) :
    Follows P e (fun _ => False) (adopt entries) (adopt entries) :=
  modifyLog (d := (entries.filter fun e => e.level == .warn).toList) (by intro s; rfl)
    (by intro s; simp)

theorem received (raw : Option Value) :
    Follows P e (fun _ => False) (received raw) (received raw) := by
  unfold Run.received
  split
  · exact .pure none
  · exact .pure none
  · exact (lift _).bind (fun shown => .pure (some shown)) fun _ no => no.elim

/-- An issue stops the second run if it stops at issues at all. -/
theorem record {i j : Issue} (like : i.Like P j) :
    Follows P e (fun _ => True) (modify fun s => { s with issues := s.issues.push i })
      (modify fun s => { s with issues := s.issues.push j }) where
  grows := Ensures.modify fun s => ⟨by simp, List.prefix_refl _⟩
  tracks A B s t a s' step run := by
    obtain ⟨-, rfl⟩ := Prod.mk.inj run
    refine ⟨(), _, rfl, ?_⟩
    obtain ⟨d, hA, hB⟩ := step.log
    cases e with
    | failFast =>
      have ht : t.issues = #[] := step.clean
      have hs : s.issues = #[] := step.clean_iff.mpr step.clean
      refine .inr ⟨⟨⟨rfl, by simp⟩, ⟨i, [], j, by simp [hs], by simp [ht], like⟩, ?_⟩, trivial⟩
      exact ⟨d, d, hA, hB, List.prefix_refl _⟩
    | batch =>
      refine .inl ⟨⟨?_, ⟨d, hA, hB⟩, fun stopped => by cases stopped.1⟩, rfl⟩
      simpa using List.rel_append step.issues (.cons like .nil)

theorem report {full quick : Rules} (mode : quick.errors = e)
    (pace : quick.errors = full.errors ∨ quick.errors = .failFast) {p q : List String}
    (related : P p q) (kind : IssueKind) (message : String) (suggestion : Option String)
    (raw : Option Value) :
    Follows P e (fun _ => True) (report full p kind message suggestion raw)
      (report quick q kind message suggestion raw) := by
  unfold Run.report
  refine guard mode pace (.pure trivial) ?_
  exact (received raw).bind (fun shown => record ⟨related, rfl⟩) fun _ no => no.elim

/-- What one run comes to without an issue, the other one is certain to come to. -/
theorem certain (h : Follows P e bad x y) {a : α} (accepted : Accepted x a) : Certain y a := by
  obtain ⟨s, t, run, clean⟩ := accepted
  intro u fresh
  have before : s.Clean := (h.grows s a t run).1.clean clean
  obtain ⟨b, v, run', ⟨step, rfl⟩ | ⟨parted, -⟩⟩ :=
    h.tracks _ _ s u a t (.of_clean before fresh) run
  · exact ⟨v, run', step.clean_iff.mp clean⟩
  · exact absurd clean parted.not_clean

/-- The second run parts from the first one only with an issue to show for it. -/
theorem watched (h : Follows P e bad x y) :
    Follows P e (fun r => r.2 = true) (watched x) (watched y) where
  grows := h.grows.watched.mono fun _ _ => trivial
  tracks A B s t r s' step run := by
    obtain ⟨a, flawed⟩ := r
    obtain ⟨hx, rfl⟩ := eq_ok_of_watched run
    obtain ⟨b, t', hy, after⟩ := h.tracks A B s t a s' step hx
    refine ⟨_, t', watched_of_ok hy, after.imp ?_ ?_⟩
    · rintro ⟨step', rfl⟩
      exact ⟨step', by rw [step.size_eq, step'.size_eq]⟩
    · rintro ⟨parted, -⟩
      have fast := parted.stopped.1
      subst fast
      have before : t.issues = #[] := step.clean
      refine ⟨parted, decide_eq_true ?_⟩
      rw [before]
      exact Array.size_pos_iff.mpr parted.stopped.2

end Follows

/-- A run with an answer is followed by one that does nothing and has no answer once stopped. -/
structure Paired (P : List String → List String → Prop) (e : ErrorMode) (x y : Run (Option α)) :
    Prop where
  follows : Follows P e (· = none) x y
  inert : Inert e (· = none) y

end Run

end ShapedTree
