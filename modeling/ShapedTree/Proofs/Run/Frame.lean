import ShapedTree.Proofs.Run.Lockstep
import ShapedTree.Proofs.Run.Logic

namespace ShapedTree

namespace RunState

variable {rules : Rules} {pre : Array Issue} {A : Array LogEntry} {u s : RunState}

/-- The state `s` is the state `u` in a frame that does not stop the run. -/
structure Behind (rules : Rules) (pre : Array Issue) (A : Array LogEntry) (u s : RunState) :
    Prop where
  issues : s.issues = pre ++ u.issues
  log : s.log = A ++ u.log
  going : pre = #[] ∨ rules.errors = .batch

theorem Behind.fresh (m m' : Memory) : Behind rules #[] #[] { memory := m } { memory := m' } :=
  ⟨rfl, rfl, .inl rfl⟩

/-- A run that has not stopped goes on like a fresh one. -/
theorem Behind.of_going (going : ¬ s.Stopped rules.errors) (m : Memory) :
    Behind rules s.issues s.log { memory := m } s := by
  refine ⟨by simp, by simp, ?_⟩
  cases mode : rules.errors with
  | batch => exact .inr rfl
  | failFast =>
    by_contra recorded
    exact going ⟨mode, fun clean => recorded (.inl clean)⟩

end RunState

namespace Run

open RunState ShapedTree.Computation

variable {rules : Rules} {α β : Type} {x : Run α} {P : α → Prop}

theorem halted_of_going {s : RunState} (going : ¬ s.Stopped rules.errors) :
    Run.halted rules s = (.ok false, s) := by
  rw [halted_apply]
  cases mode : rules.errors with
  | batch => rfl
  | failFast =>
    have clean : s.issues = #[] := by
      by_contra recorded
      exact going ⟨mode, recorded⟩
    rw [clean]
    rfl

/-- A result of `x` satisfies `post`, and in every frame `x` comes to that result and records the
same. -/
def Framed (rules : Rules) (x : Run α) (post : α → Prop) : Prop :=
  ∀ pre A u s a u', Behind rules pre A u s → x u = (.ok a, u') →
    post a ∧ ∃ s', x s = (.ok a, s') ∧ Behind rules pre A u' s'

namespace Framed

theorem pure {a : α} (h : P a) : Framed rules (pure a) P := by
  intro pre A u s b u' behind run
  cases run
  exact ⟨h, s, rfl, behind⟩

theorem mono {Q : α → Prop} (h : Framed rules x P) (le : ∀ a, P a → Q a) : Framed rules x Q :=
  fun pre A u s a u' behind run => (h pre A u s a u' behind run).imp_left (le a)

theorem bind {f : α → Run β} {Q : β → Prop} (hx : Framed rules x P)
    (hf : ∀ a, P a → Framed rules (f a) Q) : Framed rules (x >>= f) Q := by
  intro pre A u s b u' behind run
  obtain ⟨a, v, first, second⟩ := bind_eq_ok run
  obtain ⟨ha, t, first', between⟩ := hx pre A u s a v behind first
  obtain ⟨hb, s', second', after⟩ := hf a ha pre A v t b u' between second
  exact ⟨hb, s', by rw [bind_of_ok first', second'], after⟩

theorem lift {e : Except Fault α} (h : ∀ a, e = .ok a → P a) : Framed rules (liftM e) P := by
  intro pre A u s a u' behind run
  cases e with
  | error fault => cases run
  | ok b =>
    cases run
    exact ⟨h a rfl, s, rfl, behind⟩

theorem halted : Framed rules (halted rules) fun _ => True := by
  intro pre A u s stopped u' behind run
  rw [halted_apply] at run
  cases run
  refine ⟨trivial, s, ?_, behind⟩
  rw [halted_apply, behind.issues]
  rcases behind.going with rfl | batch
  · rw [Array.empty_append]
  · rw [batch]
    rfl

theorem modify {f : RunState → RunState}
    (h : ∀ pre A u s, Behind rules pre A u s → Behind rules pre A (f u) (f s)) :
    Framed rules (modify f) fun _ => True := by
  intro pre A u s a u' behind run
  cases run
  exact ⟨trivial, f s, rfl, h pre A u s behind⟩

theorem watched (h : Framed rules x P) : Framed rules (watched x) fun r => P r.1 := by
  intro pre A u s (a, flawed) u' behind run
  obtain ⟨inner, rfl⟩ := eq_ok_of_watched run
  obtain ⟨ha, s', inner', after⟩ := h pre A u s a u' behind inner
  refine ⟨ha, s', ?_, after⟩
  rw [watched_of_ok inner', behind.issues, after.issues]
  simp

theorem trial (h : Framed rules x P) : Framed rules (trial x) fun r => P r.1 := by
  intro pre A u s r u' behind run
  unfold Run.trial at run ⊢
  split at run
  next a v tried =>
    cases run
    obtain ⟨ha, t, tried', same⟩ := h #[] #[] _ _ a v (.fresh u.memory s.memory) tried
    refine ⟨ha, { s with memory := t.memory }, ?_, behind.issues, behind.log, behind.going⟩
    have issues : t.issues = v.issues := by rw [same.issues, Array.empty_append]
    have log : t.log = v.log := by rw [same.log, Array.empty_append]
    rw [tried', ← issues, ← log]
  next => cases run

end Framed

/-- The logic of computations that do not look behind what they record. -/
def Logic.framed (rules : Rules) : Logic rules where
  total := False
  remembers := False
  Holds x P := Framed rules x P
  mono h le := h.mono le
  pure h := .pure h
  bind hx hf := hx.bind hf
  lift _ post := .lift post
  halted := .halted
  record issue := .modify fun pre A u s behind =>
    ⟨by simp [behind.issues], behind.log, behind.going⟩
  log level text := .modify fun pre A u s behind =>
    ⟨behind.issues, by simp [behind.log], behind.going⟩
  adopt entries := .modify fun pre A u s behind =>
    ⟨behind.issues, by simp [behind.log, Array.append_assoc], behind.going⟩
  useMemory _ no := no.elim
  watched h := h.watched
  trial h := h.trial

end Run

end ShapedTree
