import Mathlib.Algebra.BigOperators.Group.Multiset.Basic
import ShapedTree.Proofs.Run.Lockstep

namespace ShapedTree

/-- The texts of the warnings among messages, each as often as it was logged. -/
def tally (entries : List LogEntry) : Multiset String := ↑((warnings entries).map LogEntry.text)

@[simp] theorem tally_nil : tally [] = 0 := rfl

@[simp] theorem tally_append (before after : List LogEntry) :
    tally (before ++ after) = tally before + tally after := by
  simp [tally, warnings]

@[simp] theorem tally_warnings (entries : List LogEntry) :
    tally (warnings entries) = tally entries := by
  simp [tally, warnings]

namespace Run

open ShapedTree.Computation

variable {α β : Type} {rules : Rules}

/-- A computation only adds issues and messages; a result that it comes to without any issue
satisfies `post`, together with the tally of the warnings that it adds. -/
def Tallies (x : Run α) (post : α → Multiset String → Prop) : Prop :=
  ∀ s a t, x s = (.ok a, t) → s.Precedes t ∧
    (t.Clean → ∃ w, tally t.log.toList = tally s.log.toList + w ∧ post a w)

/-- A computation that logs nothing. -/
def Silent (x : Run α) : Prop := ∀ s a t, x s = (.ok a, t) → t.log = s.log

namespace Silent

variable {x : Run α}

theorem pure (a : α) : Silent (pure a) := by
  intro s b t run
  cases run
  rfl

theorem bind {f : α → Run β} (hx : Silent x) (hf : ∀ a, Silent (f a)) : Silent (x >>= f) := by
  intro s b u run
  obtain ⟨a, t, first, second⟩ := bind_eq_ok run
  exact (hf a t b u second).trans (hx s a t first)

theorem lift (e : Except Fault α) : Silent (liftM e) := by
  intro s a t run
  exact congrArg RunState.log (Prod.mk.inj run).2.symm

theorem get : Silent (get : Run RunState) := by
  intro s a t run
  cases run
  rfl

theorem modify {f : RunState → RunState} (same : ∀ s, (f s).log = s.log) :
    Silent (modify f) := by
  intro s a t run
  cases run
  exact same s

theorem halted : Silent (halted rules) := by
  intro s a t run
  cases run
  rfl

theorem test (p : Pattern) (text : String) : Silent (test p text) := by
  refine get.bind fun s => ?_
  cases remembers : p.remembers with
  | true =>
    simp only [if_true]
    refine (modify fun t => ?_).bind fun _ => .pure _
    rfl
  | false =>
    simp only [Bool.false_eq_true, if_false]
    exact .pure _

theorem trial : Silent (trial x) := by
  rintro s ⟨a, issues, entries⟩ t run
  unfold Run.trial at run
  split at run
  next => cases run; rfl
  next => cases run

end Silent

namespace Tallies

variable {x : Run α} {P Q : α → Multiset String → Prop}

theorem mono (h : Tallies x P) (le : ∀ a w, P a w → Q a w) : Tallies x Q := by
  intro s a t run
  refine ⟨(h s a t run).1, fun clean => ?_⟩
  obtain ⟨w, added, post⟩ := (h s a t run).2 clean
  exact ⟨w, added, le a w post⟩

theorem and_ensures {post : α → Prop} (h : Tallies x P) (h' : Ensures x post) :
    Tallies x fun a w => P a w ∧ post a := by
  intro s a t run
  refine ⟨(h s a t run).1, fun clean => ?_⟩
  obtain ⟨w, added, own⟩ := (h s a t run).2 clean
  exact ⟨w, added, own, (h' s a t run).2 clean⟩

theorem ensures (h : Tallies x P) : Ensures x fun a => ∃ w, P a w := by
  intro s a t run
  refine ⟨(h s a t run).1, fun clean => ?_⟩
  obtain ⟨w, -, post⟩ := (h s a t run).2 clean
  exact ⟨w, post⟩

theorem silent {post : α → Prop} (h : Ensures x post) (quiet : Silent x)
    (le : ∀ a, post a → P a 0) : Tallies x P := by
  intro s a t run
  refine ⟨(h s a t run).1, fun clean => ⟨0, ?_, le a ((h s a t run).2 clean)⟩⟩
  rw [quiet s a t run, add_zero]

theorem pure {a : α} (h : P a 0) : Tallies (pure a) P :=
  silent (.pure h) (.pure a) fun _ same => same

theorem throw {e : Fault} : Tallies (MonadExcept.throw e : Run α) P := by
  intro s a t run
  cases run

/-- What follows adds its warnings to those that were there, for the results that are returned. -/
theorem bind_returns {f : α → Run β} {R : α → Prop} {post : β → Multiset String → Prop}
    (hx : Tallies x P) (hr : Returns x R)
    (hf : ∀ a, R a → Tallies (f a) fun b w => ∀ v, P a v → post b (v + w)) :
    Tallies (x >>= f) post := by
  intro s b u run
  obtain ⟨a, t, first, second⟩ := bind_eq_ok run
  have returned : R a := hr s a t first
  obtain ⟨before, first⟩ := hx s a t first
  obtain ⟨after, second⟩ := hf a returned t b u second
  refine ⟨before.trans after, fun clean => ?_⟩
  obtain ⟨v, added, hv⟩ := first (after.clean clean)
  obtain ⟨w, added', hw⟩ := second clean
  exact ⟨v + w, by rw [added', added, add_assoc], hw v hv⟩

theorem bind {f : α → Run β} {post : β → Multiset String → Prop} (hx : Tallies x P)
    (hf : ∀ a, Tallies (f a) fun b w => ∀ v, P a v → post b (v + w)) : Tallies (x >>= f) post :=
  hx.bind_returns (R := fun _ => True) (fun _ _ _ _ => trivial) fun a _ => hf a

/-- What comes after a computation that logs nothing is counted alone. -/
theorem after {f : α → Run β} {pre : α → Prop} {post : β → Multiset String → Prop}
    (hx : Ensures x pre) (quiet : Silent x)
    (hf : ∀ a, Tallies (f a) fun b w => pre a → post b w) : Tallies (x >>= f) post := by
  have counted : Tallies x fun a v => v = 0 ∧ pre a := silent hx quiet fun _ h => ⟨rfl, h⟩
  refine counted.bind fun a => (hf a).mono fun b w h v hv => ?_
  rw [hv.1, zero_add]
  exact h hv.2

/-- What is not asked for matters only for what it adds. -/
theorem top (h : Tallies x P) : Tallies x fun _ _ => True := h.mono fun _ _ _ => trivial

theorem guard {y : Run α} (hy : Tallies y fun _ _ => True) (hx : Tallies x P) :
    Tallies (do if ← halted rules then y else x) P := by
  refine after Ensures.halted .halted fun stopped => ?_
  cases stopped with
  | true => exact hy.mono fun _ _ _ no => by cases no
  | false => exact hx.mono fun _ _ h _ => h

/-- A report leaves an issue, so that nothing is counted. -/
theorem report {path : List String} {kind : IssueKind} {message : String}
    {suggestion : Option String} {raw : Option Value} {post : Unit → Multiset String → Prop} :
    Tallies (report rules path kind message suggestion raw) post := by
  intro s a t run
  obtain ⟨before, no⟩ := Ensures.report s a t run
  exact ⟨before, fun clean => (no clean).elim⟩

theorem refuse {path : List String} {kind : IssueKind} {message : String}
    {suggestion : Option String} {raw : Option Value} {a : α} :
    Tallies (do Run.report rules path kind message suggestion raw; return a) P :=
  bind (P := fun _ _ => False) report fun _ => .pure fun _ no => no.elim

theorem warn (text : String) : Tallies (log .warn text) fun _ w => w = {text} := by
  intro s a t run
  refine ⟨(Ensures.log _ _ s a t run).1, fun _ => ⟨{text}, ?_, rfl⟩⟩
  cases run
  rw [Array.toList_push, tally_append]
  rfl

theorem debug (text : String) : Tallies (log .debug text) fun _ w => w = 0 := by
  intro s a t run
  refine ⟨(Ensures.log _ _ s a t run).1, fun _ => ⟨0, ?_, rfl⟩⟩
  cases run
  rw [Array.toList_push, tally_append]
  rfl

/-- The warnings of a trial are counted when they are taken over. -/
theorem adopt (entries : Array LogEntry) :
    Tallies (adopt entries) fun _ w => w = tally entries.toList := by
  intro s a t run
  refine ⟨(Ensures.adopt _ s a t run).1, fun _ => ⟨_, ?_, rfl⟩⟩
  cases run
  simpa [warnings] using congrArg (tally s.log.toList + ·) (tally_warnings entries.toList)

/-- A trial logs nothing of its own, and shows what it would have added. -/
theorem trial (h : Tallies x P) :
    Tallies (trial x) fun r w => w = 0 ∧ (r.2.1 = #[] → P r.1 (tally r.2.2.toList)) := by
  have shown : Ensures (Run.trial x) fun r => r.2.1 = #[] → P r.1 (tally r.2.2.toList) := by
    rintro s ⟨a, issues, entries⟩ t run
    refine ⟨(h.ensures.trial s _ t run).1, fun _ clean => ?_⟩
    unfold Run.trial at run
    split at run
    next b u first =>
      cases run
      obtain ⟨w, added, post⟩ := (h _ _ _ first).2 clean
      have counted : tally u.log.toList = w := by simpa using added
      exact counted ▸ post
    next => cases run
  exact silent shown .trial fun _ hr => ⟨rfl, hr⟩

theorem watched (h : Tallies x P) : Tallies (watched x) fun r w => r.2 = false ∧ P r.1 w := by
  rintro s ⟨a, flawed⟩ t run
  obtain ⟨first, rfl⟩ := eq_ok_of_watched run
  obtain ⟨before, post⟩ := h s a t first
  refine ⟨before, fun clean => ?_⟩
  obtain ⟨w, added, hw⟩ := post clean
  exact ⟨w, added, by simp [show t.issues = #[] from clean], hw⟩

end Tallies

end Run

end ShapedTree
