import ShapedTree.Proofs.Run.Computation
import ShapedTree.Validation.Run

namespace ShapedTree

namespace RunState

/-- No issue is recorded. -/
def Clean (s : RunState) : Prop := s.issues = #[]

/-- The issues and messages of a state are kept, and others may follow. -/
structure Precedes (s t : RunState) : Prop where
  issues : s.issues.toList <+: t.issues.toList
  log : s.log.toList <+: t.log.toList

theorem Precedes.refl (s : RunState) : s.Precedes s := ⟨List.prefix_refl _, List.prefix_refl _⟩

theorem Precedes.trans {s t u : RunState} (first : s.Precedes t) (second : t.Precedes u) :
    s.Precedes u := ⟨first.issues.trans second.issues, first.log.trans second.log⟩

theorem Precedes.clean {s t : RunState} (h : s.Precedes t) (clean : t.Clean) : s.Clean := by
  have before := h.issues
  rw [clean] at before
  exact Array.toList_eq_nil_iff.mp (List.prefix_nil.mp before)

end RunState

namespace Run

open ShapedTree.Computation

variable {α β : Type} {rules : Rules}

theorem halted_apply (rules : Rules) (s : RunState) :
    halted rules s = (.ok (rules.errors == .failFast && !s.issues.isEmpty), s) := rfl

theorem halted_of_clean {s : RunState} (clean : s.Clean) : halted rules s = (.ok false, s) := by
  simp [halted_apply, show s.issues = #[] from clean]

/-- A report does nothing in a run that has halted, and adds one issue in any other one. -/
theorem report_eq_ok {path : List String} {kind : IssueKind} {message : String}
    {suggestion : Option String} {raw : Option Value} {s t : RunState} {a : Unit}
    (h : report rules path kind message suggestion raw s = (.ok a, t)) :
    t = s ∧ (rules.errors == .failFast && !s.issues.isEmpty) = true ∨
      ∃ issue, t = { s with issues := s.issues.push issue } := by
  obtain ⟨stopped, s', asked, h⟩ := bind_eq_ok h
  obtain ⟨asked, rfl⟩ := Prod.mk.inj asked
  cases asked
  split at h
  next yes =>
    obtain ⟨-, rfl⟩ := Prod.mk.inj h
    exact .inl ⟨rfl, yes⟩
  next =>
    obtain ⟨shown, s', seen, h⟩ := bind_eq_ok h
    obtain ⟨-, rfl⟩ := Prod.mk.inj h
    have same : s' = s := by
      unfold received at seen
      split at seen
      · exact (Prod.mk.inj seen).2.symm
      · exact (Prod.mk.inj seen).2.symm
      · obtain ⟨text, s'', preview, seen⟩ := bind_eq_ok seen
        exact (Prod.mk.inj seen).2.symm.trans (Prod.mk.inj preview).2.symm
    subst same
    exact .inr ⟨_, rfl⟩

/-- A pattern that does not remember starts at the beginning of every text. -/
theorem test_eq {p : Pattern} (fixed : p.remembers = false) (text : String) :
    test p text = pure (p.test 0 text).1 := by
  have fresh : ∀ last, (p.test last text).1 = (p.test 0 text).1 := by simp [Pattern.test, fixed]
  funext s
  unfold test
  rw [bind_of_ok (show (get : Run RunState) s = (.ok s, s) from rfl)]
  simp only [fixed, Bool.false_eq_true, if_false, fresh]

/-- A computation, and whether it recorded an issue. -/
def watched (x : Run α) : Run (α × Bool) := do
  let before := (← get).issues.size
  let a ← x
  return (a, decide (before < (← get).issues.size))

theorem watched_of_ok {x : Run α} {s t : RunState} {a : α} (h : x s = (.ok a, t)) :
    watched x s = (.ok (a, decide (s.issues.size < t.issues.size)), t) := by
  unfold watched
  rw [bind_of_ok (show (get : Run RunState) s = (.ok s, s) from rfl), bind_of_ok h]
  rfl

theorem eq_ok_of_watched {x : Run α} {s t : RunState} {a : α} {flawed : Bool}
    (h : watched x s = (.ok (a, flawed), t)) :
    x s = (.ok a, t) ∧ flawed = decide (s.issues.size < t.issues.size) := by
  obtain ⟨s', s'', hget, h⟩ := bind_eq_ok h
  obtain ⟨rfl, rfl⟩ : s = s' ∧ s = s'' := by
    have heq : ((.ok s, s) : Except Fault RunState × RunState) = (.ok s', s'') := hget
    simp only [Prod.mk.injEq, Except.ok.injEq] at heq
    exact heq
  obtain ⟨a', t', hx, h⟩ := bind_eq_ok h
  have heq : ((.ok (a', decide (s.issues.size < t'.issues.size)), t') :
    Except Fault (α × Bool) × RunState) = (.ok (a, flawed), t) := h
  simp only [Prod.mk.injEq, Except.ok.injEq] at heq
  obtain ⟨⟨rfl, rfl⟩, rfl⟩ := heq
  exact ⟨hx, rfl⟩

/-- Whatever a computation returns, with issues or without, satisfies `post`. -/
def Returns (x : Run α) (post : α → Prop) : Prop := ∀ s a t, x s = (.ok a, t) → post a

theorem Returns.pure {a : α} {post : α → Prop} (h : post a) : Returns (pure a) post := by
  intro s b t run
  cases (Prod.mk.inj run).1
  exact h

theorem Returns.bind {x : Run α} {f : α → Run β} {post : β → Prop}
    (h : ∀ a, Returns (f a) post) : Returns (x >>= f) post := by
  intro s b u run
  obtain ⟨a, t, -, run⟩ := bind_eq_ok run
  exact h a t b u run

theorem Returns.bind_of {x : Run α} {f : α → Run β} {P : α → Prop} {post : β → Prop}
    (hx : Returns x P) (h : ∀ a, P a → Returns (f a) post) : Returns (x >>= f) post := by
  intro s b u run
  obtain ⟨a, t, hxa, run⟩ := bind_eq_ok run
  exact h a (hx s a t hxa) t b u run

theorem Returns.bind_congr {x : Run α} {P : α → Prop} (hx : Returns x P) {f g : α → Run β}
    (same : ∀ a, P a → f a = g a) : x >>= f = x >>= g := by
  funext s
  rw [bind_apply, bind_apply]
  rcases run : x s with ⟨e | a, t⟩
  · rfl
  · show f a t = g a t
    rw [same a (hx s a t run)]

theorem Returns.lift (e : Except Fault α) : Returns (liftM e) fun a => e = .ok a := by
  intro s a t run
  exact (Prod.mk.inj run).1

theorem Returns.and {x : Run α} {P Q : α → Prop} (hp : Returns x P) (hq : Returns x Q) :
    Returns x fun a => P a ∧ Q a :=
  fun s a t run => ⟨hp s a t run, hq s a t run⟩

/-- A computation only adds issues; a result that it comes to without any satisfies `post`. -/
def Ensures (x : Run α) (post : α → Prop) : Prop :=
  ∀ s a t, x s = (.ok a, t) → s.Precedes t ∧ (t.Clean → post a)

/-- Some run of the computation comes to the result without an issue. -/
def Accepted (x : Run α) (a : α) : Prop := ∃ s t, x s = (.ok a, t) ∧ t.Clean

/-- Without an issue before, the computation comes to the result and records none. -/
def Certain (x : Run α) (a : α) : Prop := ∀ s, s.Clean → ∃ t, x s = (.ok a, t) ∧ t.Clean

/-- The answer of a computation, which has one and which satisfies a law. -/
def Answers (law : α → Prop) (answer : Option α) : Prop := ∃ a, answer = some a ∧ law a

theorem Answers.mono {P Q : α → Prop} {answer : Option α} (h : Answers P answer)
    (le : ∀ a, P a → Q a) : Answers Q answer := by
  obtain ⟨a, rfl, ha⟩ := h
  exact ⟨a, rfl, le a ha⟩

namespace Ensures

variable {x : Run α} {P Q : α → Prop}

theorem mono (h : Ensures x P) (le : ∀ a, P a → Q a) : Ensures x Q := fun s a t run =>
  ⟨(h s a t run).1, fun clean => le a ((h s a t run).2 clean)⟩

theorem accepted (h : Ensures x P) : Ensures x (Accepted x) := fun s a t run =>
  ⟨(h s a t run).1, fun clean => ⟨s, t, run, clean⟩⟩

theorem and (h : Ensures x P) (h' : Ensures x Q) : Ensures x fun a => P a ∧ Q a :=
  fun s a t run => ⟨(h s a t run).1, fun clean => ⟨(h s a t run).2 clean, (h' s a t run).2 clean⟩⟩

theorem pure {a : α} (h : P a) : Ensures (pure a) P := by
  intro s b t run
  obtain ⟨hab, rfl⟩ := Prod.mk.inj run
  cases hab
  exact ⟨.refl _, fun _ => h⟩

theorem throw {e : Fault} : Ensures (MonadExcept.throw e : Run α) P := by
  intro s a t run
  cases run

theorem bind_returns {f : α → Run β} {post : β → Prop} (hx : Ensures x P) (hr : Returns x Q)
    (hf : ∀ a, Q a → Ensures (f a) fun b => P a → post b) : Ensures (x >>= f) post := by
  intro s b u run
  obtain ⟨a, t, hxa, hfa⟩ := bind_eq_ok run
  obtain ⟨before, first⟩ := hx s a t hxa
  obtain ⟨after, second⟩ := hf a (hr s a t hxa) t b u hfa
  exact ⟨before.trans after, fun clean => second clean (first (after.clean clean))⟩

theorem bind {f : α → Run β} {post : β → Prop} (hx : Ensures x P)
    (hf : ∀ a, Ensures (f a) fun b => P a → post b) : Ensures (x >>= f) post :=
  hx.bind_returns (Q := fun _ => True) (fun _ _ _ _ => trivial) fun a _ => hf a

/-- Where an answer is expected, nothing has to be shown for its absence but that issues stay. -/
theorem bind_answer {x : Run (Option α)} {f : Option α → Run β} {post : β → Prop}
    (hx : Ensures x (Answers P)) (found : ∀ a, Ensures (f (some a)) fun b => P a → post b)
    (absent : Ensures (f none) fun _ => True) : Ensures (x >>= f) post := by
  refine hx.bind fun answer => ?_
  cases answer with
  | none => exact absent.mono fun _ _ h => absurd h.choose_spec.1 (by simp)
  | some a =>
    refine (found a).mono fun b post => ?_
    rintro ⟨a', same, ha⟩
    cases same
    exact post ha

theorem lift (e : Except Fault α) : Ensures (liftM e) fun a => e = .ok a := by
  intro s a t run
  obtain ⟨rfl, rfl⟩ := Prod.mk.inj run
  exact ⟨.refl _, fun _ => rfl⟩

theorem halted : Ensures (halted rules) fun stopped => stopped = false := by
  intro s a t run
  obtain ⟨hab, rfl⟩ := Prod.mk.inj run
  refine ⟨.refl _, fun clean => ?_⟩
  cases hab
  simp [show s.issues = #[] from clean]

theorem get : Ensures (get : Run RunState) fun _ => True := by
  intro s a t run
  obtain ⟨-, rfl⟩ := Prod.mk.inj run
  exact ⟨.refl _, fun _ => trivial⟩

theorem modify {f : RunState → RunState} (h : ∀ s : RunState, s.Precedes (f s)) :
    Ensures (modify f : Run Unit) fun _ => True := by
  intro s a t run
  obtain ⟨-, rfl⟩ := Prod.mk.inj run
  exact ⟨h s, fun _ => trivial⟩

theorem log (level : LogLevel) (text : String) : Ensures (log level text) fun _ => True :=
  modify fun _ => ⟨List.prefix_refl _, by simp⟩

theorem adopt (entries : Array LogEntry) : Ensures (adopt entries) fun _ => True :=
  modify fun _ => ⟨List.prefix_refl _, by simp⟩

theorem test (p : Pattern) (text : String) : Ensures (test p text) fun _ => True := by
  refine get.bind fun s => ?_
  cases remembers : p.remembers with
  | true =>
    simp only [if_true]
    refine (modify fun t => ?_).bind fun _ => .pure fun _ _ => trivial
    exact ⟨List.prefix_refl _, List.prefix_refl _⟩
  | false =>
    simp only [Bool.false_eq_true, if_false]
    exact .pure fun _ => trivial

/-- A report leaves an issue. -/
theorem report {path : List String} {kind : IssueKind} {message : String}
    {suggestion : Option String} {raw : Option Value} :
    Ensures (report rules path kind message suggestion raw) fun _ => False := by
  intro s a t run
  rcases report_eq_ok run with ⟨rfl, yes⟩ | ⟨issue, rfl⟩
  · refine ⟨.refl _, fun clean => ?_⟩
    simp [show t.issues = #[] from clean] at yes
  · refine ⟨⟨by simp, List.prefix_refl _⟩, fun clean => ?_⟩
    exact absurd clean (by simp [RunState.Clean])

theorem watched (h : Ensures x P) : Ensures (watched x) fun r => r.2 = false ∧ P r.1 := by
  rintro s ⟨a, flawed⟩ t run
  obtain ⟨hx, rfl⟩ := eq_ok_of_watched run
  obtain ⟨grows, post⟩ := h s a t hx
  refine ⟨grows, fun clean => ⟨?_, post clean⟩⟩
  simp [show t.issues = #[] from clean]

theorem trial (h : Ensures x P) : Ensures (trial x) fun r => r.2.1 = #[] → P r.1 := by
  rintro s ⟨a, issues, entries⟩ t run
  unfold Run.trial at run
  split at run
  next b u hx =>
    obtain ⟨hab, rfl⟩ := Prod.mk.inj run
    cases hab
    exact ⟨⟨List.prefix_refl _, List.prefix_refl _⟩, fun _ clean => (h _ _ _ hx).2 clean⟩
  next => cases (Prod.mk.inj run).1

end Ensures

namespace Certain

variable {x : Run α} {f : α → Run β} {a : α} {b : β}

theorem pure (a : α) : Certain (pure a) a := fun s clean => ⟨s, rfl, clean⟩

theorem bind (hx : Certain x a) (hf : Certain (f a) b) : Certain (x >>= f) b := by
  intro s clean
  obtain ⟨t, hxa, clean⟩ := hx s clean
  obtain ⟨u, hfb, clean⟩ := hf t clean
  exact ⟨u, by rw [bind_of_ok hxa, hfb], clean⟩

theorem lift {e : Except Fault α} (h : e = .ok a) : Certain (liftM e) a := by
  subst h
  exact fun s clean => ⟨s, rfl, clean⟩

theorem eq_of_run {a' : α} {s t : RunState} (hx : Certain x a) (clean : s.Clean)
    (run : x s = (.ok a', t)) : a' = a := by
  obtain ⟨t', run', -⟩ := hx s clean
  cases run.symm.trans run'
  rfl

theorem unique {a' : α} (hx : Certain x a) (hx' : Certain x a') : a' = a := by
  obtain ⟨t, run, -⟩ := hx' {} rfl
  exact hx.eq_of_run (s := {}) rfl run

theorem guard {y : Run α} (hx : Certain x a) :
    Certain (do if ← Run.halted rules then y else x) a := by
  intro s clean
  rw [bind_of_ok (halted_of_clean clean)]
  exact hx s clean

theorem log (level : LogLevel) (text : String) : Certain (log level text) () :=
  fun s clean => ⟨{ s with log := s.log.push ⟨level, text⟩ }, rfl, clean⟩

theorem watched (hx : Certain x a) : Certain (watched x) (a, false) := by
  intro s clean
  obtain ⟨t, hxa, after⟩ := hx s clean
  refine ⟨t, ?_, after⟩
  rw [watched_of_ok hxa, show s.issues = #[] from clean, show t.issues = #[] from after]
  rfl

end Certain

end Run

end ShapedTree
