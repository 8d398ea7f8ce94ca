import ShapedTree.Proofs.Run.Ensures

namespace ShapedTree

namespace Run

open ShapedTree.Computation

variable {α β : Type}

/-- A computation that uses the memory alone. -/
def byMemory {α : Type} (f : Memory → α × Memory) : Run α := do
  let (a, memory) := f (← get).memory
  modify fun s => { s with memory }
  return a

/-- An answer, if there is one, satisfies the law. -/
def Permits {α : Type} (law : α → Prop) (answer : Option α) : Prop := ∀ a, answer = some a → law a

theorem Permits.none {α : Type} {law : α → Prop} : Permits law Option.none := nofun

theorem Permits.some {α : Type} {law : α → Prop} {a : α} (h : law a) : Permits law (some a) := by
  intro b same
  cases same
  exact h

/-- A logic of computations, in which `Holds x post` says something of `x` and that its results
satisfy `post`. In a total logic computations come to results; a logic that knows the memory allows
its use. -/
structure Logic (rules : Rules) where
  total : Prop
  remembers : Prop
  Holds : {α : Type} → Run α → (α → Prop) → Prop
  mono : ∀ {α : Type} {x : Run α} {P Q : α → Prop}, Holds x P → (∀ a, P a → Q a) → Holds x Q
  pure : ∀ {α : Type} {a : α} {P : α → Prop}, P a → Holds (pure a) P
  bind : ∀ {α β : Type} {x : Run α} {f : α → Run β} {P : α → Prop} {Q : β → Prop},
    Holds x P → (∀ a, P a → Holds (f a) Q) → Holds (x >>= f) Q
  lift : ∀ {α : Type} {e : Except Fault α} {P : α → Prop}, (total → ∃ a, e = .ok a) →
    (∀ a, e = .ok a → P a) → Holds (liftM e) P
  halted : Holds (halted rules) fun _ => True
  record : ∀ issue : Issue,
    Holds (modify fun s => { s with issues := s.issues.push issue }) fun _ => True
  log : ∀ (level : LogLevel) (text : String), Holds (log level text) fun _ => True
  adopt : ∀ entries : Array LogEntry, Holds (adopt entries) fun _ => True
  useMemory : ∀ {α : Type} (f : Memory → α × Memory), remembers → Holds (byMemory f) fun _ => True
  watched : ∀ {α : Type} {x : Run α} {P : α → Prop}, Holds x P → Holds (watched x) fun r => P r.1
  trial : ∀ {α : Type} {x : Run α} {P : α → Prop}, Holds x P → Holds (trial x) fun r => P r.1

namespace Logic

variable {rules : Rules} (L : Logic rules)

/-- An outcome that a total logic may rely on, if it is a result, and that satisfies `post`. -/
structure Yields {α : Type} (e : Except Fault α) (post : α → Prop) : Prop where
  returns : L.total → ∃ a, e = .ok a
  post : ∀ a, e = .ok a → post a

variable {L}

theorem Yields.holds {e : Except Fault α} {P : α → Prop} (h : L.Yields e P) :
    L.Holds (liftM e) P := L.lift h.returns h.post

theorem top {a : α} : L.Holds (Pure.pure a) fun _ => True := L.pure trivial

theorem throw {e : Fault} {P : α → Prop} (partial_ : ¬ L.total) :
    L.Holds (MonadExcept.throw e : Run α) P := by
  have thrown : L.Holds (liftM (Except.error e : Except Fault α)) P :=
    L.lift (fun total => absurd total partial_) nofun
  exact thrown

theorem guard {x y : Run α} {P : α → Prop} (hx : L.Holds x P) (hy : L.Holds y P) :
    L.Holds (do if ← Run.halted rules then x else y) P := by
  refine L.bind L.halted fun stopped _ => ?_
  cases stopped with
  | true => exact hx
  | false => exact hy

/-- A value may be reported, because it has a preview. -/
def Shows (L : Logic rules) (raw : Option Value) : Prop :=
  L.total → ∀ v, raw = some v → ∃ text, v.preview = .ok text

theorem Shows.none : L.Shows none := fun _ _ no => by cases no

theorem report {path : List String} {kind : IssueKind} {message : String}
    {suggestion : Option String} {raw : Option Value} (shows : L.Shows raw) :
    L.Holds (report rules path kind message suggestion raw) fun _ => True := by
  have shown : L.Holds (received raw) fun _ => True := by
    unfold received
    split
    next => exact top
    next => exact top
    next v _ =>
      have preview : L.Yields v.preview fun _ => True :=
        ⟨fun total => shows total v rfl, fun _ _ => trivial⟩
      exact L.bind preview.holds fun _ _ => top
  unfold Run.report
  exact guard top (L.bind shown fun _ _ => L.record _)

theorem test (p : Pattern) (text : String) (fixed : ¬ L.remembers → p.remembers = false) :
    L.Holds (test p text) fun _ => True := by
  cases remembers : p.remembers with
  | true =>
    have known : L.remembers := Classical.byContradiction fun no => by
      cases remembers.symm.trans (fixed no)
    have recalled : Run.test p text = byMemory fun m =>
        ((p.test (m.read p.cell) text).1, m.write p.cell (p.test (m.read p.cell) text).2) := by
      funext s
      simp only [Run.test, byMemory, remembers, if_true]
      rfl
    rw [recalled]
    exact L.useMemory _ known
  | false =>
    rw [test_eq remembers]
    exact top

end Logic

/-- A computation only adds issues and messages, and whatever it returns satisfies `post`. -/
def Grants (x : Run α) (post : α → Prop) : Prop :=
  ∀ s a t, x s = (.ok a, t) → s.Precedes t ∧ post a

namespace Grants

variable {x : Run α} {P : α → Prop}

theorem mono {Q : α → Prop} (h : Grants x P) (le : ∀ a, P a → Q a) : Grants x Q :=
  fun s a t run => (h s a t run).imp_right (le a)

theorem ensures (h : Grants x P) : Ensures x P := fun s a t run =>
  ⟨(h s a t run).1, fun _ => (h s a t run).2⟩

theorem of_returns {Q : α → Prop} (h : Ensures x Q) (hr : Returns x P) : Grants x P :=
  fun s a t run => ⟨(h s a t run).1, hr s a t run⟩

theorem of_ensures {Q : α → Prop} (h : Ensures x Q) : Grants x fun _ => True :=
  of_returns h fun _ _ _ _ => trivial

theorem and_returns {Q : α → Prop} (h : Grants x P) (hr : Returns x Q) :
    Grants x fun a => P a ∧ Q a :=
  fun s a t run => (h s a t run).imp_right fun ha => ⟨ha, hr s a t run⟩

theorem pure {a : α} (h : P a) : Grants (pure a) P := by
  intro s b t run
  cases run
  exact ⟨.refl _, h⟩

theorem bind {f : α → Run β} {Q : β → Prop} (hx : Grants x P) (hf : ∀ a, P a → Grants (f a) Q) :
    Grants (x >>= f) Q := by
  intro s b u run
  obtain ⟨a, t, first, second⟩ := bind_eq_ok run
  obtain ⟨before, ha⟩ := hx s a t first
  obtain ⟨after, hb⟩ := hf a ha t b u second
  exact ⟨before.trans after, hb⟩

theorem modify {f : RunState → RunState} (h : ∀ s : RunState, s.Precedes (f s)) :
    Grants (modify f) fun _ => True := by
  intro s a t run
  cases run
  exact ⟨h s, trivial⟩

theorem afresh {cells : List Nat} (h : Grants x P) : Grants (afresh cells x) P := by
  have look : Grants (get : Run RunState) fun _ => True := by
    intro s a t run
    cases run
    exact ⟨.refl _, trivial⟩
  have write : ∀ f : RunState → Memory, Grants (MonadState.modifyGet fun s =>
      ((), { s with memory := f s }) : Run Unit) fun _ => True := by
    intro f s a t run
    cases run
    exact ⟨⟨List.prefix_refl _, List.prefix_refl _⟩, trivial⟩
  refine look.bind fun before _ => (write _).bind fun _ _ => h.bind fun a ha => ?_
  refine (write _).bind fun _ _ => ?_
  intro s b t run
  cases run
  exact ⟨.refl _, ha⟩

theorem watched (h : Grants x P) : Grants (watched x) fun r => P r.1 := by
  rintro s ⟨a, flawed⟩ t run
  exact h s a t (eq_ok_of_watched run).1

theorem trial (h : Grants x P) : Grants (trial x) fun r => P r.1 := by
  rintro s ⟨a, issues, entries⟩ t run
  unfold Run.trial at run
  split at run
  next b u hx =>
    cases run
    exact ⟨⟨List.prefix_refl _, List.prefix_refl _⟩, (h _ _ _ hx).2⟩
  next => cases run

end Grants

/-- The logic of what computations return, whatever they record. -/
def Logic.granting (rules : Rules) : Logic rules where
  total := False
  remembers := True
  Holds x P := Grants x P
  mono h le := h.mono le
  pure h := .pure h
  bind hx hf := hx.bind hf
  lift _ post s a t run := by
    obtain ⟨same, rfl⟩ := Prod.mk.inj run
    exact ⟨.refl _, post a same⟩
  halted s a t run := by
    cases run
    exact ⟨.refl _, trivial⟩
  record issue := .modify fun s => ⟨by simp, List.prefix_refl _⟩
  log level text := .modify fun s => ⟨List.prefix_refl _, by simp⟩
  adopt entries := .modify fun s => ⟨List.prefix_refl _, by simp⟩
  useMemory f _ s a t run := by
    cases run
    exact ⟨⟨List.prefix_refl _, List.prefix_refl _⟩, trivial⟩
  watched h := h.watched
  trial h := h.trial

namespace Grants

theorem test (p : Pattern) (text : String) : Grants (test p text) fun _ => True :=
  .of_returns (.test p text) fun _ _ _ _ => trivial

theorem lift (e : Except Fault α) : Grants (liftM e) fun a => e = .ok a := by
  intro s a t run
  obtain ⟨same, rfl⟩ := Prod.mk.inj run
  exact ⟨.refl _, same⟩

theorem halted {rules : Rules} : Grants (halted rules) fun _ => True := (Logic.granting rules).halted

theorem report {rules : Rules} {path : List String} {kind : IssueKind} {message : String}
    {suggestion : Option String} {raw : Option Value} :
    Grants (report rules path kind message suggestion raw) fun _ => True :=
  Logic.report (L := .granting rules) fun no => no.elim

end Grants

end Run

end ShapedTree
