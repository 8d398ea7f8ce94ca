import ShapedTree.Proofs.Run.Logic

namespace ShapedTree

namespace Run

open ShapedTree.Computation

variable {α β : Type} {rules : Rules} {x : Run α} {P : α → Prop}

/-- The issues that a computation records by itself. -/
def recorded (x : Run α) : List Issue := (x {}).2.issues.toList

/-- From every state, the computation comes to one end and adds the same issues and messages; its
result, if it has one, satisfies `post`. -/
def Oblivious (x : Run α) (post : α → Prop) : Prop :=
  ∃ (e : Except Fault α) (issues : Array Issue) (entries : Array LogEntry),
    (∀ s, x s = (e, ⟨s.issues ++ issues, s.log ++ entries, s.memory⟩)) ∧ ∀ a, e = .ok a → post a

namespace Oblivious

theorem mono {Q : α → Prop} (h : Oblivious x P) (le : ∀ a, P a → Q a) : Oblivious x Q := by
  obtain ⟨e, issues, entries, run, post⟩ := h
  exact ⟨e, issues, entries, run, fun a same => le a (post a same)⟩

theorem pure {a : α} (h : P a) : Oblivious (pure a) P := by
  refine ⟨.ok a, #[], #[], fun s => ?_, ?_⟩
  · rw [Array.append_empty, Array.append_empty]
    rfl
  rintro b ⟨⟩
  exact h

theorem bind {f : α → Run β} {Q : β → Prop} (hx : Oblivious x P)
    (hf : ∀ a, P a → Oblivious (f a) Q) : Oblivious (x >>= f) Q := by
  obtain ⟨e, issues, entries, run, post⟩ := hx
  cases e with
  | error fault => exact ⟨.error fault, issues, entries, fun s => by rw [bind_apply, run], nofun⟩
  | ok a =>
    obtain ⟨e', issues', entries', run', post'⟩ := hf a (post a rfl)
    refine ⟨e', issues ++ issues', entries ++ entries', fun s => ?_, post'⟩
    rw [bind_of_ok (run s), run']
    simp [Array.append_assoc]

theorem lift {e : Except Fault α} (h : ∀ a, e = .ok a → P a) : Oblivious (liftM e) P := by
  refine ⟨e, #[], #[], fun s => ?_, h⟩
  simp only [Array.append_empty]
  rfl

theorem add {f : RunState → RunState} (issues : Array Issue) (entries : Array LogEntry)
    (h : ∀ s, f s = ⟨s.issues ++ issues, s.log ++ entries, s.memory⟩) :
    Oblivious (modify f) fun _ => True := by
  refine ⟨.ok (), issues, entries, fun s => ?_, fun _ _ => trivial⟩
  rw [← h]
  rfl

theorem halted (batch : rules.errors = .batch) : Oblivious (halted rules) fun _ => True := by
  refine ⟨.ok false, #[], #[], fun s => ?_, fun _ _ => trivial⟩
  rw [halted_apply, batch, Array.append_empty, Array.append_empty]
  rfl

theorem watched (h : Oblivious x P) : Oblivious (watched x) fun r => P r.1 := by
  obtain ⟨e, issues, entries, run, post⟩ := h
  refine ⟨e.map fun a => (a, decide (0 < issues.size)), issues, entries, fun s => ?_, ?_⟩
  · cases e with
    | error fault =>
      unfold Run.watched
      rw [bind_of_ok (show (get : Run RunState) s = (.ok s, s) from rfl), bind_apply, run]
      rfl
    | ok a =>
      rw [watched_of_ok (run s)]
      simp [Except.map]
  · cases e with
    | error fault => nofun
    | ok a =>
      rintro r ⟨⟩
      exact post a rfl

theorem trial (h : Oblivious x P) : Oblivious (trial x) fun r => P r.1 := by
  obtain ⟨e, issues, entries, run, post⟩ := h
  refine ⟨e.map fun a => (a, issues, entries), #[], #[], fun s => ?_, ?_⟩
  · unfold Run.trial
    rw [run]
    cases e <;> simp [Except.map]
  · cases e with
    | error fault => nofun
    | ok a =>
      rintro r ⟨⟩
      exact post a rfl

theorem split (h : Oblivious x P) {s t : RunState} {a : α} (run : x s = (.ok a, t)) :
    P a ∧ (x {}).1 = .ok a ∧ t.issues.toList = s.issues.toList ++ recorded x := by
  obtain ⟨e, issues, entries, runs, post⟩ := h
  obtain ⟨rfl, rfl⟩ := Prod.mk.inj ((runs s).symm.trans run)
  exact ⟨post a rfl, by rw [runs], by simp [recorded, runs]⟩

theorem comes (h : Oblivious x P) {a : α} (own : (x {}).1 = .ok a) (s : RunState) :
    ∃ t, x s = (.ok a, t) := by
  obtain ⟨e, issues, entries, runs, -⟩ := h
  have same : e = .ok a := by
    rw [runs] at own
    exact own
  exact ⟨_, same ▸ runs s⟩

/-- What goes over a list item by item records what the items record. -/
theorem recorded_items {ι : Type} {f : List ι → Run Unit} (nil : f [] = Pure.pure ())
    (cons : ∀ i is, f (i :: is) = f [i] >>= fun _ => f is)
    (item : ∀ i, Oblivious (f [i]) fun _ => True) {is : List ι} {s t : RunState}
    (run : f is s = (.ok (), t)) :
    t.issues.toList = s.issues.toList ++ is.flatMap fun i => recorded (f [i]) := by
  induction is generalizing s with
  | nil =>
    rw [nil] at run
    cases run
    simp
  | cons i is ih =>
    rw [cons] at run
    obtain ⟨_, u, first, rest⟩ := bind_eq_ok run
    obtain ⟨-, -, issues⟩ := (item i).split first
    rw [ih rest, issues]
    simp

end Oblivious

/-- In batch mode, the logic of computations that go their own way. -/
def Logic.oblivious (batch : rules.errors = .batch) : Logic rules where
  total := False
  remembers := False
  Holds x P := Oblivious x P
  mono h le := h.mono le
  pure h := .pure h
  bind hx hf := hx.bind hf
  lift _ post := .lift post
  halted := .halted batch
  record issue := .add #[issue] #[] fun s => by simp
  log level text := .add #[] #[⟨level, text⟩] fun s => by simp
  adopt entries := .add #[] (entries.filter fun e => e.level == .warn) fun s => by simp
  useMemory _ no := no.elim
  watched h := h.watched
  trial h := h.trial

end Run

end ShapedTree
