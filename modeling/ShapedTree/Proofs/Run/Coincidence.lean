import ShapedTree.Proofs.Run.Frame

namespace ShapedTree

namespace Run

open ShapedTree.Computation

/-- From the states that satisfy `pre`, `x` and `y` come to the same: the issues that they add
satisfy `law`, and a result satisfies `post`. -/
def Coincides {α : Type} (pre : RunState → Prop) (law : Issue → Prop) (x y : Run α)
    (post : α → Prop) : Prop :=
  ∀ s r t, pre s → x s = (r, t) →
    y s = (r, t) ∧ (∀ i ∈ t.issues, i ∈ s.issues ∨ law i) ∧ ∀ a, r = .ok a → post a

abbrev anywhere : RunState → Prop := fun _ => True

/-- The states of runs that have not stopped. -/
abbrev going (rules : Rules) : RunState → Prop := fun s => ¬ s.Stopped rules.errors

variable {α β : Type} {rules : Rules} {pre : RunState → Prop} {law : Issue → Prop} {x y : Run α}
  {P : α → Prop}

namespace Coincides

theorem mono {Q : α → Prop} (h : Coincides pre law x y P) (le : ∀ a, P a → Q a) :
    Coincides pre law x y Q := by
  intro s r t hs run
  obtain ⟨same, issues, post⟩ := h s r t hs run
  exact ⟨same, issues, fun a ha => le a (post a ha)⟩

theorem weaken {law' : Issue → Prop} (h : Coincides pre law x y P) (le : ∀ i, law i → law' i) :
    Coincides pre law' x y P := by
  intro s r t hs run
  obtain ⟨same, issues, post⟩ := h s r t hs run
  exact ⟨same, fun i hi => (issues i hi).imp_right (le i), post⟩

theorem restrict {pre' : RunState → Prop} (h : Coincides pre law x y P) (le : ∀ s, pre' s → pre s) :
    Coincides pre' law x y P := fun s r t hs run => h s r t (le s hs) run

theorem eq (h : Coincides anywhere law x y P) : x = y := by
  funext s
  exact (h s (x s).1 (x s).2 trivial rfl).1.symm

theorem of_eq (h : x = y) : Coincides pre (fun _ => True) x y fun _ => True := by
  intro s r t _ run
  exact ⟨h ▸ run, fun _ _ => .inr trivial, fun _ _ => trivial⟩

theorem returns {Q : α → Prop} (h : Coincides pre law x y P) (hr : Returns x Q) :
    Coincides pre law x y fun a => P a ∧ Q a := by
  intro s r t hs run
  obtain ⟨same, issues, post⟩ := h s r t hs run
  refine ⟨same, issues, fun a ha => ⟨post a ha, ?_⟩⟩
  subst ha
  exact hr s a t run

theorem left (h : Coincides pre law x y P) : Coincides pre law x x P :=
  fun s r t hs run => ⟨run, (h s r t hs run).2⟩

theorem pure {a : α} (h : P a) : Coincides pre law (pure a) (pure a) P := by
  intro s r t _ run
  cases run
  refine ⟨rfl, fun i hi => .inl hi, ?_⟩
  rintro b ⟨⟩
  exact h

theorem throw {e : Fault} :
    Coincides pre law (MonadExcept.throw e : Run α) (MonadExcept.throw e) P := by
  intro s r t _ run
  cases run
  exact ⟨rfl, fun i hi => .inl hi, nofun⟩

theorem lift (e : Except Fault α) :
    Coincides pre law (liftM e) (liftM e) fun a => e = .ok a := by
  intro s r t _ run
  obtain ⟨same, state⟩ := Prod.mk.inj run
  refine ⟨run, fun i hi => .inl (state ▸ hi), ?_⟩
  rintro a rfl
  exact same

theorem bind {f g : α → Run β} {Q : β → Prop} (hx : Coincides pre law x y P)
    (hf : ∀ a, P a → Coincides anywhere law (f a) (g a) Q) :
    Coincides pre law (x >>= f) (y >>= g) Q := by
  intro s r u hs run
  rw [bind_apply] at run ⊢
  rcases hxs : x s with ⟨e | a, t⟩
  · obtain ⟨same, issues, -⟩ := hx s _ t hs hxs
    rw [hxs] at run
    rw [same]
    cases run
    exact ⟨rfl, issues, nofun⟩
  · obtain ⟨same, before, post⟩ := hx s _ t hs hxs
    rw [hxs] at run
    rw [same]
    obtain ⟨same, after, post⟩ := hf a (post a rfl) t r u trivial run
    refine ⟨same, fun i hi => ?_, post⟩
    rcases after i hi with old | new
    · exact before i old
    · exact .inr new

theorem halted : Coincides pre law (halted rules) (halted rules) fun _ => True := by
  intro s r t _ run
  cases run
  exact ⟨rfl, fun i hi => .inl hi, fun _ _ => trivial⟩

/-- What goes on only in a run that has not stopped has to coincide there only. -/
theorem guard {z : Run α} (hz : Coincides anywhere law z z P)
    (h : Coincides (going rules) law x y P) :
    Coincides anywhere law (do if ← Run.halted rules then z else x)
      (do if ← Run.halted rules then z else y) P := by
  intro s r t _ run
  rw [bind_apply, halted_apply] at run ⊢
  cases stopped : rules.errors == .failFast && !s.issues.isEmpty with
  | true =>
    rw [stopped] at run
    exact hz s r t trivial run
  | false =>
    rw [stopped] at run
    refine h s r t ?_ run
    rintro ⟨mode, recorded⟩
    simp [mode, recorded] at stopped

theorem get : Coincides pre law (get : Run RunState) get fun _ => True := by
  intro s r t _ run
  cases run
  exact ⟨rfl, fun i hi => .inl hi, fun _ _ => trivial⟩

theorem modify {f : RunState → RunState} (h : ∀ s, ∀ i ∈ (f s).issues, i ∈ s.issues ∨ law i) :
    Coincides pre law (modify f : Run Unit) (modify f) fun _ => True := by
  intro s r t _ run
  cases run
  exact ⟨rfl, h s, fun _ _ => trivial⟩

theorem log (level : LogLevel) (text : String) :
    Coincides pre law (log level text) (log level text) fun _ => True :=
  modify fun _ _ hi => .inl hi

theorem adopt (entries : Array LogEntry) :
    Coincides pre law (adopt entries) (adopt entries) fun _ => True :=
  modify fun _ _ hi => .inl hi

theorem test (p : Pattern) (text : String) :
    Coincides pre law (test p text) (test p text) fun _ => True := by
  refine get.bind fun s _ => ?_
  cases p.remembers with
  | true =>
    exact Coincides.bind (P := fun _ => True) (modify fun _ _ hi => .inl hi) fun _ _ => pure trivial
  | false => exact pure trivial

theorem produce (d : FieldDefault) :
    Coincides pre law (produce d) (produce d) fun _ => True := by
  cases d with
  | constant v => exact pure trivial
  | factory made => exact (lift made).bind fun _ _ => pure trivial
  | counting cell make =>
    refine get.bind fun s _ => ?_
    refine Coincides.bind (P := fun _ => True) (modify fun _ _ hi => .inl hi) fun _ _ => ?_
    exact (lift _).bind fun _ _ => pure trivial
  | computed generate => exact pure trivial

theorem afresh {cells : List Nat} (h : Coincides anywhere law x y P) :
    Coincides pre law (afresh cells x) (afresh cells y) P := by
  have write : ∀ f : RunState → Memory, Coincides anywhere law
      (MonadState.modifyGet fun s => ((), { s with memory := f s }) : Run Unit)
      (MonadState.modifyGet fun s => ((), { s with memory := f s })) fun _ => True :=
    fun _ => modify fun _ _ hi => .inl hi
  refine get.bind fun before _ => (write _).bind fun _ _ => h.bind fun a ha => ?_
  exact (write _).bind fun _ _ => pure ha

/-- A report adds the issue that it says, with some preview of the value or none. -/
theorem report {path : List String} {kind : IssueKind} {message : String}
    {suggestion : Option String} {raw : Option Value}
    (lawful : ∀ received, law ⟨path, kind, message, suggestion, received⟩) :
    Coincides pre law (report rules path kind message suggestion raw)
      (report rules path kind message suggestion raw) fun _ => True := by
  have shown : Coincides anywhere law (received raw) (received raw) fun _ => True := by
    unfold Run.received
    split
    · exact pure trivial
    · exact pure trivial
    · exact (lift _).bind fun _ _ => pure trivial
  refine halted.bind fun stopped _ => ?_
  cases stopped with
  | true => exact pure trivial
  | false =>
    refine shown.bind fun received _ => modify fun s i hi => ?_
    rcases Array.mem_push.mp hi with old | rfl
    · exact .inl old
    · exact .inr (lawful received)

theorem watched (h : Coincides anywhere law x y P) :
    Coincides pre law (watched x) (watched y) fun r => P r.1 := by
  refine get.bind fun s _ => h.bind fun a ha => ?_
  exact get.bind fun t _ => pure ha

/-- What a trial records stays with it. -/
theorem trial {law' : Issue → Prop} (h : Coincides (going rules) law' x y P) :
    Coincides pre law (trial x) (trial y) fun r => P r.1 := by
  intro s r t _ run
  have fresh : going rules { memory := s.memory } := fun stopped => stopped.2 rfl
  unfold Run.trial at run ⊢
  rcases hx : x { memory := s.memory } with ⟨e | a, u⟩
  · rw [hx] at run
    rw [(h _ _ _ fresh hx).1]
    cases run
    exact ⟨rfl, fun i hi => .inl hi, nofun⟩
  · obtain ⟨same, -, post⟩ := h _ _ _ fresh hx
    rw [hx] at run
    rw [same]
    cases run
    refine ⟨rfl, fun i hi => .inl hi, ?_⟩
    rintro _ ⟨⟩
    exact post a rfl

end Coincides

end Run

end ShapedTree
