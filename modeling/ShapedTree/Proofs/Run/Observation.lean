import ShapedTree.Proofs.Run.Ensures

namespace ShapedTree

/-- A computation that also notes events. -/
abbrev Observed (σ ε α : Type) := Computation (σ × List ε) α

namespace Observed

variable {σ ε α β γ : Type}

/-- A computation of which nothing is noted. -/
def silent (x : Computation σ α) : Observed σ ε α := fun (s, seen) =>
  ((x s).1, (x s).2, seen)

def note (e : ε) : Observed σ ε Unit := modify fun (s, seen) => (s, seen ++ [e])

/-- A callback is called, and noted with the arguments that it gets. -/
def consult (event : γ → ε) (callback : γ → Except Fault α) (args : γ) : Observed σ ε α := do
  note (event args)
  silent (liftM (callback args))

/-- All that a computation notes is noted as one event, which also tells what it came to. -/
def enclosed (wrap : Except Fault α → List ε → ε) (y : Observed σ ε α) : Observed σ ε α :=
  fun (s, seen) =>
    let (r, t, inside) := y (s, [])
    (r, t, seen ++ [wrap r inside])

/-- `y` does what `x` does, and what it notes satisfies the law, given what `x` comes to. -/
def Tells (y : Observed σ ε α) (x : Computation σ α)
    (law : Except Fault α → List ε → Prop) : Prop :=
  ∀ s seen, ∃ events, y (s, seen) = ((x s).1, (x s).2, seen ++ events) ∧ law (x s).1 events

/-- `y` does what `x` does, and all that it notes is good. -/
abbrev Shows (good : ε → Prop) (y : Observed σ ε α) (x : Computation σ α) : Prop :=
  Tells y x fun _ events => ∀ e ∈ events, good e

namespace Tells

variable {y : Observed σ ε α} {x : Computation σ α}
  {law law' : Except Fault α → List ε → Prop}

theorem mono (h : Tells y x law) (le : ∀ r events, law r events → law' r events) :
    Tells y x law' := by
  intro s seen
  obtain ⟨events, run, lawful⟩ := h s seen
  exact ⟨events, run, le _ _ lawful⟩

theorem pure {a : α} (h : law (.ok a) []) :
    Tells (pure a : Observed σ ε α) (pure a : Computation σ α) law := by
  intro s seen
  refine ⟨[], ?_, h⟩
  rw [List.append_nil]
  rfl

theorem throw {e : Fault} (h : law (.error e) []) :
    Tells (MonadExcept.throw e : Observed σ ε α) (MonadExcept.throw e : Computation σ α) law := by
  intro s seen
  refine ⟨[], ?_, h⟩
  rw [List.append_nil]
  rfl

theorem silent (h : ∀ r, law r []) : Tells (silent x) x law := by
  intro s seen
  refine ⟨[], ?_, h _⟩
  rw [List.append_nil]
  rfl

/-- What follows a computation goes on from what was noted. -/
theorem bind {f : α → Computation σ β} {g : α → Observed σ ε β}
    {last : Except Fault β → List ε → Prop} (h : Tells y x law)
    (failed : ∀ e events, law (.error e) events → last (.error e) events)
    (next : ∀ a events, law (.ok a) events →
      Tells (g a) (f a) fun r more => last r (events ++ more)) :
    Tells (y >>= g) (x >>= f) last := by
  intro s seen
  obtain ⟨events, run, lawful⟩ := h s seen
  rw [Computation.bind_apply, Computation.bind_apply, run]
  rcases hx : x s with ⟨e | a, t⟩
  · rw [hx] at lawful
    exact ⟨events, rfl, failed e events lawful⟩
  · rw [hx] at lawful
    obtain ⟨more, run, lawful⟩ := next a events lawful t (seen ++ events)
    refine ⟨events ++ more, ?_, lawful⟩
    rw [← List.append_assoc]
    exact run

/-- What follows a computation whose failure is observed goes on in any case. -/
theorem bind_observing {f : Except Fault α → Computation σ β} {g : Except Fault α → Observed σ ε β}
    {last : Except Fault β → List ε → Prop} (h : Tells y x law)
    (next : ∀ r events, law r events →
      Tells (g r) (f r) fun r more => last r (events ++ more)) :
    Tells (observing y >>= g) (observing x >>= f) last := by
  intro s seen
  obtain ⟨events, run, lawful⟩ := h s seen
  rw [Computation.bind_of_ok (Computation.observing_apply y (s, seen)),
    Computation.bind_of_ok (Computation.observing_apply x s), run]
  obtain ⟨more, run, lawful⟩ := next (x s).1 events lawful (x s).2 (seen ++ events)
  refine ⟨events ++ more, ?_, lawful⟩
  rw [← List.append_assoc]
  exact run

/-- What follows a computation of which nothing is noted, given what it comes to. -/
theorem after_comes (post : Except Fault α → Prop) {f : α → Computation σ β}
    {g : α → Observed σ ε β} {last : Except Fault β → List ε → Prop}
    (comes : ∀ s, post (x s).1) (failed : ∀ e, post (.error e) → last (.error e) [])
    (next : ∀ a, post (.ok a) → Tells (g a) (f a) last) :
    Tells (Observed.silent x >>= g) (x >>= f) last := by
  have quiet : Tells (Observed.silent x) x fun r (events : List ε) => post r ∧ events = [] := by
    intro s seen
    refine ⟨[], ?_, comes s, rfl⟩
    rw [List.append_nil]
    rfl
  refine quiet.bind ?_ ?_
  · rintro e events ⟨holds, rfl⟩
    exact failed e holds
  · rintro a events ⟨holds, rfl⟩
    exact next a holds

/-- What follows a computation of which nothing is noted. -/
theorem after {f : α → Computation σ β} {g : α → Observed σ ε β}
    {last : Except Fault β → List ε → Prop} (failed : ∀ e, last (.error e) [])
    (next : ∀ a, Tells (g a) (f a) last) : Tells (Observed.silent x >>= g) (x >>= f) last :=
  after_comes (fun _ => True) (fun _ => trivial) (fun e _ => failed e) fun a _ => next a

theorem lift {e : Except Fault α} (h : law e []) :
    Tells (Observed.silent (liftM e)) (liftM e : Computation σ α) law := by
  intro s seen
  refine ⟨[], ?_, h⟩
  rw [List.append_nil]
  rfl

theorem after_lift {e : Except Fault α} {f : α → Computation σ β} {g : α → Observed σ ε β}
    {last : Except Fault β → List ε → Prop}
    (failed : ∀ fault, e = .error fault → last (.error fault) [])
    (next : ∀ a, e = .ok a → Tells (g a) (f a) last) :
    Tells (Observed.silent (liftM e) >>= g) ((liftM e : Computation σ α) >>= f) last :=
  after_comes (e = ·) (fun _ => rfl) failed next

/-- A computation that notes first what it is about to do. -/
theorem noted {e : ε} (h : Tells y x fun r events => law r (e :: events)) :
    Tells (note e >>= fun _ => y) x law := by
  intro s seen
  obtain ⟨events, run, lawful⟩ := h s (seen ++ [e])
  refine ⟨e :: events, ?_, lawful⟩
  rw [List.append_assoc] at run
  exact run

theorem consult {event : γ → ε} {callback : γ → Except Fault α} {args : γ}
    (h : ∀ r, law r [event args]) :
    Tells (consult event callback args : Observed σ ε α)
      (liftM (callback args) : Computation σ α) law :=
  noted (silent h)

theorem enclosed {wrap : Except Fault α → List ε → ε} (h : Tells y x law)
    (wrapped : ∀ r inside, law r inside → law' r [wrap r inside]) :
    Tells (enclosed wrap y) x law' := by
  intro s seen
  obtain ⟨inside, run, lawful⟩ := h s []
  refine ⟨[wrap (x s).1 inside], ?_, wrapped _ _ lawful⟩
  simp only [Observed.enclosed, run, List.nil_append]

theorem returns {P : α → Prop} (h : Tells y x law) (post : ∀ s a t, x s = (.ok a, t) → P a) :
    Tells y x fun r events => law r events ∧ ∀ a, r = .ok a → P a := by
  intro s seen
  obtain ⟨events, run, lawful⟩ := h s seen
  exact ⟨events, run, lawful, fun a same => post s a (x s).2 (Prod.ext same rfl)⟩

theorem run (h : Tells y x law) (s : σ) :
    (y (s, [])).1 = (x s).1 ∧ (y (s, [])).2.1 = (x s).2 ∧ law (x s).1 (y (s, [])).2.2 := by
  obtain ⟨events, run, lawful⟩ := h s []
  rw [run]
  exact ⟨rfl, rfl, lawful⟩

end Tells

namespace Shows

variable {good : ε → Prop} {y : Observed σ ε α} {x : Computation σ α}

theorem pure {a : α} : Shows good (pure a : Observed σ ε α) (pure a : Computation σ α) :=
  Tells.pure (List.forall_mem_nil _)

theorem throw {e : Fault} :
    Shows good (MonadExcept.throw e : Observed σ ε α) (MonadExcept.throw e : Computation σ α) :=
  Tells.throw (List.forall_mem_nil _)

theorem silent : Shows good (silent x) x := Tells.silent fun _ => List.forall_mem_nil _

theorem bind {f : α → Computation σ β} {g : α → Observed σ ε β} (h : Shows good y x)
    (next : ∀ a, Shows good (g a) (f a)) : Shows good (y >>= g) (x >>= f) :=
  Tells.bind h (fun _ _ all => all) fun a _ before =>
    (next a).mono fun _ _ after => List.forall_mem_append.mpr ⟨before, after⟩

theorem bind_returns {P : α → Prop} {f : α → Computation σ β} {g : α → Observed σ ε β}
    (h : Shows good y x) (post : ∀ s a t, x s = (.ok a, t) → P a)
    (next : ∀ a, P a → Shows good (g a) (f a)) : Shows good (y >>= g) (x >>= f) :=
  Tells.bind (h.returns post) (fun _ _ all => all.1) fun a _ ⟨before, post⟩ =>
    (next a (post a rfl)).mono fun _ _ after => List.forall_mem_append.mpr ⟨before, after⟩

/-- What follows silent computations. -/
theorem after {f : α → Computation σ β} {g : α → Observed σ ε β}
    (next : ∀ a, Shows good (g a) (f a)) : Shows good (Observed.silent x >>= g) (x >>= f) :=
  bind silent next

theorem consult {event : γ → ε} {callback : γ → Except Fault α} {args : γ}
    (h : good (event args)) : Shows good (consult event callback args : Observed σ ε α)
      (liftM (callback args) : Computation σ α) :=
  Tells.consult fun _ => List.forall_mem_singleton.mpr h

theorem enclosed {good' : ε → Prop} {wrap : Except Fault α → List ε → ε} (h : Shows good y x)
    (wrapped : ∀ r inside, (∀ e ∈ inside, good e) → good' (wrap r inside)) :
    Shows good' (enclosed wrap y) x :=
  Tells.enclosed h fun r inside all => List.forall_mem_singleton.mpr (wrapped r inside all)

end Shows

end Observed

end ShapedTree
