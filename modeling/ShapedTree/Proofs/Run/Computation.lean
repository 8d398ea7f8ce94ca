import ShapedTree.Fault

namespace ShapedTree

/-- A computation over a state that may fail. -/
abbrev Computation (σ α : Type) := ExceptT Fault (StateM σ) α

namespace Computation

variable {σ α β : Type}

theorem bind_apply (x : Computation σ α) (f : α → Computation σ β) (s : σ) :
    (x >>= f) s = match x s with
      | (.ok a, t) => f a t
      | (.error e, t) => (.error e, t) := by
  show (x >>= f) s = _
  simp only [bind, ExceptT.bind, ExceptT.mk, StateT.bind]
  rcases x s with ⟨_ | a, t⟩ <;> rfl

theorem bind_of_ok {x : Computation σ α} {f : α → Computation σ β} {s t : σ} {a : α}
    (h : x s = (.ok a, t)) : (x >>= f) s = f a t := by
  rw [bind_apply, h]

theorem bind_eq_ok {x : Computation σ α} {f : α → Computation σ β} {s u : σ} {b : β}
    (h : (x >>= f) s = (.ok b, u)) :
    ∃ a t, x s = (.ok a, t) ∧ f a t = (.ok b, u) := by
  rw [bind_apply] at h
  rcases hx : x s with ⟨e | a, t⟩
  · rw [hx] at h
    cases (Prod.mk.inj h).1
  · exact ⟨a, t, rfl, by rwa [hx] at h⟩

theorem get_bind_apply (f : σ → Computation σ β) (s : σ) :
    ((get : Computation σ σ) >>= f) s = f s s := rfl

theorem lift_bind_apply (e : Except Fault α) (f : α → Computation σ β) (s : σ) :
    (liftM e >>= f) s = match e with
      | .ok a => f a s
      | .error e => (.error e, s) := by
  rw [bind_apply]
  cases e <;> rfl

/-- To observe what a computation comes to never fails. -/
theorem observing_apply (x : Computation σ α) (s : σ) :
    (observing x : Computation σ (Except Fault α)) s = (.ok (x s).1, (x s).2) := by
  simp only [observing, tryCatch, tryCatchThe, MonadExceptOf.tryCatch, ExceptT.tryCatch, ExceptT.mk,
    bind, ExceptT.bind, StateT.bind]
  rcases x s with ⟨_ | a, t⟩ <;> rfl

end Computation

end ShapedTree
