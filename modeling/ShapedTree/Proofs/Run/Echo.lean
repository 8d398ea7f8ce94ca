import ShapedTree.Proofs.Run.Ensures

namespace ShapedTree

namespace Run

open ShapedTree.Computation

variable {α β γ δ : Type} {rules rules' : Rules}

/-- From a state without issues the computation, if it comes to a result, records none, and the
result satisfies `post`. -/
def Spotless (y : Run β) (post : β → Prop) : Prop :=
  ∀ t b u, t.Clean → y t = (.ok b, u) → u.Clean ∧ post b

namespace Spotless

variable {y : Run β} {P : β → Prop}

theorem mono {Q : β → Prop} (h : Spotless y P) (le : ∀ b, P b → Q b) : Spotless y Q :=
  fun t b u clean run => (h t b u clean run).imp_right (le b)

theorem pure {b : β} (h : P b) : Spotless (pure b) P := by
  intro t c u clean run
  cases run
  exact ⟨clean, h⟩

theorem bind {g : β → Run δ} {Q : δ → Prop} (hy : Spotless y P)
    (hg : ∀ b, P b → Spotless (g b) Q) : Spotless (y >>= g) Q := by
  intro t d u clean run
  obtain ⟨b, v, first, second⟩ := bind_eq_ok run
  obtain ⟨between, hb⟩ := hy t b v clean first
  exact hg b hb v d u between second

theorem lift {e : Except Fault β} (h : ∀ b, e = .ok b → P b) : Spotless (liftM e) P := by
  intro t b u clean run
  cases e with
  | error fault => cases run
  | ok c =>
    cases run
    exact ⟨clean, h b rfl⟩

theorem guard {z : Run β} (hy : Spotless y P) :
    Spotless (do if ← halted rules then z else y) P := by
  intro t b u clean run
  rw [bind_of_ok (halted_of_clean clean)] at run
  exact hy t b u clean run

theorem adopt (entries : Array LogEntry) : Spotless (adopt entries) fun _ => True := by
  intro t b u clean run
  cases run
  exact ⟨clean, trivial⟩

theorem of_certain {b : β} (h : Certain y b) : Spotless y (· = b) := by
  intro t c u clean run
  obtain ⟨u', run', after⟩ := h t clean
  cases run'.symm.trans run
  exact ⟨after, rfl⟩

end Spotless

/-- What `x` comes to without an issue, `y` comes to as well, up to `R`, if it comes to a result. -/
structure Echoed (R : α → β → Prop) (x : Run α) (y : Run β) : Prop where
  grows : Ensures x fun _ => True
  agrees : ∀ a, Accepted x a → Spotless y (R a)

namespace Echoed

variable {R : α → β → Prop} {S : γ → δ → Prop} {x : Run α} {y : Run β} {f : α → Run γ}
  {g : β → Run δ}

theorem of_flawed (h : Ensures x fun _ => False) : Echoed R x y where
  grows := h.mono fun _ no => no.elim
  agrees a accepted := by
    obtain ⟨s, t, run, clean⟩ := accepted
    exact ((h s a t run).2 clean).elim

theorem of_spotless {P : α → Prop} (h : Ensures x P) (hy : ∀ a, P a → Spotless y (R a)) :
    Echoed R x y where
  grows := h.mono fun _ _ => trivial
  agrees a accepted := by
    obtain ⟨s, t, run, clean⟩ := accepted
    exact hy a ((h s a t run).2 clean)

theorem mono {R' : α → β → Prop} (h : Echoed R x y) (le : ∀ a b, R a b → R' a b) :
    Echoed R' x y where
  grows := h.grows
  agrees a accepted := (h.agrees a accepted).mono (le a)

theorem pure {a : α} {b : β} (h : R a b) : Echoed R (pure a) (pure b) :=
  of_spotless (.pure (P := fun c => c = a) rfl) fun _ same => same ▸ .pure h

theorem throw {e : Fault} : Echoed R (MonadExcept.throw e : Run α) y := .of_flawed .throw

theorem lift (e : Except Fault α) : Echoed Eq (liftM e) (liftM e) :=
  of_spotless (Ensures.lift e) fun _ same => .lift fun _ other => Except.ok.inj (same ▸ other)

theorem log (level : LogLevel) (text : String) : Echoed Eq (log level text) (log level text) :=
  of_spotless (Ensures.log level text) fun _ _ =>
    (Spotless.of_certain (.log level text)).mono fun _ same => same.symm

/-- The relation has to hold of each result and itself, so that the first run alone can be
followed. -/
theorem bind_returns {R : α → α → Prop} {y : Run α} {g : α → Run δ} {Q : α → Prop}
    (hx : Echoed R x y) (hr : Returns x Q) (refl : ∀ a, Q a → R a a)
    (hf : ∀ a b, Q a → R a b → Echoed S (f a) (g b)) : Echoed S (x >>= f) (y >>= g) where
  grows := hx.grows.bind_returns hr fun a ha =>
    (hf a a ha (refl a ha)).grows.mono fun _ _ _ => trivial
  agrees c accepted := by
    obtain ⟨s, u, run, clean⟩ := accepted
    obtain ⟨a, t, first, second⟩ := bind_eq_ok run
    have ha : Q a := hr s a t first
    have before := ((hf a a ha (refl a ha)).grows t c u second).1
    refine (hx.agrees a ⟨s, t, first, before.clean clean⟩).bind fun b related => ?_
    exact (hf a b ha related).agrees c ⟨t, u, second, clean⟩

theorem bind_rel {R : α → α → Prop} {y : Run α} {g : α → Run δ} (hx : Echoed R x y)
    (refl : ∀ a, R a a) (hf : ∀ a b, R a b → Echoed S (f a) (g b)) :
    Echoed S (x >>= f) (y >>= g) :=
  hx.bind_returns (Q := fun _ => True) (fun _ _ _ _ => trivial) (fun a _ => refl a)
    fun a b _ => hf a b

theorem bind {y : Run α} {g : α → Run δ} (hx : Echoed Eq x y)
    (hf : ∀ a, Echoed S (f a) (g a)) : Echoed S (x >>= f) (y >>= g) :=
  hx.bind_rel (fun _ => rfl) fun a _ same => same ▸ hf a

theorem guard {z : Run α} {w : Run β} (hz : Ensures z fun _ => True) (h : Echoed R x y) :
    Echoed R (do if ← halted rules then z else x) (do if ← halted rules' then w else y) where
  grows := by
    refine Ensures.halted.bind fun stopped => ?_
    cases stopped with
    | true => exact hz.mono fun _ _ _ => trivial
    | false => exact h.grows.mono fun _ _ _ => trivial
  agrees a accepted := by
    obtain ⟨s, t, run, clean⟩ := accepted
    refine .guard (h.agrees a ?_)
    rw [bind_of_ok (halted_apply rules s)] at run
    cases stopped : (rules.errors == .failFast && !s.issues.isEmpty) with
    | false =>
      rw [stopped] at run
      exact ⟨s, t, run, clean⟩
    | true =>
      -- A run that has stopped has an issue already.
      rw [stopped] at run
      have before : s.issues = #[] := (hz s a t run).1.clean clean
      simp [before] at stopped

theorem watched (h : Echoed R x y) :
    Echoed (fun r r' => R r.1 r'.1 ∧ r.2 = r'.2) (watched x) (watched y) where
  grows := h.grows.watched.mono fun _ _ => trivial
  agrees := by
    rintro ⟨a, flawed⟩ ⟨s, t, run, clean⟩ u ⟨b, flawed'⟩ v fresh run'
    obtain ⟨hx, rfl⟩ := eq_ok_of_watched run
    obtain ⟨hy, rfl⟩ := eq_ok_of_watched run'
    obtain ⟨after, related⟩ := h.agrees a ⟨s, t, hx, clean⟩ u b v fresh hy
    refine ⟨after, related, ?_⟩
    have ending : t.issues = #[] := clean
    have ending' : v.issues = #[] := after
    simp [ending, ending']

end Echoed

end Run

end ShapedTree
