import Mathlib.Data.Set.Insert
import ShapedTree.Proofs.Run.Ensures

namespace ShapedTree

namespace Memory

variable {cell : Nat}

theorem lookup_filter_ne {c : Nat} (other : c ≠ cell) (m : Memory) :
    (m.filter fun e => e.1 != cell).lookup c = m.lookup c := by
  induction m with
  | nil => rfl
  | cons e m ih =>
    obtain ⟨k, v⟩ := e
    by_cases kept : k = cell
    · simp [kept, List.lookup_cons, ih, beq_false_of_ne other]
    · simp [kept, List.lookup_cons, ih]

theorem read_write (m : Memory) (cell value c : Nat) :
    (m.write cell value).read c = if c = cell then value else m.read c := by
  unfold write read
  split
  next same => simp [same]
  next other => rw [List.lookup_cons, beq_false_of_ne other, lookup_filter_ne other]

theorem read_copy (m : Memory) (cells : List Nat) (other : Memory) (c : Nat) :
    (m.copy cells other).read c = if c ∈ cells then other.read c else m.read c := by
  unfold copy
  induction cells generalizing m with
  | nil => simp
  | cons cell cells ih =>
    rw [List.foldl_cons, ih, read_write]
    by_cases inside : c ∈ cells
    · simp [inside]
    · by_cases same : c = cell <;> simp [inside, same]

theorem read_clear (m : Memory) (cells : List Nat) (c : Nat) :
    (m.clear cells).read c = if c ∈ cells then 0 else m.read c := read_copy m cells [] c

end Memory

/-- Two states differ in nothing but what other cells than these hold. -/
structure RunState.Alike (K : Set Nat) (s t : RunState) : Prop where
  issues : s.issues = t.issues
  log : s.log = t.log
  memory : ∀ c ∈ K, s.memory.read c = t.memory.read c

namespace Run

open RunState ShapedTree.Computation

variable {α β : Type} {rules : Rules} {K K' : Set Nat}

/-- Two runs end alike: with the same result in states that are alike, or with the same fault after
the same messages. -/
inductive EndAlike (K : Set Nat) : Except Fault α × RunState → Except Fault α × RunState → Prop
  | ok (a : α) {s t : RunState} (same : s.Alike K t) : EndAlike K (.ok a, s) (.ok a, t)
  | error (e : Fault) {s t : RunState} (log : s.log = t.log) :
      EndAlike K (.error e, s) (.error e, t)

/-- A computation goes by nothing that other cells hold, and leaves them as they are. -/
structure Confined (K : Set Nat) (x : Run α) : Prop where
  alike : ∀ {s t}, s.Alike K t → EndAlike K (x s) (x t)
  keeps : ∀ {s a s'}, x s = (.ok a, s') → ∀ c ∉ K, s'.memory.read c = s.memory.read c

theorem afresh_apply (cells : List Nat) (x : Run α) (s : RunState) :
    afresh cells x s = match x { s with memory := s.memory.clear cells } with
      | (.ok a, t) => (.ok a, { t with memory := t.memory.copy cells s.memory })
      | (.error e, t) => (.error e, t) := by
  have cleared : (modify fun s => { s with memory := s.memory.clear cells } : Run Unit) s =
      (.ok (), { s with memory := s.memory.clear cells }) := rfl
  unfold afresh
  rw [bind_of_ok (show (get : Run RunState) s = (.ok s, s) from rfl), bind_of_ok cleared,
    bind_apply]
  rcases x { s with memory := s.memory.clear cells } with ⟨_ | _, _⟩ <;> rfl

namespace Confined

variable {x y : Run α} {f : α → Run β}

/-- A computation that goes by fewer cells is confined to more. -/
theorem mono (h : Confined K x) (le : K ⊆ K') : Confined K' x where
  alike {s t} same := by
    have fewer : s.Alike K t := ⟨same.issues, same.log, fun c hc => same.memory c (le hc)⟩
    rcases hs : x s with ⟨r, s'⟩
    rcases ht : x t with ⟨r', t'⟩
    have ends := h.alike fewer
    rw [hs, ht] at ends
    cases ends with
    | error e log => exact .error e log
    | ok a after =>
      refine .ok a ⟨after.issues, after.log, fun c hc => ?_⟩
      by_cases inside : c ∈ K
      · exact after.memory c inside
      · rw [h.keeps hs c inside, h.keeps ht c inside, same.memory c hc]
  keeps run c outside := h.keeps run c fun inside => outside (le inside)

theorem pure (a : α) : Confined K (pure a) where
  alike same := .ok a same
  keeps run c _ := by
    cases run
    rfl

theorem lift (e : Except Fault α) : Confined K (liftM e) where
  alike same := by
    cases e with
    | error e => exact .error e same.log
    | ok a => exact .ok a same
  keeps run c _ := by
    cases run
    rfl

theorem throw (e : Fault) : Confined K (MonadExcept.throw e : Run α) := lift (.error e)

theorem bind_returns {P : α → Prop} (hx : Confined K x) (hr : Returns x P)
    (hf : ∀ a, P a → Confined K (f a)) : Confined K (x >>= f) where
  alike {s t} same := by
    have ends := hx.alike same
    rw [bind_apply, bind_apply]
    rcases hs : x s with ⟨r, s'⟩
    rcases ht : x t with ⟨r', t'⟩
    rw [hs, ht] at ends
    cases ends with
    | error e log => exact .error e log
    | ok a after => exact (hf a (hr s a s' hs)).alike after
  keeps {s b u} run c outside := by
    obtain ⟨a, t, first, second⟩ := bind_eq_ok run
    exact ((hf a (hr s a t first)).keeps second c outside).trans (hx.keeps first c outside)

theorem bind (hx : Confined K x) (hf : ∀ a, Confined K (f a)) : Confined K (x >>= f) :=
  hx.bind_returns (P := fun _ => True) (fun _ _ _ _ => trivial) fun a _ => hf a

/-- What looks at the issues alone. -/
theorem look (f : Array Issue → α) : Confined K (do return f (← get).issues) where
  alike {s t} same := by
    show EndAlike K (.ok (f s.issues), s) (.ok (f t.issues), t)
    rw [same.issues]
    exact .ok _ same
  keeps run c _ := by
    cases run
    rfl

theorem halted : Confined K (halted rules) :=
  look fun issues => rules.errors == .failFast && !issues.isEmpty

theorem guard (hx : Confined K x) (hy : Confined K y) :
    Confined K (do if ← Run.halted rules then x else y) :=
  halted.bind fun stopped => by cases stopped <;> assumption

theorem watched (h : Confined K x) : Confined K (watched x) := by
  have size : Confined K (do return (← get).issues.size) := look Array.size
  have seen : Run.watched x = (do return (← get).issues.size) >>= fun before => x >>= fun a =>
      (do return (← get).issues.size) >>= fun after => Pure.pure (a, decide (before < after)) := by
    simp only [Run.watched, bind_assoc, pure_bind]
  rw [seen]
  exact size.bind fun _ => h.bind fun _ => size.bind fun _ => .pure _

/-- A step that changes the issues and messages alone, whatever the memory holds. -/
theorem modify {f : RunState → RunState} (memory : ∀ s, (f s).memory = s.memory)
    (same : ∀ s t : RunState, s.issues = t.issues → s.log = t.log →
      (f s).issues = (f t).issues ∧ (f s).log = (f t).log) :
    Confined K (modify f : Run Unit) where
  alike {s t} h := by
    obtain ⟨issues, log⟩ := same s t h.issues h.log
    refine .ok () ⟨issues, log, fun c hc => ?_⟩
    rw [memory, memory, h.memory c hc]
  keeps run c _ := by
    cases run
    rw [memory]

theorem log (level : LogLevel) (text : String) : Confined K (log level text) :=
  .modify (fun _ => rfl) fun _ _ issues log => ⟨issues, by simp [log]⟩

theorem adopt (entries : Array LogEntry) : Confined K (adopt entries) :=
  .modify (fun _ => rfl) fun _ _ issues log => ⟨issues, by simp [log]⟩

theorem report {path : List String} {kind : IssueKind} {message : String}
    {suggestion : Option String} {raw : Option Value} :
    Confined K (report rules path kind message suggestion raw) := by
  have received : Confined K (received raw) := by
    unfold Run.received
    split
    next => exact .pure _
    next => exact .pure _
    next => exact (lift _).bind fun _ => .pure _
  refine (Confined.pure ()).guard (received.bind fun _ => ?_)
  exact .modify (fun _ => rfl) fun _ _ issues log => ⟨by simp [issues], log⟩

/-- A pattern that remembers goes by its own cell. -/
theorem test {p : Pattern} (known : p.remembers = true → p.cell ∈ K) (text : String) :
    Confined K (test p text) := by
  cases remembers : p.remembers with
  | false =>
    rw [test_eq remembers]
    exact .pure _
  | true =>
    have tested : ∀ s, Run.test p text s = (.ok (p.test (s.memory.read p.cell) text).1,
        { s with memory := s.memory.write p.cell (p.test (s.memory.read p.cell) text).2 }) := by
      intro s
      simp only [Run.test, remembers, if_true]
      rfl
    constructor
    · intro s t same
      rw [tested, tested, same.memory _ (known remembers)]
      refine .ok _ ⟨same.issues, same.log, fun c hc => ?_⟩
      simp only [Memory.read_write, same.memory c hc]
    · intro s a s' run c outside
      rw [tested] at run
      cases run
      have other : c ≠ p.cell := fun same => outside (same ▸ known remembers)
      simp only [Memory.read_write, if_neg other]

/-- A default that does not count needs no memory. -/
theorem produce {d : FieldDefault} (free : ∀ cell make, d ≠ .counting cell make) :
    Confined K (produce d) := by
  cases d with
  | constant v => exact .pure _
  | factory made => exact (lift made).bind fun _ => .pure _
  | counting cell make => exact absurd rfl (free cell make)
  | computed generate => exact .pure _

/-- A trial leaves nothing but the memory. -/
theorem trial (h : Confined K x) : Confined K (trial x) where
  alike {s t} same := by
    have fresh : RunState.Alike K { memory := s.memory } { memory := t.memory } :=
      ⟨rfl, rfl, same.memory⟩
    have ends := h.alike fresh
    unfold Run.trial
    generalize x { memory := s.memory } = r at ends ⊢
    generalize x { memory := t.memory } = r' at ends ⊢
    cases ends with
    | error e => exact .error e same.log
    | @ok a s' t' after =>
      simp only [after.issues, after.log]
      exact .ok _ ⟨same.issues, same.log, after.memory⟩
  keeps {s r s'} run c outside := by
    unfold Run.trial at run
    split at run
    next a t tried =>
      cases run
      exact h.keeps tried c outside
    next => cases run

/-- Cells that are used as if they were new do not matter, and are as before afterwards. -/
theorem afresh {cells : List Nat} (h : Confined (K ∪ {c | c ∈ cells}) x) :
    Confined K (afresh cells x) := by
  constructor
  · intro s t same
    have cleared : RunState.Alike (K ∪ {c | c ∈ cells})
        { s with memory := s.memory.clear cells } { t with memory := t.memory.clear cells } := by
      refine ⟨same.issues, same.log, fun c hc => ?_⟩
      rw [Memory.read_clear, Memory.read_clear]
      split
      next => rfl
      next other => exact same.memory c (hc.resolve_right other)
    have ends := h.alike cleared
    rw [afresh_apply, afresh_apply]
    generalize x { s with memory := s.memory.clear cells } = r at ends ⊢
    generalize x { t with memory := t.memory.clear cells } = r' at ends ⊢
    cases ends with
    | error e log => exact .error e log
    | ok a after =>
      refine .ok a ⟨after.issues, after.log, fun c hc => ?_⟩
      rw [Memory.read_copy, Memory.read_copy, same.memory c hc, after.memory c (.inl hc)]
  · intro s a s' run c outside
    rw [afresh_apply] at run
    split at run
    next b t ran =>
      cases run
      rw [Memory.read_copy]
      split
      next => rfl
      next other =>
        rw [h.keeps ran c fun inside => inside.elim outside other, Memory.read_clear, if_neg other]
    next => cases run

end Confined

end Run

end ShapedTree
