import ShapedTree.Proofs.Dispatch.Steps

namespace ShapedTree

theorem Value.countNodes_le_of_mem {es : List (String × Value)} {key : String} {v : Value}
    (mem : (key, v) ∈ es) : v.countNodes ≤ Value.countInEntries es := by
  induction es with
  | nil => cases mem
  | cons e es ih =>
    rw [Value.countInEntries]
    rcases List.mem_cons.mp mem with rfl | later
    · exact Nat.le_add_right ..
    · exact Nat.le_add_left_of_le (ih later)

/-- The tree of a child is smaller. -/
theorem Node.count_child_lt {node child : Node} {field : String}
    (held : node.child? field = some child) : child.count < node.count := by
  have found : node.values.lookup field = some (.node child) := by
    unfold Node.child? at held
    split at held
    · cases held
      assumption
    · cases held
  have le := Value.countNodes_le_of_mem (Entries.mem_of_lookup found)
  exact Nat.lt_one_add_iff.mpr le

namespace Dispatcher

open Observed

variable {d : Dispatcher} {regs : List Registration} {r : Registry} {root : Node}
  {initial : List NodeView} {α β : Type}

/-- Nothing stands against the steps. -/
def Clear (d : Dispatcher) (regs : List Registration) (r : Registry) (steps : List Step) : Prop :=
  ∀ step ∈ steps, ∀ fault, ¬ Offends d regs r step fault

/-- What the steps say about what a traversal came to: it goes on as long as nothing stands against
it. -/
inductive Judged (d : Dispatcher) (regs : List Registration) (r : Registry) :
    Except Fault α → List Step → Prop
  | ok {a : α} {steps : List Step} (clear : Clear d regs r steps) : Judged d regs r (.ok a) steps
  | error {fault : Fault} {before after : List Step} {step : Step} (clear : Clear d regs r before)
      (offends : Offends d regs r step fault) :
      Judged d regs r (.error fault) (before ++ step :: after)

/-- A step that invokes an implementation does so at its place in the tree. -/
def InPlace (d : Dispatcher) (regs : List Registration) (r : Registry) (root : Node)
    (initial : List NodeView) : Step → Prop
  | .invoked op schema binding node stack kwargs =>
    Placed d regs r root initial op schema binding node stack kwargs
  | _ => True

/-- The law of a disciplined traversal. It fails with nothing but the fault of a step that stands
against it; which one is settled by the steps where no implementation catches a fault. -/
structure Lawful (d : Dispatcher) (regs : List Registration) (r : Registry) (root : Node)
    (initial : List NodeView) (result : Except Fault α) (steps : List Step) : Prop where
  inPlace : ∀ step ∈ steps, InPlace d regs r root initial step
  raised : ∀ fault, result = .error fault → ∃ step ∈ steps, Offends d regs r step fault
  judged : (∀ reg ∈ regs, reg.Propagating) → Judged d regs r result steps

theorem Judged.clear {a : α} {steps : List Step} (h : Judged d regs r (.ok a) steps) :
    Clear d regs r steps := by
  cases h with
  | ok clear => exact clear

theorem Judged.prepend {result : Except Fault α} {earlier steps : List Step}
    (clear : Clear d regs r earlier) (h : Judged d regs r result steps) :
    Judged d regs r result (earlier ++ steps) := by
  cases h with
  | ok later => exact .ok (List.forall_mem_append.mpr ⟨clear, later⟩)
  | error later offends =>
    rw [← List.append_assoc]
    exact .error (List.forall_mem_append.mpr ⟨clear, later⟩) offends

/-- Once something stands against a traversal, later steps do not matter. -/
theorem Judged.append {fault : Fault} {steps : List Step}
    (h : Judged d regs r (.error fault : Except Fault α) steps) (more : List Step) :
    Judged d regs r (.error fault : Except Fault β) (steps ++ more) := by
  cases h with
  | error clear offends =>
    rw [List.append_assoc]
    exact .error clear offends

/-- A traversal fails with a fault exactly if the first step that stands against it does so with
that fault. -/
theorem Judged.eq_error_iff (made : d.Made regs) {result : Except Fault α} {steps : List Step}
    (h : Judged d regs r result steps) (fault : Fault) :
    result = .error fault ↔ FirstOffence d regs r steps fault := by
  cases h with
  | ok clear =>
    constructor
    · intro failed
      cases failed
    · rintro ⟨before, step, after, rfl, -, offends⟩
      exact (clear step (by simp) fault offends).elim
  | @error own before after step clear offends =>
    constructor
    · intro failed
      cases failed
      exact ⟨before, step, after, rfl, clear, offends⟩
    · rintro ⟨before', step', after', same, clear', offends'⟩
      -- Both steps are the first one that something stands against.
      rcases List.append_eq_append_iff.mp same with ⟨mid, rfl, tail⟩ | ⟨mid, rfl, tail⟩
      · cases mid with
        | nil =>
          cases tail
          rw [offends.unique made offends']
        | cons first mid =>
          cases tail
          exact (clear' step (by simp) own offends).elim
      · cases mid with
        | nil =>
          cases tail
          rw [offends.unique made offends']
        | cons first mid =>
          cases tail
          exact (clear step' (by simp) fault offends').elim

namespace Lawful

theorem cons {result : Except Fault α} {step : Step} {steps : List Step}
    (clear : ∀ fault, ¬ Offends d regs r step fault) (placed : InPlace d regs r root initial step)
    (h : Lawful d regs r root initial result steps) :
    Lawful d regs r root initial result (step :: steps) where
  inPlace := List.forall_mem_cons.mpr ⟨placed, h.inPlace⟩
  raised fault failed := by
    obtain ⟨offender, mem, offends⟩ := h.raised fault failed
    exact ⟨offender, List.mem_cons_of_mem step mem, offends⟩
  judged careful := (h.judged careful).prepend (List.forall_mem_singleton.mpr clear)

theorem last {fault : Fault} {step : Step} (offends : Offends d regs r step fault)
    (placed : InPlace d regs r root initial step) :
    Lawful d regs r root initial (.error fault : Except Fault α) [step] where
  inPlace := List.forall_mem_singleton.mpr placed
  raised _ failed := ⟨step, List.mem_singleton_self step, Except.error.inj failed ▸ offends⟩
  judged _ := .error (List.forall_mem_nil _) offends

theorem ended (result : Except Fault Value) :
    Lawful d regs r root initial result [.ended result] := by
  cases result with
  | error fault => exact .last (.implementation fault) trivial
  | ok v =>
    exact .cons nofun trivial ⟨List.forall_mem_nil _, nofun, fun _ => .ok (List.forall_mem_nil _)⟩

theorem append_judged {first : Except Fault α} {result : Except Fault β} {events more : List Step}
    (h : Lawful d regs r root initial first events)
    (later : Lawful d regs r root initial result more)
    (judged : (∀ reg ∈ regs, reg.Propagating) → Judged d regs r result (events ++ more)) :
    Lawful d regs r root initial result (events ++ more) where
  inPlace := List.forall_mem_append.mpr ⟨h.inPlace, later.inPlace⟩
  raised fault failed := by
    obtain ⟨offender, mem, offends⟩ := later.raised fault failed
    exact ⟨offender, List.mem_append_right events mem, offends⟩
  judged := judged

/-- What follows a dispatch that succeeded. -/
theorem append {a : α} {result : Except Fault β} {events more : List Step}
    (h : Lawful d regs r root initial (.ok a : Except Fault α) events)
    (later : Lawful d regs r root initial result more) :
    Lawful d regs r root initial result (events ++ more) :=
  h.append_judged later fun careful => (later.judged careful).prepend (h.judged careful).clear

end Lawful

end Dispatcher

open Dispatcher Observed

variable {d : Dispatcher} {regs : List Registration} {r : Registry} {root : Node}
  {initial : List NodeView}

theorem Traversal.observe_done {invoke : Invocation}
    {invoke' : Operation → Node → List NodeView → Kwargs → Observed (Array LogEntry) Step Value}
    (result : Except Fault Value) :
    Tells ((Traversal.done result).observe invoke') ((Traversal.done result).run invoke)
      fun came steps => came = result ∧ steps = [.ended result] := by
  apply Tells.noted
  apply Tells.lift
  exact ⟨rfl, rfl⟩

/-- To ask for the dispatch on a child is lawful if the dispatch is. -/
theorem Traversal.asked_lawful {node : Node} {stack : List NodeView} {op : Operation}
    {field : String} {kwargs : Kwargs} {invoke : Invocation}
    {invoke' : Operation → Node → List NodeView → Kwargs → Observed (Array LogEntry) Step Value}
    (answers : ∀ child, node.child? field = some child →
      Tells (invoke' op child (stack ++ [node.view]) kwargs)
        (invoke op child (stack ++ [node.view]) kwargs) (Lawful d regs r root initial)) :
    Tells
      (do
        note (.descended node field)
        let child ← silent (liftM (childOf node field))
        invoke' op child (stack ++ [node.view]) kwargs)
      (do
        let child ← childOf node field
        invoke op child (stack ++ [node.view]) kwargs)
      (Lawful d regs r root initial) := by
  apply Tells.noted
  cases held : node.child? field with
  | none =>
    have missing : childOf node field = .error (.notANode field node.schema) := by
      simp only [childOf, held]
    apply Tells.after_lift
    · intro fault failed
      cases missing.symm.trans failed
      exact .last (.child held) trivial
    · intro child found
      cases missing.symm.trans found
  | some child =>
    have present : childOf node field = .ok child := by simp only [childOf, held]
    have clear : ∀ fault, ¬ Offends d regs r (.descended node field) fault := by
      rintro fault (_ | _ | _ | _ | none)
      cases none.symm.trans held
    apply Tells.after_lift
    · intro fault failed
      cases present.symm.trans failed
    · intro child' found
      cases present.symm.trans found
      exact (answers child held).mono fun _ _ after => .cons clear trivial after

/-- An implementation that only goes on to children is disciplined if the dispatches on the children
are. -/
theorem Traversal.Descending.observe_lawful {node : Node} {stack : List NodeView}
    {invoke : Invocation}
    {invoke' : Operation → Node → List NodeView → Kwargs → Observed (Array LogEntry) Step Value}
    (answers : ∀ op field child kwargs, node.child? field = some child →
      Tells (invoke' op child (stack ++ [node.view]) kwargs)
        (invoke op child (stack ++ [node.view]) kwargs) (Lawful d regs r root initial))
    {t : Traversal} (h : t.Descending node stack)
    (passing : (∀ reg ∈ regs, reg.Propagating) → t.Propagating) :
    Tells (t.observe invoke') (t.run invoke) (Lawful d regs r root initial) := by
  induction h with
  | done result =>
    refine (observe_done result).mono ?_
    rintro _ _ ⟨rfl, rfl⟩
    exact .ended _
  | @child op field kwargs next _ ih =>
    refine (asked_lawful fun child => answers op field child kwargs).bind_observing ?_
    intro result events lawful
    cases result with
    | ok v =>
      have goes : (∀ reg ∈ regs, reg.Propagating) → (next (.ok v)).Propagating := by
        intro careful
        cases passing careful with
        | askChild _ goes => exact goes v
      exact (ih (.ok v) goes).mono fun _ _ later => lawful.append later
    | error fault =>
      by_cases careful : ∀ reg ∈ regs, reg.Propagating
      · have passed : next (.error fault) = .done (.error fault) := by
          cases passing careful with
          | askChild passed _ => exact passed fault
        rw [passed]
        refine (observe_done (.error fault)).mono ?_
        rintro _ _ ⟨rfl, rfl⟩
        exact lawful.append_judged (.ended (.error fault)) fun careful =>
          (lawful.judged careful).append _
      · -- An implementation that catches the fault goes on in its place.
        have caught := ih (.error fault) fun all => (careful all).elim
        exact caught.mono fun _ _ later => lawful.append_judged later fun all => (careful all).elim

namespace Traversal

variable {node : Node} {stack : List NodeView} {kwargs : Kwargs} {op : Operation}

theorem Descending.onward {next : Value → Traversal} (h : ∀ v, (next v).Descending node stack)
    (result : Except Fault Value) : (Traversal.onward next result).Descending node stack := by
  cases result with
  | ok v => exact h v
  | error fault => exact .done _

theorem descending_children {finish : List Value → Traversal} (fields : List String)
    (finished : ∀ vs, (finish vs).Descending node stack) :
    (children op node stack kwargs finish fields).Descending node stack := by
  induction fields generalizing finish with
  | nil => exact finished []
  | cons field fields ih =>
    exact .child (.onward fun v => ih fun vs => finished (v :: vs))

theorem propagating_children {finish : List Value → Traversal} (fields : List String)
    (finished : ∀ vs, (finish vs).Propagating) :
    (children op node stack kwargs finish fields).Propagating := by
  induction fields generalizing finish with
  | nil => exact finished []
  | cons field fields ih =>
    exact .askChild (fun _ => rfl) fun v => ih fun vs => finished (v :: vs)

end Traversal

namespace Dispatcher

/-- A dispatch on a node of the tree is disciplined, however many levels it may nest, as long as the
nodes below suffice for them. -/
theorem observeAt_lawful (made : d.Made regs) (descending : ∀ reg ∈ regs, reg.Descending)
    (levels : Nat) {above : List Node} {node : Node} (reached : root.Descends above node)
    (enough : node.count ≤ levels) (op : Operation) (kwargs : Kwargs) :
    Tells (d.observeAt r levels op node (initial ++ above.map Node.view) kwargs)
      (d.dispatchAt r levels op node (initial ++ above.map Node.view) kwargs)
      (Lawful d regs r root initial) := by
  induction levels generalizing above node op kwargs with
  | zero =>
    unfold Node.count at enough
    omega
  | succ levels ih =>
    have children : ∀ op field child kwargs, node.child? field = some child →
        Tells (d.observeAt r levels op child (initial ++ above.map Node.view ++ [node.view]) kwargs)
          (d.dispatchAt r levels op child (initial ++ above.map Node.view ++ [node.view]) kwargs)
          (Lawful d regs r root initial) := by
      intro op field child kwargs held
      have smaller := Node.count_child_lt held
      have deeper := ih (reached.child held) (by omega) op kwargs
      rw [List.map_append, ← List.append_assoc] at deeper
      exact deeper
    -- The dispatch is noted, and then it selects an implementation or fails.
    set stack := initial ++ above.map Node.view with ancestors
    apply Tells.noted
    obtain ⟨schema, reg, chosen, accepted⟩ | ⟨fault, refused, offends⟩ :=
      select_cases (r := r) made op node stack kwargs
    · have clear := accepted.not_offends made
      have placed := accepted.placed reached ancestors
      have lawful := (descending reg accepted.mem schema node stack kwargs).observe_lawful children
        fun careful => careful reg accepted.mem schema node stack kwargs
      apply Tells.after_lift
      · intro fault failed
        cases chosen.symm.trans failed
      · rintro ⟨schema', binding⟩ found
        cases chosen.symm.trans found
        apply Tells.after_comes (Except.ok () = ·) (fun _ => rfl) nofun
        intro _ _
        apply Tells.noted
        exact lawful.mono fun _ _ after => .cons clear trivial (.cons nofun placed after)
    · apply Tells.after_lift
      · intro fault' failed
        cases refused.symm.trans failed
        exact .last offends trivial
      · intro choice found
        cases refused.symm.trans found

end Dispatcher

namespace Orchard

def registry : Registry where
  kinds := .builtin
  schemas := [{ name := "fork", fields := [] }, { name := "leaf", fields := [] }]

def gather : Operation where
  name := "gather"

def forks : Registration where
  op := { gather with requires := ["basket"] }
  schemas := ["fork"]
  impl _ node stack kwargs :=
    .children gather node stack kwargs (fun vs => .answer (.list vs)) ["left", "right"]

def leaves : Registration where
  op := gather
  schemas := ["leaf"]
  impl _ _ _ _ := .answer (.text "leaf")

def gathering : Dispatcher where
  maxDepth := some 2
  bySchema := [("fork", [("gather", forks.binding)]), ("leaf", [("gather", leaves.binding)])]
  byOperation := [("gather", ["fork", "leaf"])]

theorem gathering_made : gathering.Made [forks, leaves] :=
  have forked := Dispatcher.Made.register forks (.new (some 2))
    (show Dispatcher.register _ registry _ _ _ = .ok _ from rfl)
  .register leaves forked (show Dispatcher.register _ registry _ _ _ = .ok _ from rfl)

theorem forks_descending : forks.Descending := fun _ _ _ _ =>
  Traversal.descending_children _ fun _ => .done _

theorem leaves_descending : leaves.Descending := fun _ _ _ _ => .done _

theorem forks_propagating : forks.Propagating := fun _ _ _ _ =>
  Traversal.propagating_children _ fun _ => .done _

theorem leaves_propagating : leaves.Propagating := fun _ _ _ _ => .done _

def leaf : Node := ⟨"leaf", [], [], none, []⟩

def fork (left right : Node) : Node :=
  ⟨"fork", [("left", .node left), ("right", .node right)], [], none, []⟩

def tree : Node := fork leaf (fork leaf leaf)

def basket : Kwargs := { entries := [("basket", .null)] }

/-- Forks that do without a branch which cannot be gathered. -/
def frugal : Registration where
  op := gather
  schemas := ["fork"]
  impl _ node stack kwargs :=
    .askChild gather node "left" stack kwargs fun left => .answer (left.toOption.getD .null)

theorem frugal_descending : frugal.Descending := fun _ _ _ _ => .child fun _ => .done _

example : ({ gathering with bySchema := [("fork", [("gather", frugal.binding)])] }.dispatch registry
    gather tree [] {} #[]).1 = .ok .null := rfl

end Orchard

end ShapedTree
