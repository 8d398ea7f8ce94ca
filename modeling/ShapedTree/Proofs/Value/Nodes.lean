import Mathlib.Algebra.BigOperators.Group.Multiset.Basic
import ShapedTree.Proofs.Validation.ReferenceGraph

namespace ShapedTree

namespace Value

mutual

/-- The nodes in a value, each before those below it. -/
def nodes : Value → List (NodeOf Value)
  | .list items => nodesInItems items
  | .record es _ => nodesInEntries es
  | .node ⟨schema, values, defaulted, choiceType, compactable⟩ =>
    ⟨schema, values, defaulted, choiceType, compactable⟩ :: nodesInEntries values
  | _ => []
termination_by structural v => v

def nodesInItems : List Value → List (NodeOf Value)
  | [] => []
  | v :: vs => nodes v ++ nodesInItems vs
termination_by structural vs => vs

def nodesInEntries : List (String × Value) → List (NodeOf Value)
  | [] => []
  | (_, v) :: es => nodes v ++ nodesInEntries es
termination_by structural es => es

end

theorem nodesInItems_eq (vs : List Value) : nodesInItems vs = vs.flatMap nodes := by
  induction vs with
  | nil => rfl
  | cons v vs ih => rw [nodesInItems, ih, List.flatMap_cons]

theorem nodesInEntries_eq (es : List (String × Value)) :
    nodesInEntries es = es.flatMap fun e => e.2.nodes := by
  induction es with
  | nil => rfl
  | cons e es ih => rw [nodesInEntries, ih, List.flatMap_cons]

theorem nodes_node (n : Node) :
    (Value.node n).nodes = n :: n.values.flatMap fun e => e.2.nodes := by
  rw [← nodesInEntries_eq]
  rfl

mutual

theorem length_nodes : ∀ v : Value, v.nodes.length = v.countNodes
  | .list items => by rw [nodes, countNodes, length_nodesInItems items]
  | .record es _ => by rw [nodes, countNodes, length_nodesInEntries es]
  | .node ⟨_, values, _, _, _⟩ => by
    rw [nodes, countNodes, List.length_cons, length_nodesInEntries values, Nat.add_comm]
  | .undefined | .hole | .null | .bool _ | .number _ | .text _ | .bigint _ | .exotic _ | .knot => rfl
termination_by structural v => v

theorem length_nodesInItems : ∀ vs : List Value, (nodesInItems vs).length = countInItems vs
  | [] => rfl
  | v :: vs => by
    rw [nodesInItems, countInItems, List.length_append, length_nodes v, length_nodesInItems vs]
termination_by structural vs => vs

theorem length_nodesInEntries :
    ∀ es : List (String × Value), (nodesInEntries es).length = countInEntries es
  | [] => rfl
  | (_, v) :: es => by
    rw [nodesInEntries, countInEntries, List.length_append, length_nodes v,
      length_nodesInEntries es]
termination_by structural es => es

end

theorem nodes_subset_of_bears {v : Value} {n : Node} (h : v.Bears n) :
    (Value.node n).nodes ⊆ v.nodes := by
  induction h with
  | node n => exact List.Subset.refl _
  | @item vs v n mem _ ih =>
    intro c hc
    rw [nodes, nodesInItems_eq]
    exact List.mem_flatMap.mpr ⟨v, mem, ih hc⟩
  | @entry es plain e n mem _ ih =>
    intro c hc
    rw [nodes, nodesInEntries_eq]
    exact List.mem_flatMap.mpr ⟨e, mem, ih hc⟩

theorem mem_nodes_of_reaches {n c : Node} (h : n.Reaches c) : c ∈ (Value.node n).nodes := by
  induction h with
  | root n =>
    rw [nodes_node]
    exact List.mem_cons_self
  | @step n c p e mem bears _ ih =>
    rw [nodes_node]
    exact List.mem_cons_of_mem _ (List.mem_flatMap.mpr ⟨e, mem, nodes_subset_of_bears bears ih⟩)

mutual

/-- Every listed node is below one that the value holds. -/
theorem reaches_of_mem_nodes (c : Node) :
    ∀ v : Value, c ∈ v.nodes → ∃ n, v.Bears n ∧ n.Reaches c
  | .list items, h => by
    obtain ⟨v, mem, n, bears, reaches⟩ := reaches_of_mem_items c items h
    exact ⟨n, .item mem bears, reaches⟩
  | .record es _, h => by
    obtain ⟨e, mem, n, bears, reaches⟩ := reaches_of_mem_entries c es h
    exact ⟨n, .entry mem bears, reaches⟩
  | .node ⟨schema, values, defaulted, choiceType, compactable⟩, h => by
    refine ⟨_, .node _, ?_⟩
    rcases List.mem_cons.mp h with rfl | h
    · exact .root _
    · obtain ⟨e, mem, n, bears, reaches⟩ := reaches_of_mem_entries c values h
      exact .step mem bears reaches
  | .undefined, h | .null, h | .bool _, h | .number _, h | .text _, h | .bigint _, h
  | .exotic _, h | .knot, h => nomatch h
termination_by structural v => v

theorem reaches_of_mem_items (c : Node) :
    ∀ vs : List Value, c ∈ nodesInItems vs → ∃ v ∈ vs, ∃ n, v.Bears n ∧ n.Reaches c
  | [], h => nomatch h
  | v :: vs, h => by
    rcases List.mem_append.mp h with h | h
    · exact ⟨v, List.mem_cons_self, reaches_of_mem_nodes c v h⟩
    · obtain ⟨w, mem, found⟩ := reaches_of_mem_items c vs h
      exact ⟨w, List.mem_cons_of_mem v mem, found⟩
termination_by structural vs => vs

theorem reaches_of_mem_entries (c : Node) : ∀ es : List (String × Value),
    c ∈ nodesInEntries es → ∃ e ∈ es, ∃ n, e.2.Bears n ∧ n.Reaches c
  | [], h => nomatch h
  | (k, v) :: es, h => by
    rcases List.mem_append.mp h with h | h
    · exact ⟨(k, v), List.mem_cons_self, reaches_of_mem_nodes c v h⟩
    · obtain ⟨e, mem, found⟩ := reaches_of_mem_entries c es h
      exact ⟨e, List.mem_cons_of_mem (k, v) mem, found⟩
termination_by structural es => es

end

/-- The nodes of a tree are those that its root reaches. -/
theorem mem_nodes_iff {n c : Node} : c ∈ (Value.node n).nodes ↔ n.Reaches c := by
  constructor
  · intro h
    obtain ⟨m, bears, reaches⟩ := reaches_of_mem_nodes c _ h
    cases bears
    exact reaches
  · exact mem_nodes_of_reaches

theorem nodes_of_bare {v : Value} (bare : ∀ n, ¬ v.Bears n) : v.nodes = [] := by
  refine List.eq_nil_iff_forall_not_mem.mpr fun c hc => ?_
  obtain ⟨n, bears, -⟩ := reaches_of_mem_nodes c v hc
  exact bare n bears

variable (weigh : Node → Multiset String)

/-- What the nodes of a value weigh together. -/
def weight (v : Value) : Multiset String := (v.nodes.map weigh).sum

theorem weight_of_bare {v : Value} (bare : ∀ n, ¬ v.Bears n) : v.weight weigh = 0 := by
  rw [weight, nodes_of_bare bare]
  rfl

theorem weight_text (s : String) : (Value.text s).weight weigh = 0 := rfl

theorem sum_map_flatMap {α : Type} (f : α → List Node) (xs : List α) :
    ((xs.flatMap f).map weigh).sum = (xs.map fun x => ((f x).map weigh).sum).sum := by
  induction xs with
  | nil => rfl
  | cons x xs ih =>
    rw [List.flatMap_cons, List.map_append, List.sum_append, ih, List.map_cons, List.sum_cons]

theorem weight_list (vs : List Value) :
    (Value.list vs).weight weigh = (vs.map (weight weigh)).sum := by
  rw [weight, nodes, nodesInItems_eq, sum_map_flatMap]
  rfl

theorem weight_record (es : List (String × Value)) (plain : Bool) :
    (Value.record es plain).weight weigh = (es.map fun e => e.2.weight weigh).sum := by
  rw [weight, nodes, nodesInEntries_eq, sum_map_flatMap]
  rfl

theorem weight_node (n : Node) :
    (Value.node n).weight weigh = weigh n + (n.values.map fun e => e.2.weight weigh).sum := by
  rw [weight, nodes_node, List.map_cons, List.sum_cons, sum_map_flatMap]
  rfl

end Value

end ShapedTree
