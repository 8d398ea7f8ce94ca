import ShapedTree.Proofs.Schema.History
import ShapedTree.Proofs.Validation.Conformance
import ShapedTree.Proofs.Validation.NodeJournal

namespace ShapedTree

namespace Snapshot

/-- Without the name of the heritage, a snapshot is the record of its values. -/
theorem ofList_eq {es : List (String × Value)} (plain : ∀ e ∈ es, e.1 ≠ heritageName) :
    ofList es = ⟨Record.ofList es, .common⟩ := by
  induction es using List.reverseRecOn with
  | nil => rfl
  | append_singleton es e ih =>
    have before := ih fun d hd => plain d (by simp [hd])
    have other : e.1 ≠ heritageName := plain e (by simp)
    have last : ofList (es ++ [e]) = (ofList es).assign e.1 e.2 := by simp [ofList]
    rw [last, before, Record.ofList_concat]
    simp [assign, other]

end Snapshot

namespace NodeOf

variable {α : Type} (n : NodeOf α) (names : List String)

theorem keys_only_sublist : ((n.only names).map Prod.fst).Sublist names :=
  Entries.keys_filterMap_sublist n.get? names

theorem lookup_only (f : String) :
    (n.only names).lookup f = if f ∈ names then n.get? f else none :=
  Entries.lookup_filterMap n.get? names f

end NodeOf

open Journal

/-- The siblings that a generator is shown are those fields of the node that are declared before its
own. -/
structure GeneratorArgs.SeeBefore (args : GeneratorArgs) (schema : Schema) (spec : FieldSpec)
    (n : Node) : Prop where
  field : args.field = spec.name
  heritage : args.siblings.heritage = .common
  siblings : ∃ before after, schema.fields = before ++ spec :: after ∧
    ∀ f, args.siblings.entries.lookup f =
      if f ∈ before.map FieldSpec.name then n.get? f else none

/-- In every validation, the generators of an accepted node see the fields declared before their own
as the finished node has them. -/
theorem Registry.generators_see_before {r : Registry} (made : r.Made)
    (plain : ∀ s ∈ r.schemas, heritageName ∉ s.fieldNames) (memory : Memory) (raw : Value)
    (name : String) (o : ValidateOptions) :
    (r.observe memory raw name o).1 = r.validate memory raw name o ∧
      ∀ route schema n inside spec args,
        Occurs (.within (.node schema (.ok (some n))) inside) route
          (r.observe memory raw name o).2 →
        Event.generated spec args ∈ inside → args.SeeBefore schema spec n := by
  obtain ⟨same, given⟩ := r.observe_shows memory raw name o
  refine ⟨same, fun route schema n inside spec args occurs called => ?_⟩
  obtain ⟨_, -, noted⟩ := occurs.given fun e he => (given e he).1
  obtain ⟨⟨known, concerns, foreseen⟩, -⟩ := noted.behind
  have distinct : schema.fieldNames.Nodup := made.coherent.fields schema known
  obtain ⟨before, after, fields, seen⟩ := foreseen distinct n rfl spec args called
  have earlier : (before.map FieldSpec.name).Sublist schema.fieldNames := by
    rw [Schema.fieldNames, fields, List.map_append]
    exact List.sublist_append_left _ _
  have keys := n.keys_only_sublist (before.map FieldSpec.name)
  have record : args.siblings =
      ⟨Record.ofList (n.only (before.map FieldSpec.name)), .common⟩ := by
    rw [seen]
    refine Snapshot.ofList_eq fun e he same => plain schema known ?_
    exact same ▸ (keys.trans earlier).subset (List.mem_map_of_mem he)
  refine ⟨(concerns _ called).2, by rw [record], before, after, fields, fun f => ?_⟩
  rw [record, Record.lookup_ofList (distinct.sublist (keys.trans earlier)), n.lookup_only]

namespace Library

/-- The first part of the edition. -/
def oak : Node :=
  ⟨"chapter", [("title", .text "Oak"), ("label", .list [.text "Woods", .text "Oak"])], ["label"],
    some "chapter", []⟩

theorem registry_common : ∀ s ∈ registry.schemas, heritageName ∉ s.fieldNames := by decide

set_option maxRecDepth 4000 in
/-- The label of the first chapter is made of its title. -/
theorem label_sees_title :
    registry.Made ∧ (∀ s ∈ registry.schemas, heritageName ∉ s.fieldNames) ∧
      ∃ route inside spec args,
        Occurs (.within (.node chapter (.ok (some oak))) inside) route
          (registry.observe [] draft "book" {}).2 ∧
        Event.generated spec args ∈ inside ∧ spec.name = "label" ∧
        args.SeeBefore chapter spec oak := by
  have sees := (Registry.generators_see_before registry_made registry_common [] draft "book" {}).2
  have called : ∃ route inside spec args,
      Occurs (.within (.node chapter (.ok (some oak))) inside) route
        (registry.observe [] draft "book" {}).2 ∧
      Event.generated spec args ∈ inside ∧ spec.name = "label" :=
    ⟨_, _, _, _, .within (List.mem_singleton.mpr rfl)
      (.within (.tail _ (.tail _ (.tail _ (.head _)))) (.within (.head _) (.here (.head _)))),
      .tail _ (.tail _ (.head _)), rfl⟩
  obtain ⟨route, inside, spec, args, occurs, mem, label⟩ := called
  exact ⟨registry_made, registry_common, route, inside, spec, args, occurs, mem, label,
    sees route chapter oak inside spec args occurs mem⟩

end Library

end ShapedTree
