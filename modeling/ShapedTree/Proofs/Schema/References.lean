import ShapedTree.Proofs.Schema.History

namespace ShapedTree

namespace Registry

/-- What a specification names is registered. -/
structure Resolves (r : Registry) (spec : FieldSpec) : Prop where
  kind : r.kinds.has spec.kind = true
  target : spec.kind = "node" →
    ∀ target, spec.info.constraints.target = some target → r.has target = true
  group : spec.kind = "choice" →
    ∀ group, spec.info.constraints.choice = some group → r.hasChoice group = true

theorem resolves_of_unresolvedIn {r : Registry} {schema field : String} {spec : FieldSpec}
    (h : r.unresolvedIn schema field spec = []) : r.Resolves spec := by
  simp only [unresolvedIn, List.append_eq_nil_iff] at h
  obtain ⟨⟨kind, target⟩, group⟩ := h
  constructor
  · by_contra absent
    simp [absent] at kind
  · intro node name given
    by_contra absent
    simp [given, node, absent] at target
  · intro choice name given
    by_contra absent
    simp [given, choice, absent] at group

theorem every_resolves_of_unresolved {r : Registry} (h : r.unresolved = []) :
    r.Every r.Resolves := by
  intro s hs top ht part hp
  have fields := List.flatMap_eq_nil_iff.mp h s hs
  have parts := List.flatMap_eq_nil_iff.mp fields top ht
  exact resolves_of_unresolvedIn (List.flatMap_eq_nil_iff.mp parts part hp)

/-- Another kind takes no reference away. -/
theorem Resolves.kinds {r : Registry} {spec : FieldSpec} (h : r.Resolves spec) (tag : String)
    (d : KindDefinition) : Resolves { r with kinds := r.kinds.register tag d } spec := by
  refine ⟨?_, h.target, h.group⟩
  have known := h.kind
  simp only [KindCatalog.has, KindCatalog.find?, KindCatalog.register] at known ⊢
  rw [Entries.lookup_put]
  split
  next => rfl
  next => exact known

/-- In every history, what a frozen registry names is registered. -/
theorem Made.resolved {r : Registry} (made : r.Made) (frozen : r.frozen = true) :
    r.Every r.Resolves := by
  induction made with
  | empty kinds => cases frozen
  | kind _ tag d ih => exact (ih frozen).mono fun _ h => h.kinds tag d
  | schema _ registered ih =>
    obtain ⟨-, -, -, -, ⟨opened, -⟩, choices, -, rfl⟩ := register?_eq_ok registered
    cases opened.symm.trans frozen
  | @freeze r _ ih =>
    rcases freeze?_eq r with ⟨heq, -⟩ | ⟨-, complete, heq⟩
    · rw [heq] at frozen ⊢
      exact ih frozen
    · rw [heq]
      exact every_resolves_of_unresolved complete

end Registry

end ShapedTree
