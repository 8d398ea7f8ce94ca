import ShapedTree.Proofs.Validation.Arrangement
import ShapedTree.Proofs.Validation.Conformance

namespace ShapedTree

namespace Registry

theorem Rearranged.freeze?_perm {r r' : Registry} (h : r.Rearranged r') (made : r.Made)
    (made' : r'.Made) (schemas : r.schemas.Perm r'.schemas) :
    r.freeze?.2.Perm r'.freeze?.2 := by
  rw [made.freeze?_snd, made'.freeze?_snd]
  exact h.unresolved_perm made made' schemas

theorem Rearranged.freeze? {r r' : Registry} (h : r.Rearranged r') :
    r.freeze?.1.Rearranged r'.freeze?.1 := by
  obtain ⟨b, heq⟩ := freeze?_fst r
  obtain ⟨b', heq'⟩ := freeze?_fst r'
  rw [heq, heq']
  exact h.frozen b b'

theorem Every.freeze? {r : Registry} {P : FieldSpec → Prop} (h : r.Every P) :
    r.freeze?.1.Every P := by
  obtain ⟨b, heq⟩ := freeze?_fst r
  rw [heq]
  exact h

theorem freeze?_kinds (r : Registry) : r.freeze?.1.kinds = r.kinds := by
  obtain ⟨b, heq⟩ := freeze?_fst r
  rw [heq]

theorem Made.memoryless {r : Registry} (made : r.Made) (frozen : r.frozen = true)
    (standard : r.Every (FieldSpec.Standard r.kinds)) (fixed : r.Every FieldSpec.FixedPattern)
    (steady : r.Every FieldSpec.PureDefault) : r.Every (FieldSpec.Memoryless r.kinds) :=
  fun s hs top ht part hp =>
    ⟨(standard s hs top ht part hp).builtin (made.resolved frozen s hs top ht part hp).kind,
      fixed s hs top ht part hp, steady s hs top ht part hp⟩

/-- Registrations that succeed in two orders freeze in both or in neither, with the same references
unresolved; and where they freeze, values are valid in both or in neither, as the same nodes. -/
theorem registration_order {kinds : KindCatalog} {cs cs' : List Registration} (perm : cs.Perm cs')
    {r r' : Registry} (first : registerAll { kinds } cs = .ok r)
    (second : registerAll { kinds } cs' = .ok r')
    (standard : r.Every (FieldSpec.Standard r.kinds)) (fixed : r.Every FieldSpec.FixedPattern)
    (steady : r.Every FieldSpec.PureDefault) :
    (r.freeze?.1.frozen = true ↔ r'.freeze?.1.frozen = true) ∧ r.freeze?.2.Perm r'.freeze?.2 ∧
      ∀ memory memory' raw schema o result result',
        (r.freeze?.1.validate memory raw schema o).result = .ok result →
        (r'.freeze?.1.validate memory' raw schema o).result = .ok result' →
        ∀ n, result = .valid n ↔ result' = .valid n := by
  obtain ⟨made, -⟩ := registerAll_eq_ok first (.empty kinds)
  obtain ⟨made', -⟩ := registerAll_eq_ok second (.empty kinds)
  obtain ⟨schemas, rearranged⟩ := registerAll_perm (.empty kinds) first second perm
  have listed := rearranged.freeze?_perm made made' schemas
  refine ⟨?_, listed, fun memory memory' raw schema o result result' returned returned' => ?_⟩
  · rw [made.freeze?_frozen_iff, made'.freeze?_frozen_iff, ← List.perm_nil, ← List.perm_nil]
    exact listed.congr_left []
  · have moved : ∀ {P : FieldSpec → Prop}, r.Every P → r'.Every P :=
      fun every s hs => every s (schemas.mem_iff.mpr hs)
    have standard' := moved standard
    rw [rearranged.kinds, ← freeze?_kinds] at standard'
    rw [← freeze?_kinds] at standard
    have plain := made.freeze.memoryless (Validation.frozen_of_ok returned) standard.freeze?
      fixed.freeze? steady.freeze?
    have plain' := made'.freeze.memoryless (Validation.frozen_of_ok returned') standard'.freeze?
      (moved fixed).freeze? (moved steady).freeze?
    exact rearranged.freeze?.valid_iff plain plain' (.refl raw) returned returned'

end Registry

namespace Library

def registration (s : Schema) : Registry.Registration := ⟨s.name, .specs s.fields, s.info⟩

def opened : Registry := { registry with frozen := false }

/-- The open library with its schemas in the opposite order. -/
def backwards : Registry where
  kinds := .builtin
  schemas := [book, note, chapter]
  choices := [("part", [("note", "note"), ("chapter", "chapter")])]

set_option maxRecDepth 4000 in
theorem validate_backwards :
    (backwards.freeze?.1.validate [] draft "book" {}).result = .ok (.valid edition) := rfl

/-- Chapters, notes and books freeze in either order, and a draft becomes the same edition. -/
theorem either_order :
    Registry.registerAll { kinds := .builtin } ([chapter, note, book].map registration) =
      .ok opened ∧
    Registry.registerAll { kinds := .builtin } ([book, note, chapter].map registration) =
      .ok backwards ∧
    opened.freeze? = (registry, []) ∧ backwards.freeze?.1.frozen = true ∧
    (registry.validate [] draft "book" {}).result = .ok (.valid edition) ∧
    ∃ result, (backwards.freeze?.1.validate [] draft "book" {}).result = .ok result ∧
      ∀ n, ValidationResult.valid edition = .valid n ↔ result = .valid n := by
  have first : Registry.registerAll { kinds := .builtin }
      ([chapter, note, book].map registration) = .ok opened := rfl
  have second : Registry.registerAll { kinds := .builtin }
      ([book, note, chapter].map registration) = .ok backwards := rfl
  have perm : ([chapter, note, book].map registration).Perm
      ([book, note, chapter].map registration) := (List.reverse_perm _).symm
  obtain ⟨frozen, -, valid⟩ := Registry.registration_order perm first second
    (registry_builtin.mono fun _ h => h.standard) (registry_plain.mono fun _ h => h.1)
    (registry_plain.mono fun _ h => h.2.2.2)
  exact ⟨first, second, rfl, frozen.mp rfl, validate_draft, _, validate_backwards,
    valid _ _ _ _ _ _ _ validate_draft validate_backwards⟩

end Library

end ShapedTree
