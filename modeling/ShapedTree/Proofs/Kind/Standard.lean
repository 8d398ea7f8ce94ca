import ShapedTree.Kind.Catalog
import ShapedTree.Proofs.Record.Lookup
import ShapedTree.Schema.Registry

namespace ShapedTree

namespace BuiltinKind

/-- Kinds that make a text of every text that they accept. -/
def yieldsText : BuiltinKind → Bool
  | .string | .identifier | .pattern | .selection | .integerText | .json => true
  | _ => false

/-- Kinds that make a text, a number or a boolean of every such value that they accept. -/
def keepsPrimitives : BuiltinKind → Bool
  | .number | .integer | .string | .boolean | .selection | .identifier | .pattern | .integerText
  | .json => true
  | _ => false

theorem tag_injective {k l : BuiltinKind} (h : k.tag = l.tag) : k = l := by
  cases k <;> cases l <;> first | rfl | simp [tag] at h

end BuiltinKind

/-- A specification is of a built-in kind, under the tag of that kind. -/
def KindCatalog.Knows (c : KindCatalog) (k : BuiltinKind) (spec : FieldSpec) : Prop :=
  spec.kind = k.tag ∧ c.find? k.tag = some (.ofBuiltin k)

namespace KindCatalog.Knows

variable {c : KindCatalog} {k l : BuiltinKind} {spec : FieldSpec}

theorem unique (h : c.Knows k spec) (h' : c.Knows l spec) : k = l :=
  BuiltinKind.tag_injective (h.1.symm.trans h'.1)

theorem isNested_eq (h : c.Knows k spec) : c.isNested spec.kind = k.isNested := by
  simp [KindCatalog.isNested, h.1, h.2, KindDefinition.ofBuiltin]

theorem acceptsNull_eq (h : c.Knows k spec) : c.acceptsNull spec.kind = k.takesNull := by
  simp [KindCatalog.acceptsNull, h.1, h.2, KindDefinition.ofBuiltin]

theorem check_eq {m : Type → Type} [Monad m] [MonadExceptOf Fault m] (h : c.Knows k spec)
    (ctx : KindContext m) (parts : PartChecks m) (raw : Value) :
    c.check spec.kind ctx parts spec raw = k.check ctx parts spec.info raw := by
  simp [KindCatalog.check, h.1, h.2, KindDefinition.ofBuiltin, KindDefinition.check]

end KindCatalog.Knows

/-- The built-in kinds are not custom kinds. -/
theorem KindCatalog.builtin_rule {tag : String} {d : KindDefinition} {k : CustomKind}
    (found : KindCatalog.builtin.find? tag = some d) (custom : d.rule = .custom k) : False := by
  obtain ⟨b, -, same⟩ := List.mem_map.mp (Entries.mem_of_lookup found)
  cases same
  cases custom

namespace FieldSpec

/-- A property holds of a specification and of its parts at any depth. -/
def Every (P : FieldSpec → Prop) (s : FieldSpec) : Prop := ∀ part ∈ s.walk, P part

/-- What holds of a specification once it holds of its parts, holds of every specification. -/
theorem induction_parts {P : FieldSpec → Prop}
    (h : ∀ s : FieldSpec, (∀ part ∈ s.parts, P part) → P s)
    (s : FieldSpec) : P s := by
  induction s with
  | leaf info => exact h _ (by simp [parts])
  | list info item ih => exact h _ (by simpa [parts] using ih)
  | mapping info key value ihKey ihValue => exact h _ (by simpa [parts] using ⟨ihKey, ihValue⟩)
  | either info primitive complex ihPrimitive ihComplex =>
    exact h _ (by simpa [parts] using ⟨ihPrimitive, ihComplex⟩)

theorem walk_eq (s : FieldSpec) : s.walk = s :: s.parts.flatMap walk := by
  cases s <;> simp [walk, parts]

theorem self_mem_walk (s : FieldSpec) : s ∈ s.walk := by
  cases s <;> simp [walk]

/-- The parts of a specification are met wherever it is. -/
theorem mem_walk_of_part {s part top : FieldSpec} (hpart : part ∈ s.parts) (hs : s ∈ top.walk) :
    part ∈ top.walk := by
  induction top using induction_parts with
  | h top ih =>
    rw [walk_eq] at hs ⊢
    rcases List.mem_cons.mp hs with rfl | inside
    · exact List.mem_cons_of_mem _ (List.mem_flatMap.mpr ⟨part, hpart, part.self_mem_walk⟩)
    · obtain ⟨other, hother, inside⟩ := List.mem_flatMap.mp inside
      exact List.mem_cons_of_mem _ (List.mem_flatMap.mpr ⟨other, hother, ih other hother inside⟩)

namespace Every

variable {P Q : FieldSpec → Prop} {info : FieldInfo} {a b s : FieldSpec}

theorem self (h : s.Every P) : P s := h s s.self_mem_walk

theorem mono (h : s.Every P) (le : ∀ part, P part → Q part) : s.Every Q :=
  fun part hp => le part (h part hp)

theorem part (h : s.Every P) (hp : a ∈ s.parts) : a.Every P := by
  intro part below
  rw [Every, walk_eq] at h
  exact h part (List.mem_cons_of_mem _ (List.mem_flatMap.mpr ⟨a, hp, below⟩))

theorem item (h : (list info a).Every P) : a.Every P :=
  fun part hp => h part (by simp [walk, hp])

theorem key (h : (mapping info a b).Every P) : a.Every P :=
  fun part hp => h part (by simp [walk, hp])

theorem value (h : (mapping info a b).Every P) : b.Every P :=
  fun part hp => h part (by simp [walk, hp])

theorem primitive (h : (either info a b).Every P) : a.Every P :=
  fun part hp => h part (by simp [walk, hp])

theorem complex (h : (either info a b).Every P) : b.Every P :=
  fun part hp => h part (by simp [walk, hp])

end Every

/-- The specification is of a built-in kind. -/
def Builtin (c : KindCatalog) (s : FieldSpec) : Prop := ∃ k, c.Knows k s

theorem builtin_of_has {s : FieldSpec} (h : KindCatalog.builtin.has s.kind = true) :
    s.Builtin .builtin := by
  obtain ⟨d, found⟩ := Option.isSome_iff_exists.mp h
  obtain ⟨k, -, same⟩ := List.mem_map.mp (Entries.mem_of_lookup found)
  obtain ⟨kind, rfl⟩ := Prod.mk.inj same
  exact ⟨k, kind.symm, kind ▸ found⟩

/-- The kind of the specification, if it is known at all, is a built-in one. -/
def Standard (c : KindCatalog) (s : FieldSpec) : Prop :=
  ∀ d, c.find? s.kind = some d → ∃ k : BuiltinKind, s.kind = k.tag ∧ d = .ofBuiltin k

theorem Builtin.standard {c : KindCatalog} {s : FieldSpec} (h : s.Builtin c) : s.Standard c := by
  obtain ⟨k, kind, found⟩ := h
  intro d known
  rw [kind, found] at known
  cases known
  exact ⟨k, kind, rfl⟩

theorem Standard.builtin {c : KindCatalog} {s : FieldSpec} (h : s.Standard c)
    (known : c.has s.kind = true) : s.Builtin c := by
  obtain ⟨d, found⟩ := Option.isSome_iff_exists.mp known
  obtain ⟨k, kind, rfl⟩ := h d found
  exact ⟨k, kind, kind ▸ found⟩

/-- The keys of a mapping are of a kind that yields texts. -/
def TextKeys : FieldSpec → Prop
  | .mapping _ key _ => ∃ k : BuiltinKind, key.kind = k.tag ∧ k.yieldsText = true
  | _ => True

/-- The primitive form of a field with two forms is of a kind that keeps primitives. -/
def PrimitiveForms : FieldSpec → Prop
  | .either _ primitive _ => ∃ k : BuiltinKind, primitive.kind = k.tag ∧ k.keepsPrimitives = true
  | _ => True

/-- The pattern, if there is one, does not remember where it stopped. -/
def FixedPattern (s : FieldSpec) : Prop :=
  ∀ p, s.info.constraints.pattern = some p → p.remembers = false

/-- The default, if there is one, does not count how often it was asked for. -/
def PureDefault (s : FieldSpec) : Prop :=
  ∀ cell make, s.info.default? ≠ some (.counting cell make)

/-- What the rules of acceptance rely on: a built-in kind, a fixed pattern, keys that are texts. -/
structure Regular (c : KindCatalog) (s : FieldSpec) : Prop where
  builtin : s.Builtin c
  fixed : s.FixedPattern
  keys : s.TextKeys

/-- What keeps runs from remembering: a built-in kind, a fixed pattern, a default that does not
count. -/
structure Memoryless (c : KindCatalog) (s : FieldSpec) : Prop where
  builtin : s.Builtin c
  fixed : s.FixedPattern
  default : s.PureDefault

/-- The extra check of a specification passes. -/
def Passes (s : FieldSpec) (v : Value) : Prop :=
  ∀ check, s.info.constraints.validator = some check → check v = .ok .pass

end FieldSpec

/-- A property holds of every specification of a registry, at any depth. -/
def Registry.Every (r : Registry) (P : FieldSpec → Prop) : Prop :=
  ∀ s ∈ r.schemas, ∀ top ∈ s.allFields, top.Every P

namespace Registry.Every

variable {r : Registry} {P Q : FieldSpec → Prop}

theorem mono (h : r.Every P) (le : ∀ part, P part → Q part) : r.Every Q :=
  fun s hs top ht => (h s hs top ht).mono le

theorem field (h : r.Every P) {name : String} {s : Schema} (found : r.find? name = some s)
    {spec : FieldSpec} (hf : spec ∈ s.fields) : spec.Every P :=
  h s (List.mem_of_find?_eq_some found) spec (by simp [Schema.allFields, hf])

theorem shortform (h : r.Every P) {name : String} {s : Schema} (found : r.find? name = some s)
    {short : Shortform} (hs : s.info.shortform = some short) : short.field.Every P :=
  h s (List.mem_of_find?_eq_some found) _ (by simp [Schema.allFields, hs])

end Registry.Every

end ShapedTree
