import ShapedTree.Proofs.Validation.NodeTally

namespace ShapedTree

/-- The nodes of a value weigh as much as the list of their warnings. -/
theorem Value.weight_notices (r : Registry) (v : Value) :
    v.weight r.notices = ↑(v.nodes.flatMap r.deprecations) := by
  unfold weight
  induction v.nodes with
  | nil => rfl
  | cons n rest ih =>
    rw [List.map_cons, List.sum_cons, ih, List.flatMap_cons, Registry.notices, Multiset.coe_add]

/-- The warnings of a valid result are those of the nodes in its tree: one for each deprecated field
that a node has and that is not a default. -/
theorem Registry.warnings_of_valid {r : Registry} (made : r.Made)
    (builtin : r.Every (FieldSpec.Builtin r.kinds)) (keys : r.Every FieldSpec.TextKeys)
    (plain : ∀ s ∈ r.schemas, s.info.shortform = none) {memory : Memory} {raw : Value}
    {schema : String} {o : ValidateOptions} {n : Node}
    (valid : (r.validate memory raw schema o).result = .ok (.valid n)) :
    ((warnings (r.validate memory raw schema o).log).map LogEntry.text).Perm
      ((Value.node n).nodes.flatMap r.deprecations) := by
  obtain ⟨frozen, t, run, clean⟩ := validate_eq_valid_iff.mp valid
  have traceable : r.Every (FieldSpec.Traceable r.kinds) := fun s hs top ht part hp =>
    ⟨builtin s hs top ht part hp, (keys s hs top ht part hp).textual⟩
  have coherent : (o.rules r).registry.Coherent := made.coherent
  have counted := Validation.checkNodeAt_tallies coherent plain traceable
    (Validation.levels o.maxDepth) raw schema ⟨[], o.stack, o.kwargs, 1⟩
  obtain ⟨w, added, charged⟩ := (counted _ _ _ run).2 clean
  have logged : (r.validate memory raw schema o).log = t.log.toList := by
    simp only [validate, frozen, run, Bool.not_true, Bool.false_eq_true, if_false]
  have same : tally t.log.toList = (Value.node n).weight r.notices := by
    rw [added, charged n rfl]
    exact zero_add _
  rw [logged]
  exact Multiset.coe_eq_coe.mp (same.trans (Value.weight_notices r _))

namespace Gallery

def textField (name : String) : FieldSpec := .leaf { name, kind := "string" }

def source : FieldSpec := .leaf {
  name := "source", kind := "string", required := false, deprecated := some "use 'file'" }

/-- A list whose items are of some member of a group. -/
def listField (name group : String) : FieldSpec :=
  .list { name, kind := "list" }
    (.leaf { name := group, kind := "choice", constraints := { choice := some group } })

def photo : Schema where
  name := "photo"
  fields := [textField "file", source]
  info := { choice := some ⟨"item", "photo"⟩ }

def film : Schema where
  name := "film"
  fields := [textField "file", source, .leaf { name := "length", kind := "integer" }]
  info := { choice := some ⟨"item", "film"⟩ }

def album : Schema where
  name := "album"
  fields := [listField "items" "item"]
  info := { choice := some ⟨"part", "album"⟩ }

def caption : Schema where
  name := "caption"
  fields := [textField "text"]
  info := { choice := some ⟨"part", "caption"⟩ }

def gallery : Schema where
  name := "gallery"
  fields := [listField "parts" "part"]

/-- Galleries, whose parts are albums and captions, and whose albums hold photos and films. -/
def registry : Registry where
  kinds := .builtin
  schemas := [photo, film, album, caption, gallery]
  choices := [("item", [("photo", "photo"), ("film", "film")]),
    ("part", [("album", "album"), ("caption", "caption")])]
  frozen := true

theorem registry_made : registry.Made := by
  have photos := Registry.Made.schema (.empty .builtin) (show Registry.register? _ photo.name
    (.specs photo.fields) photo.info = .ok (_, photo) from rfl)
  have films := Registry.Made.schema photos (show Registry.register? _ film.name
    (.specs film.fields) film.info = .ok (_, film) from rfl)
  have albums := Registry.Made.schema films (show Registry.register? _ album.name
    (.specs album.fields) album.info = .ok (_, album) from rfl)
  have captions := Registry.Made.schema albums (show Registry.register? _ caption.name
    (.specs caption.fields) caption.info = .ok (_, caption) from rfl)
  have galleries := Registry.Made.schema captions (show Registry.register? _ gallery.name
    (.specs gallery.fields) gallery.info = .ok (_, gallery) from rfl)
  exact .freeze galleries

theorem registry_builtin : registry.Every (FieldSpec.Builtin registry.kinds) := by
  simp only [Registry.Every, FieldSpec.Every, registry, photo, film, album, caption, gallery,
    Schema.allFields, textField, listField, source, FieldSpec.walk, List.forall_mem_cons,
    Option.map_none, Option.toList_none, List.append_nil, List.not_mem_nil, false_imp_iff,
    implies_true, and_true]
  exact ⟨⟨⟨.string, rfl, rfl⟩, ⟨.string, rfl, rfl⟩⟩,
    ⟨⟨.string, rfl, rfl⟩, ⟨.string, rfl, rfl⟩, ⟨.integer, rfl, rfl⟩⟩,
    ⟨⟨.list, rfl, rfl⟩, ⟨.choice, rfl, rfl⟩⟩, ⟨.string, rfl, rfl⟩,
    ⟨.list, rfl, rfl⟩, ⟨.choice, rfl, rfl⟩⟩

theorem registry_keys : registry.Every FieldSpec.TextKeys := by
  simp [Registry.Every, FieldSpec.Every, registry, photo, film, album, caption, gallery,
    Schema.allFields, textField, listField, source, FieldSpec.walk, FieldSpec.TextKeys]

/-- An album with one photo, neither of which says what it is. -/
def draft : Value := .record [("parts", .list [.record [("items", .list [
  .record [("file", .text "oak"), ("source", .text "oak.png")] true])] true])] true

def oak : Node :=
  ⟨"photo", [("file", .text "oak"), ("source", .text "oak.png")], [], some "photo", []⟩

def exhibition : Node :=
  ⟨"gallery", [("parts", .list [
    .node ⟨"album", [("items", .list [.node oak])], [], some "album", []⟩])], [], none, []⟩

set_option maxRecDepth 4000 in
/-- The photo is warned of once, though it was tried as a film as well. -/
theorem photo_warned :
    registry.Made ∧ registry.Every (FieldSpec.Builtin registry.kinds) ∧
      registry.Every FieldSpec.TextKeys ∧ (∀ s ∈ registry.schemas, s.info.shortform = none) ∧
      (registry.validate [] draft "gallery" {}).result = .ok (.valid exhibition) ∧
      ((warnings (registry.validate [] draft "gallery" {}).log).map LogEntry.text).Perm
        ["photo.source is deprecated: use 'file'"] := by
  have plain : ∀ s ∈ registry.schemas, s.info.shortform = none := by decide
  have valid : (registry.validate [] draft "gallery" {}).result = .ok (.valid exhibition) := rfl
  exact ⟨registry_made, registry_builtin, registry_keys, plain, valid,
    Registry.warnings_of_valid registry_made registry_builtin registry_keys plain valid⟩

end Gallery

end ShapedTree
