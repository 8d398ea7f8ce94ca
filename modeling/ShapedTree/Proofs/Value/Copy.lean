import ShapedTree.Proofs.Lists
import ShapedTree.Proofs.Record.Sorting
import ShapedTree.Value.Json

namespace ShapedTree

namespace Value

variable {o : Omission}

theorem serializeItems_eq_map (o : Omission) (vs : List Value) :
    serializeItems o vs = vs.map (serialize o) := by
  induction vs with
  | nil => rfl
  | cons v vs ih => rw [serializeItems, ih, List.map_cons]

theorem serializeEntries_eq_map (o : Omission) (es : List (String × Value)) :
    serializeEntries o es = es.map fun e => (e.1, serialize o e.2) := by
  induction es with
  | nil => rfl
  | cons e es ih => rw [serializeEntries, ih, List.map_cons]

mutual

/-- A value with other marks of defaults on its nodes. -/
def remark (f : List String → List String) : Value → Value
  | .list items => .list (remarkItems f items)
  | .record es plain => .record (remarkEntries f es) plain
  | .node ⟨schema, values, defaulted, choiceType, compactable⟩ =>
    .node ⟨schema, remarkEntries f values, f defaulted, choiceType, compactable⟩
  | v => v
termination_by structural v => v

def remarkItems (f : List String → List String) : List Value → List Value
  | [] => []
  | v :: vs => remark f v :: remarkItems f vs
termination_by structural vs => vs

def remarkEntries (f : List String → List String) :
    List (String × Value) → List (String × Value)
  | [] => []
  | (k, v) :: es => (k, remark f v) :: remarkEntries f es
termination_by structural es => es

end

variable {f : List String → List String}

theorem remarkItems_eq_map (f : List String → List String) (vs : List Value) :
    remarkItems f vs = vs.map (remark f) := by
  induction vs with
  | nil => rfl
  | cons v vs ih => rw [remarkItems, ih, List.map_cons]

theorem remarkEntries_eq_map (f : List String → List String) (es : List (String × Value)) :
    remarkEntries f es = es.map fun e => (e.1, remark f e.2) := by
  induction es with
  | nil => rfl
  | cons e es ih => rw [remarkEntries, ih, List.map_cons]

theorem keys_remarkEntries (f : List String → List String) (es : List (String × Value)) :
    (remarkEntries f es).map Prod.fst = es.map Prod.fst := by
  rw [remarkEntries_eq_map, List.map_map]
  rfl

mutual

theorem remark_id : ∀ v : Value, v.remark id = v
  | .list items => by rw [remark, remarkItems_id items]
  | .record es _ => by rw [remark, remarkEntries_id es]
  | .node ⟨_, values, _, _, _⟩ => by rw [remark, remarkEntries_id values, id]
  | .undefined | .hole | .null | .bool _ | .number _ | .text _ | .bigint _ | .exotic _ | .knot => rfl
termination_by structural v => v

theorem remarkItems_id : ∀ vs : List Value, remarkItems id vs = vs
  | [] => rfl
  | v :: vs => by rw [remarkItems, remark_id v, remarkItems_id vs]
termination_by structural vs => vs

theorem remarkEntries_id : ∀ es : List (String × Value), remarkEntries id es = es
  | [] => rfl
  | (_, v) :: es => by rw [remarkEntries, remark_id v, remarkEntries_id es]
termination_by structural es => es

end

mutual

theorem remark_remark (f g : List String → List String) :
    ∀ v : Value, (v.remark f).remark g = v.remark (g ∘ f)
  | .list items => by rw [remark, remark, remark, remarkItems_remarkItems f g items]
  | .record es _ => by rw [remark, remark, remark, remarkEntries_remarkEntries f g es]
  | .node ⟨_, values, _, _, _⟩ => by
    rw [remark, remark, remark, remarkEntries_remarkEntries f g values, Function.comp_apply]
  | .undefined | .hole | .null | .bool _ | .number _ | .text _ | .bigint _ | .exotic _ | .knot => rfl
termination_by structural v => v

theorem remarkItems_remarkItems (f g : List String → List String) :
    ∀ vs : List Value, remarkItems g (remarkItems f vs) = remarkItems (g ∘ f) vs
  | [] => rfl
  | v :: vs => by
    rw [remarkItems, remarkItems, remarkItems, remark_remark f g v,
      remarkItems_remarkItems f g vs]
termination_by structural vs => vs

theorem remarkEntries_remarkEntries (f g : List String → List String) :
    ∀ es : List (String × Value), remarkEntries g (remarkEntries f es) = remarkEntries (g ∘ f) es
  | [] => rfl
  | (_, v) :: es => by
    rw [remarkEntries, remarkEntries, remarkEntries, remark_remark f g v,
      remarkEntries_remarkEntries f g es]
termination_by structural es => es

end

mutual

theorem serialize_remark : ∀ v : Value, (v.remark f).serialize .none = v.serialize .none
  | .list items => by rw [remark, serialize, serialize, serializeItems_remarkItems items]
  | .record es _ => by rw [remark, serialize, serialize, serializeEntries_remarkEntries es]
  | .node ⟨_, values, _, _, _⟩ => by
    simp only [remark, serialize, serializeEntries_remarkEntries values, NodeOf.keeps]
  | .undefined | .hole | .null | .bool _ | .number _ | .text _ | .bigint _ | .exotic _ | .knot => rfl
termination_by structural v => v

theorem serializeItems_remarkItems :
    ∀ vs : List Value, serializeItems .none (remarkItems f vs) = serializeItems .none vs
  | [] => rfl
  | v :: vs => by
    rw [remarkItems, serializeItems, serializeItems, serialize_remark v,
      serializeItems_remarkItems vs]
termination_by structural vs => vs

theorem serializeEntries_remarkEntries : ∀ es : List (String × Value),
    serializeEntries .none (remarkEntries f es) = serializeEntries .none es
  | [] => rfl
  | (_, v) :: es => by
    rw [remarkEntries, serializeEntries, serializeEntries, serialize_remark v,
      serializeEntries_remarkEntries es]
termination_by structural es => es

end

@[simp] theorem isUndefined_remark (v : Value) : (v.remark f).isUndefined = v.isUndefined := by
  cases v <;> rfl

@[simp] theorem isNull_serialize (v : Value) : (v.serialize o).isNull = v.isNull := by
  cases v <;> rfl

@[simp] theorem isUndefined_serialize (v : Value) : (v.serialize o).isUndefined = v.isUndefined := by
  cases v <;> rfl

@[simp] theorem isPrimitive_serialize (v : Value) : (v.serialize o).isPrimitive = v.isPrimitive := by
  cases v <;> rfl

/-- Copying, serialization and other marks leave a value as it is. -/
structure Steady (v : Value) : Prop where
  copy : v.jsonCopy? = some v
  serialized : ∀ o, v.serialize o = v
  marked : ∀ f, v.remark f = v

theorem copyItems?_of_steady {vs : List Value} (h : ∀ v ∈ vs, v.Steady) :
    copyItems? vs = some vs := by
  induction vs with
  | nil => rfl
  | cons v vs ih =>
    rw [copyItems?, (h v (by simp)).copy, ih fun w hw => h w (by simp [hw])]
    rfl

theorem copyEntries?_of_steady {es : List (String × Value)} (h : ∀ e ∈ es, e.2.Steady) :
    copyEntries? es = some es := by
  induction es with
  | nil => rfl
  | cons e es ih =>
    rw [copyEntries?, (h e (by simp)).copy, ih fun d hd => h d (by simp [hd])]
    rfl

theorem Steady.list {vs : List Value} (h : ∀ v ∈ vs, v.Steady) : (Value.list vs).Steady where
  copy := by rw [jsonCopy?, copyItems?_of_steady h]; rfl
  serialized o := by
    rw [serialize, serializeItems_eq_map, List.map_congr_left fun v hv => (h v hv).serialized o,
      List.map_id']
  marked f := by
    rw [remark, remarkItems_eq_map, List.map_congr_left fun v hv => (h v hv).marked f,
      List.map_id']

/-- The record of sorted entries is steady if the entries are. -/
theorem Steady.record {es : List (String × Value)} (h : ∀ e ∈ es, e.2.Steady) :
    (Value.record (sortEntries es) true).Steady where
  copy := by
    have sorted : ∀ e ∈ sortEntries es, e.2.Steady := fun e he => h e (Record.mem_of_mem_sortBy he)
    rw [jsonCopy?, copyEntries?_of_steady sorted, Option.map_some, sortEntries_sortEntries]
  serialized o := by
    have same : ∀ e ∈ sortEntries es, (e.1, serialize o e.2) = e := fun e he => by
      rw [(h e (Record.mem_of_mem_sortBy he)).serialized o]
    rw [serialize, serializeEntries_eq_map, List.map_congr_left same, List.map_id']
  marked f := by
    have same : ∀ e ∈ sortEntries es, (e.1, remark f e.2) = e := fun e he => by
      rw [(h e (Record.mem_of_mem_sortBy he)).marked f]
    rw [remark, remarkEntries_eq_map, List.map_congr_left same, List.map_id']

theorem copyItems?_eq_some {vs cs : List Value} :
    copyItems? vs = some cs ↔ List.Forall₂ (fun v c => v.jsonCopy? = some c) vs cs := by
  induction vs generalizing cs with
  | nil => cases cs <;> simp [copyItems?]
  | cons v vs ih =>
    unfold copyItems?
    cases copy : v.jsonCopy? with
    | none => cases cs <;> simp [copy]
    | some c => cases cs <;> simp [copy, ih, and_comm]

theorem copyEntries?_eq_some {es cs : Entries Value} :
    copyEntries? es = some cs ↔
      List.Forall₂ (fun e c : String × Value => e.1 = c.1 ∧ e.2.jsonCopy? = some c.2) es cs := by
  induction es generalizing cs with
  | nil => cases cs <;> simp [copyEntries?]
  | cons e es ih =>
    obtain ⟨k, v⟩ := e
    unfold copyEntries?
    cases copy : v.jsonCopy? with
    | none => cases cs <;> simp [copy]
    | some c => cases cs <;> simp [copy, ih, and_comm, Prod.ext_iff]

/-- What is said of a value and its copy follows from what is said of their parts. -/
structure Copying (P : Value → Value → Prop) : Prop where
  null : P .null .null
  bool (b : Bool) : P (.bool b) (.bool b)
  text (s : String) : P (.text s) (.text s)
  number {n : Number} (finite : n.isFinite = true) : P (.number n) (.number n)
  list {vs cs : List Value} (items : List.Forall₂ P vs cs) : P (.list vs) (.list cs)
  record {es cs : Entries Value} {plain : Bool}
      (values : List.Forall₂ (fun e c => e.1 = c.1 ∧ P e.2 c.2) es cs) :
      P (.record es plain) (.record (sortEntries cs) true)

namespace Copying

variable {P : Value → Value → Prop}

mutual

/-- The induction over a copy. -/
theorem of_jsonCopy? (h : Copying P) : ∀ {v c : Value}, v.jsonCopy? = some c → P v c
  | .null, c, copy => by cases copy; exact h.null
  | .bool b, c, copy => by cases copy; exact h.bool b
  | .text s, c, copy => by cases copy; exact h.text s
  | .number n, c, copy => by
    unfold jsonCopy? at copy
    split at copy
    next finite => cases copy; exact h.number finite
    next => cases copy
  | .list items, c, copy => by
    obtain ⟨cs, copies, rfl⟩ := Option.map_eq_some_iff.mp copy
    exact h.list (h.of_copyItems? copies)
  | .record es _, c, copy => by
    obtain ⟨cs, copies, rfl⟩ := Option.map_eq_some_iff.mp copy
    exact h.record (h.of_copyEntries? copies)
  | .undefined, c, copy | .hole, c, copy | .bigint _, c, copy | .exotic _, c, copy
  | .knot, c, copy | .node _, c, copy => by
    cases copy
termination_by structural v => v

theorem of_copyItems? (h : Copying P) :
    ∀ {vs cs : List Value}, copyItems? vs = some cs → List.Forall₂ P vs cs
  | [], cs, copies => by cases copies; exact .nil
  | v :: vs, cs, copies => by
    unfold copyItems? at copies
    split at copies
    next => cases copies
    next d first =>
      obtain ⟨ds, others, rfl⟩ := Option.map_eq_some_iff.mp copies
      exact .cons (h.of_jsonCopy? first) (h.of_copyItems? others)
termination_by structural vs => vs

theorem of_copyEntries? (h : Copying P) : ∀ {es cs : Entries Value}, copyEntries? es = some cs →
    List.Forall₂ (fun e c => e.1 = c.1 ∧ P e.2 c.2) es cs
  | [], cs, copies => by cases copies; exact .nil
  | (k, v) :: es, cs, copies => by
    unfold copyEntries? at copies
    split at copies
    next => cases copies
    next d first =>
      obtain ⟨ds, others, rfl⟩ := Option.map_eq_some_iff.mp copies
      exact .cons ⟨rfl, h.of_jsonCopy? first⟩ (h.of_copyEntries? others)
termination_by structural es => es

end

/-- What holds of the scalars and of the whole if it holds of the parts holds of every copy. -/
theorem of_copies {P : Value → Prop} (null : P .null) (bool : ∀ b, P (.bool b))
    (text : ∀ s, P (.text s)) (number : ∀ {n : Number}, n.isFinite = true → P (.number n))
    (list : ∀ {cs : List Value}, (∀ c ∈ cs, P c) → P (.list cs))
    (record : ∀ {cs : Entries Value}, (∀ c ∈ cs, P c.2) → P (.record (sortEntries cs) true)) :
    Copying fun _ c => P c where
  null := null
  bool := bool
  text := text
  number := number
  list items := list fun c mem => (exists_left_of_mem items c mem).elim fun _ pair => pair.2
  record values := record fun c mem =>
    (exists_left_of_mem values c mem).elim fun _ pair => pair.2.2

end Copying

theorem steady_of_jsonCopy? {v c : Value} (copy : v.jsonCopy? = some c) : c.Steady :=
  (Copying.of_copies ⟨rfl, fun _ => rfl, fun _ => rfl⟩ (fun _ => ⟨rfl, fun _ => rfl, fun _ => rfl⟩)
    (fun _ => ⟨rfl, fun _ => rfl, fun _ => rfl⟩)
    (fun finite => ⟨by rw [jsonCopy?, if_pos finite], fun _ => rfl, fun _ => rfl⟩) .list
    .record).of_jsonCopy? copy

/-- A copy is null or primitive exactly if the value is, and a primitive is its own copy. -/
theorem jsonCopy?_shape {v c : Value} (h : v.jsonCopy? = some c) :
    c.isNull = v.isNull ∧ c.isUndefined = false ∧ c.isPrimitive = v.isPrimitive ∧
      (v.isPrimitive = true → c = v) := by
  cases v with
  | null | bool _ | text _ => cases h; simp [isNull, isUndefined, isPrimitive]
  | number n =>
    unfold jsonCopy? at h
    split at h
    next => cases h; simp [isNull, isUndefined, isPrimitive]
    next => cases h
  | list items =>
    obtain ⟨cs, copies, rfl⟩ := Option.map_eq_some_iff.mp h
    simp [isNull, isUndefined, isPrimitive]
  | record es _ =>
    obtain ⟨cs, copies, rfl⟩ := Option.map_eq_some_iff.mp h
    simp [isNull, isUndefined, isPrimitive]
  | _ => cases h

end Value

namespace Node

variable {n : Node} {o : Omission}

/-- A node with other marks of defaults, its own and those below. -/
def remark (f : List String → List String) (n : Node) : Node :=
  { n with values := Value.remarkEntries f n.values, defaulted := f n.defaulted }

theorem remark_node (f : List String → List String) (n : Node) :
    (Value.node n).remark f = .node (n.remark f) := by
  cases n
  rfl

theorem remark_id (n : Node) : n.remark id = n := by
  rw [remark, Value.remarkEntries_id]
  rfl

theorem serialize_node (o : Omission) (n : Node) :
    (Value.node n).serialize o = .record (n.serialize o) true := by
  cases n
  rfl

/-- A node without any marks of defaults, at every level. -/
def unmarked (n : Node) : Node := n.remark fun _ => []

theorem serialize_remark (f : List String → List String) (n : Node) :
    (n.remark f).serialize .none = n.serialize .none := by
  have same := Value.serialize_remark (f := f) (.node n)
  rw [remark_node, serialize_node, serialize_node] at same
  exact (Value.record.inj same).1

theorem keys_serializeEntries (o : Omission) (es : List (String × Value)) :
    (Value.serializeEntries o es).map Prod.fst = es.map Prod.fst := by
  rw [Value.serializeEntries_eq_map, List.map_map]
  rfl

/-- The entries of a node's record before they are put in order. -/
theorem nodup_entries (distinct : (n.values.map Prod.fst).Nodup)
    (free : n.choiceType = none ∨ "type" ∉ n.values.map Prod.fst) :
    ((typeEntry n.choiceType ++ (Value.serializeEntries o n.values).filter fun e =>
      n.keeps o e.1).map Prod.fst).Nodup := by
  have kept : (((Value.serializeEntries o n.values).filter fun e => n.keeps o e.1).map
      Prod.fst).Sublist (n.values.map Prod.fst) := by
    rw [← keys_serializeEntries o n.values]
    exact List.filter_sublist.map Prod.fst
  cases type : n.choiceType with
  | none => exact distinct.sublist kept
  | some t =>
    have free : "type" ∉ n.values.map Prod.fst := free.resolve_left (by simp [type])
    exact List.nodup_cons.mpr ⟨fun hm => free (kept.subset hm), distinct.sublist kept⟩

/-- Output holds the discriminator under `type`, and the fields that it keeps under their names. -/
theorem lookup_serialize (distinct : (n.values.map Prod.fst).Nodup)
    (free : n.choiceType = none ∨ "type" ∉ n.values.map Prod.fst) (key : String) :
    (n.serialize o).lookup key = ((typeEntry n.choiceType).lookup key).or
      (if n.keeps o key then (n.values.lookup key).map (Value.serialize o) else none) := by
  have held : (Value.serializeEntries o n.values).lookup key =
      (n.values.lookup key).map (Value.serialize o) := by
    rw [Value.serializeEntries_eq_map]
    exact Entries.lookup_map (fun _ => Value.serialize o) key
  rw [serialize, Record.lookup_ofList (nodup_entries distinct free), List.lookup_append,
    Entries.lookup_filter, held]

/-- What output keeps of a node it holds under the name of the field, whatever the discriminator
is. -/
theorem lookup_serialize_kept (distinct : (n.values.map Prod.fst).Nodup) {field : String}
    {v : Value} (held : n.values.lookup field = some v) (kept : n.keeps o field = true) :
    (n.serialize o).lookup field = some (v.serialize o) := by
  let written := (Value.serializeEntries o n.values).filter fun e => n.keeps o e.1
  have single : (written.map Prod.fst).Nodup := by
    have all : ((Value.serializeEntries o n.values).map Prod.fst).Nodup := by
      rw [keys_serializeEntries]
      exact distinct
    exact all.sublist (List.filter_sublist.map Prod.fst)
  have output : written.lookup field = some (v.serialize o) := by
    rw [Entries.lookup_filter, if_pos kept, Value.serializeEntries_eq_map]
    exact (Entries.lookup_map (fun _ => Value.serialize o) field).trans (by rw [held]; rfl)
  have reversed : written.reverse.lookup field = written.lookup field :=
    Entries.lookup_perm single (List.reverse_perm written).symm field
  rw [serialize, Record.ofList, Record.lookup_merge, List.reverse_append, List.lookup_append,
    reversed, output]
  rfl

theorem mem_keys_serialize {key : String} (h : key ∈ (n.serialize o).map Prod.fst) :
    key = "type" ∧ n.choiceType.isSome = true ∨ key ∈ n.values.map Prod.fst := by
  rw [serialize, Record.mem_keys_ofList, List.map_append, List.mem_append] at h
  rcases h with h | h
  · cases type : n.choiceType with
    | none => simp [typeEntry, type] at h
    | some t => exact .inl ⟨by simpa [typeEntry, type] using h, rfl⟩
  · rw [← keys_serializeEntries o n.values]
    exact .inr ((List.filter_sublist.map Prod.fst).subset h)

end Node

end ShapedTree
