import ShapedTree.Proofs.Value.Copy
import ShapedTree.Value.Preview

namespace ShapedTree

namespace Value

/-- A value without big integers and without cycles. -/
inductive Legible : Value → Prop
  | undefined : Legible .undefined
  | hole : Legible .hole
  | null : Legible .null
  | bool (b : Bool) : Legible (.bool b)
  | number (n : Number) : Legible (.number n)
  | text (s : String) : Legible (.text s)
  | exotic (made : ObjectClass) : Legible (.exotic made)
  | list {items : List Value} (h : ∀ v ∈ items, Legible v) : Legible (.list items)
  | record {es : Entries Value} {plain : Bool} (h : ∀ e ∈ es, Legible e.2) :
      Legible (.record es plain)
  | node {n : NodeOf Value} (h : ∀ e ∈ n.values, Legible e.2) : Legible (.node n)

theorem shortenItems_of_forall {vs : List Value}
    (h : ∀ v ∈ vs, ∀ depth, ∃ shown, shorten depth v = some shown) (depth count : Nat) :
    ∃ shown, shortenItems depth count vs = some shown := by
  induction vs generalizing count with
  | nil => cases count <;> exact ⟨[], by simp [shortenItems]⟩
  | cons v vs ih =>
    obtain ⟨first, others⟩ := List.forall_mem_cons.mp h
    cases count with
    | zero => exact ⟨[], by simp [shortenItems]⟩
    | succ count =>
      obtain ⟨rest, hrest⟩ := ih others count
      cases depth with
      | zero => exact ⟨_, by rw [shortenItems, hrest]; rfl⟩
      | succ depth =>
        obtain ⟨shown, hv⟩ := first depth
        exact ⟨_, by rw [shortenItems, hv, hrest]; rfl⟩

theorem shortenEntries_of_forall {es : List (String × Value)}
    (h : ∀ e ∈ es, ∀ depth, ∃ shown, shorten depth e.2 = some shown) (depth : Nat) :
    ∃ shown, shortenEntries depth es = some shown := by
  induction es with
  | nil => cases depth <;> exact ⟨[], by simp [shortenEntries]⟩
  | cons e es ih =>
    obtain ⟨first, others⟩ := List.forall_mem_cons.mp h
    obtain ⟨rest, hrest⟩ := ih others
    cases depth with
    | zero => exact ⟨_, by rw [shortenEntries, hrest]; rfl⟩
    | succ depth =>
      obtain ⟨shown, hv⟩ := first depth
      cases shown <;> exact ⟨_, by rw [shortenEntries, hv, hrest]; rfl⟩

theorem renderItems_of_forall {vs : List Value} (h : ∀ v ∈ vs, ∃ text, render v = .ok text) :
    ∃ texts, renderItems vs = .ok texts := by
  induction vs with
  | nil => exact ⟨[], rfl⟩
  | cons v vs ih =>
    obtain ⟨⟨text, hv⟩, others⟩ := List.forall_mem_cons.mp h
    obtain ⟨rest, hrest⟩ := ih others
    exact ⟨_, by rw [renderItems, hv, hrest]; rfl⟩

theorem renderEntries_of_forall {es : List (String × Value)}
    (h : ∀ e ∈ es, ∃ text, render e.2 = .ok text) : ∃ texts, renderEntries es = .ok texts := by
  induction es with
  | nil => exact ⟨[], rfl⟩
  | cons e es ih =>
    obtain ⟨⟨text, hv⟩, others⟩ := List.forall_mem_cons.mp h
    obtain ⟨rest, hrest⟩ := ih others
    cases text <;> exact ⟨_, by rw [renderEntries, hv, hrest]; rfl⟩

namespace Legible

variable {v : Value}

theorem shorten (h : v.Legible) : ∀ depth, ∃ shown, Value.shorten depth v = some shown := by
  induction h with
  | list _ ih =>
    intro depth
    obtain ⟨shown, hitems⟩ := shortenItems_of_forall ih depth previewItems
    exact ⟨_, by rw [Value.shorten, hitems]; rfl⟩
  | @record es plain _ ih =>
    intro depth
    obtain ⟨shown, hes⟩ := shortenEntries_of_forall ih depth
    by_cases large : previewFields < es.length
    · exact ⟨_, by rw [Value.shorten, if_pos large]⟩
    · exact ⟨_, by rw [Value.shorten, if_neg large, hes]; rfl⟩
  | _ => exact fun depth => ⟨_, rfl⟩

theorem preview (h : v.Legible) : ∃ text, v.preview = .ok text := by
  obtain ⟨shown, hv⟩ := h.shorten previewDepth
  unfold Value.preview
  rw [hv]
  cases v <;> exact ⟨_, rfl⟩

theorem render (h : v.Legible) : ∃ text, Value.render v = .ok text := by
  induction h with
  | list _ ih =>
    obtain ⟨texts, hitems⟩ := renderItems_of_forall ih
    exact ⟨_, by rw [Value.render, hitems]; rfl⟩
  | record _ ih =>
    obtain ⟨texts, hes⟩ := renderEntries_of_forall ih
    exact ⟨_, by rw [Value.render, hes]; rfl⟩
  | node _ ih =>
    obtain ⟨texts, hes⟩ := renderEntries_of_forall ih
    exact ⟨_, by rw [Value.render, hes]; rfl⟩
  | _ => exact ⟨_, rfl⟩

theorem serialize (h : v.Legible) (o : Omission) : (v.serialize o).Legible := by
  induction h with
  | list _ ih =>
    rw [Value.serialize, serializeItems_eq_map]
    refine .list fun w hw => ?_
    obtain ⟨v, hv, rfl⟩ := List.mem_map.mp hw
    exact ih v hv
  | record _ ih =>
    rw [Value.serialize, serializeEntries_eq_map]
    refine .record fun d hd => ?_
    obtain ⟨e, he, rfl⟩ := List.mem_map.mp hd
    exact ih e he
  | @node n _ ih =>
    rw [Value.serialize, serializeEntries_eq_map]
    refine .record fun d hd => ?_
    rcases List.mem_append.mp (Record.mem_of_mem_ofList hd) with named | kept
    · cases type : n.choiceType with
      | none => simp [type, typeEntry] at named
      | some t =>
        simp only [type, typeEntry, List.mem_singleton] at named
        rw [named]
        exact .text t
    · obtain ⟨e, he, rfl⟩ := List.mem_map.mp (List.mem_filter.mp kept).1
      exact ih e he
  | undefined => exact .undefined
  | hole => exact .hole
  | null => exact .null
  | bool b => exact .bool b
  | number n => exact .number n
  | text s => exact .text s
  | exotic made => exact .record (List.forall_mem_nil _)

theorem json (h : v.Legible) : ∃ text, v.json = .ok text := by
  obtain ⟨text, hv⟩ := (h.serialize .none).render
  exact ⟨text.getD "undefined", by rw [Value.json, json?, hv]; rfl⟩

theorem entries (h : v.Legible) {es : Entries Value} (shape : v.entries? = some es) :
    ∀ e ∈ es, e.2.Legible := by
  cases h with
  | record h => cases shape; exact h
  | exotic => cases shape; exact nofun
  | @node n =>
    cases shape
    simp only [List.forall_mem_cons, List.not_mem_nil, false_imp_iff, implies_true, and_true]
    refine ⟨.text _, .exotic _, ?_, .exotic _, .exotic _⟩
    cases n.choiceType with
    | none => exact .undefined
    | some type => exact .text type
  | _ => cases shape

theorem part (h : v.Legible) {name : String} {w : Value} (held : v.part? name = some w) :
    w.Legible := by
  unfold part? at held
  split at held
  next items =>
    cases h with
    | list h =>
      split at held
      next =>
        cases held
        exact .number _
      next =>
        obtain ⟨i, -, item⟩ := Option.bind_eq_some_iff.mp held
        exact h w (List.mem_of_getElem? (Option.filter_eq_some_iff.mp item).1)
  next =>
    obtain ⟨es, shape, item⟩ := Option.bind_eq_some_iff.mp held
    exact h.entries shape _ (Entries.mem_of_lookup item)

end Legible

theorem legible_of_jsonCopy? {v c : Value} (copy : v.jsonCopy? = some c) : c.Legible :=
  (Copying.of_copies .null .bool .text (fun _ => .number _) .list fun h =>
    .record fun e mem => h e (Record.mem_of_mem_sortBy mem)).of_jsonCopy? copy

/-- A value that is neither a list nor a record of its own. -/
def isAtom : Value → Bool
  | .list _ | .record _ _ => false
  | _ => true

/-- Reports can show a value and its parts: each has a preview, and what a record holds under `type`
has a JSON text. -/
inductive Presentable : Value → Prop
  | atom {v : Value} (atom : v.isAtom = true) : Presentable v
  | list {items : List Value} (shown : ∃ text, (Value.list items).preview = .ok text)
      (parts : ∀ v ∈ items, Presentable v) : Presentable (.list items)
  | record {es : Entries Value} {plain : Bool}
      (shown : ∃ text, (Value.record es plain).preview = .ok text)
      (parts : ∀ e ∈ es, Presentable e.2)
      (typed : ∀ type, es.lookup "type" = some type → ∃ text, type.json = .ok text) :
      Presentable (.record es plain)

theorem preview_of_isAtom {v : Value} (h : v.isAtom = true) : ∃ text, v.preview = .ok text := by
  cases v with
  | list items => cases h
  | record es plain => cases h
  | _ => exact ⟨_, rfl⟩

/-- The entries of a record of which reports can show every part. -/
structure PresentableEntries (es : Entries Value) : Prop where
  parts : ∀ e ∈ es, e.2.Presentable
  typed : ∀ type, es.lookup "type" = some type → ∃ text, type.json = .ok text

namespace Presentable

variable {v : Value}

theorem preview (h : v.Presentable) : ∃ text, v.preview = .ok text := by
  cases h with
  | atom atom => exact preview_of_isAtom atom
  | list shown => exact shown
  | record shown => exact shown

theorem items (h : v.Presentable) {vs : List Value} (shape : v.items? = some vs) :
    ∀ w ∈ vs, w.Presentable := by
  cases h with
  | list _ parts => exact forall_mem_of_items? (.atom rfl) parts shape
  | record => cases shape
  | atom atom =>
    cases v with
    | list => cases atom
    | _ => cases shape

theorem entries (h : v.Presentable) {es : Entries Value} (shape : v.entries? = some es) :
    PresentableEntries es := by
  cases h with
  | list => cases shape
  | record shown parts typed =>
    cases shape
    exact ⟨parts, typed⟩
  | atom atom =>
    cases v with
    | knot =>
      cases shape
      refine ⟨?_, nofun⟩
      simp only [List.forall_mem_cons, List.not_mem_nil, false_imp_iff, implies_true, and_true]
      exact .atom rfl
    | exotic made =>
      cases shape
      exact ⟨nofun, nofun⟩
    | node n =>
      cases shape
      refine ⟨?_, nofun⟩
      simp only [List.forall_mem_cons, List.not_mem_nil, false_imp_iff, implies_true, and_true]
      refine ⟨.atom rfl, .atom rfl, ?_, .atom rfl, .atom rfl⟩
      cases n.choiceType <;> exact .atom rfl
    | record => cases atom
    | _ => cases shape

end Presentable

theorem Legible.presentable {v : Value} (h : v.Legible) : v.Presentable := by
  induction h with
  | list h ih => exact .list (Legible.list h).preview ih
  | record h ih =>
    exact .record (Legible.record h).preview ih fun type named =>
      (h _ (Entries.mem_of_lookup named)).json
  | _ => exact .atom rfl

end Value

end ShapedTree
