import ShapedTree.Proofs.Run.Logic
import ShapedTree.Proofs.Schema.History
import ShapedTree.Proofs.Validation.Siblings

namespace ShapedTree

namespace Draft

/-- One call that sets a field. -/
structure Write where
  field : String
  value : Value
  defaulted : Bool

/-- The draft after a row of calls. -/
def after (schema : String) (writes : List Write) : Draft :=
  writes.foldl (fun d w => d.set w.field w.value w.defaulted) { schema }

/-- The last call that sets a field. -/
def last? (writes : List Write) (field : String) : Option Write :=
  (writes.filter fun w => w.field = field).getLast?

/-- The value that the last call leaves in a field, unless it is no value. -/
def stored? (writes : List Write) (field : String) : Option Value :=
  (last? writes field).bind fun w => if w.value.isUndefined then none else some w.value

theorem after_concat (schema : String) (writes : List Write) (w : Write) :
    after schema (writes ++ [w]) = (after schema writes).set w.field w.value w.defaulted := by
  simp [after]

theorem last?_concat (writes : List Write) (w : Write) (f : String) :
    last? (writes ++ [w]) f = if f = w.field then some w else last? writes f := by
  by_cases same : w.field = f
  · simp [last?, same]
  · simp [last?, same, Ne.symm same]

theorem get?_after (schema : String) (writes : List Write) (f : String) :
    (after schema writes).get? f = (last? writes f).map Write.value := by
  induction writes using List.reverseRecOn with
  | nil => rfl
  | append_singleton writes w ih =>
    rw [after_concat, get?_set, last?_concat, ih]
    split <;> rfl

theorem isDefaulted_after (schema : String) (writes : List Write) (f : String) :
    (after schema writes).isDefaulted f = ((last? writes f).map Write.defaulted).getD false := by
  induction writes using List.reverseRecOn with
  | nil => rfl
  | append_singleton writes w ih =>
    rw [after_concat, isDefaulted_set, last?_concat, ih]
    split <;> rfl

theorem value?_after (schema : String) (writes : List Write) (f : String) :
    (after schema writes).value? f = stored? writes f := by
  rw [value?, get?_after, stored?]
  cases last? writes f <;> rfl

end Draft

/-- A snapshot and a node hold the same: the same entries, and the same value or none under every
name, where the snapshot inherits nothing of its own. -/
structure Snapshot.Mirrors (s : Snapshot) (n : Node) : Prop where
  heritage : s.heritage = .common
  entries : s.entries.Perm n.values
  lookup : ∀ f, s.entries.lookup f = n.get? f

namespace Draft

variable {d : Draft} {names : List String}

/-- A draft without a value under the name of the heritage shows what it becomes. -/
theorem snapshot_mirrors (distinct : names.Nodup)
    (plain : heritageName ∈ names → d.value? heritageName = none) (choiceType : Option String)
    (compactable : List String) :
    (d.snapshot names).Mirrors (d.finish names choiceType compactable) := by
  have keys := distinct.sublist (keys_entries_sublist d names)
  have record : d.snapshot names = ⟨Record.ofList (d.entries names), .common⟩ := by
    refine Snapshot.ofList_eq fun e he same => ?_
    obtain ⟨listed, held⟩ := mem_entries.mp he
    rw [same] at listed held
    rw [plain listed] at held
    cases held
  rw [record]
  refine ⟨rfl, ?_, fun f => ?_⟩
  · rw [values_finish distinct]
    exact Record.ofList_perm keys
  · rw [NodeOf.get?, values_finish distinct, Record.lookup_ofList keys]

theorem get?_finish (distinct : names.Nodup) (choiceType : Option String)
    (compactable : List String) (f : String) :
    (d.finish names choiceType compactable).get? f = if f ∈ names then d.value? f else none := by
  rw [NodeOf.get?, values_finish distinct, entries, Entries.lookup_filterMap]

end Draft

namespace Validation

variable {rules : Rules} {schema : Schema}

/-- A node's own check passes where it is asked. -/
theorem returns_checkNode (draft : Draft) (place : Place) :
    Run.Returns (checkNode rules schema draft place) fun passed => passed = true →
      ∀ check, schema.info.validator = some check →
        check ⟨draft.snapshot schema.fieldNames, place.stack, place.kwargs⟩ = .ok .pass := by
  unfold checkNode
  split
  next none_ => exact .pure fun _ check other => by rw [none_] at other; cases other
  next check own =>
    refine .bind_of (.lift _) fun verdict said => ?_
    cases verdict with
    | pass =>
      refine .pure fun _ check' same => ?_
      cases own.symm.trans same
      exact said
    | fail => exact .bind fun _ => .pure nofun
    | failWith message => exact .bind fun _ => .pure nofun

/-- The node's own check has passed on what the returned node holds. -/
theorem returns_checkFields (distinct : schema.fieldNames.Nodup)
    (plain : heritageName ∉ schema.fieldNames) (value : ValueRun) (record : Entries Value)
    (place : Place) :
    Run.Returns (checkFields rules value schema record place) (Run.Permits fun n =>
      ∀ check, schema.info.validator = some check → ∃ shown,
        check ⟨shown, place.stack, place.kwargs⟩ = .ok .pass ∧ shown.Mirrors n) := by
  unfold checkFields
  refine .bind fun before => .bind fun _ => .bind fun _ => .bind fun (slots, first) =>
    .bind fun draft => .bind fun _ => .bind fun now => ?_
  split
  next => exact .pure .none
  next =>
    refine .bind fun stopped => ?_
    cases stopped with
    | true => exact .pure .none
    | false =>
      refine .bind_of (returns_checkNode draft place) fun passed holds => ?_
      cases passed with
      | false => exact .pure .none
      | true =>
        refine .pure (.some fun check own => ⟨_, holds rfl check own, ?_⟩)
        exact Draft.snapshot_mirrors distinct (fun declared => absurd declared plain) _ _

end Validation

/-- A node check judges the node that is returned. After any history of a draft, what it shows of a
list of fields and the node that it becomes with them hold the same: each field its last value, the
fields that were never set nothing, and those are marked whose last call marked them. The field
called `__proto__` is left out of it. -/
theorem Draft.snapshot_mirrors_finish (schema : String) (writes : List Draft.Write)
    {names : List String} (distinct : names.Nodup)
    (plain : heritageName ∈ names → Draft.stored? writes heritageName = none)
    (choiceType : Option String) (compactable : List String) :
    ((Draft.after schema writes).snapshot names).Mirrors
        ((Draft.after schema writes).finish names choiceType compactable) ∧
      (∀ f, ((Draft.after schema writes).finish names choiceType compactable).get? f =
        if f ∈ names then Draft.stored? writes f else none) ∧
      (∀ f, (∀ w ∈ writes, w.field ≠ f) →
        ((Draft.after schema writes).finish names choiceType compactable).get? f = none) ∧
      (∀ f, f ∈ ((Draft.after schema writes).finish names choiceType compactable).defaulted ↔
        f ∈ names ∧ ∃ w, Draft.last? writes f = some w ∧ w.defaulted = true) ∧
      ∀ (rules : Rules) (value : ValueRun) (declared : Schema) (record : Entries Value)
        (place : Place), declared.fieldNames = names → heritageName ∉ names →
        Run.Returns (Validation.checkFields rules value declared record place)
          (Run.Permits fun n => ∀ check, declared.info.validator = some check → ∃ shown,
            check ⟨shown, place.stack, place.kwargs⟩ = .ok .pass ∧ shown.Mirrors n) := by
  have held : ∀ f, ((Draft.after schema writes).finish names choiceType compactable).get? f =
      if f ∈ names then Draft.stored? writes f else none := by
    intro f
    rw [Draft.get?_finish distinct, Draft.value?_after]
  refine ⟨Draft.snapshot_mirrors distinct (fun listed => ?_) choiceType compactable, held, ?_, ?_, ?_⟩
  · rw [Draft.value?_after]
    exact plain listed
  · intro f unset
    have never : Draft.last? writes f = none := by
      rw [Draft.last?, List.filter_eq_nil_iff.mpr fun w hw => by simpa using unset w hw]
      rfl
    rw [held, Draft.stored?, never]
    simp
  · intro f
    rw [Draft.mem_defaulted_finish, Draft.isDefaulted_after]
    cases Draft.last? writes f <;> simp
  · rintro rules value declared record place rfl apart
    exact Validation.returns_checkFields distinct apart value record place

namespace Spans

open Draft (Write)

/-- The lower end is set twice, a note is set to no value, and the label is never set. -/
def history : List Write :=
  [⟨"lower", .number 2, true⟩, ⟨"upper", .number 3, true⟩, ⟨"note", .undefined, true⟩,
    ⟨"lower", .number 1, false⟩]

theorem history_mirrored :
    ["lower", "label", "upper", "note"].Nodup ∧
      ((Draft.after "span" history).snapshot ["lower", "label", "upper", "note"]).Mirrors
        ⟨"span", [("lower", .number 1), ("upper", .number 3)], ["upper", "note"], none, []⟩ :=
  ⟨by decide, (Draft.snapshot_mirrors_finish "span" history (by decide)
    (fun listed => absurd listed (by decide)) none []).1⟩

/-- A field called `__proto__` is in the node and not in what its check is shown: the check judges
another record than the one that is returned. -/
theorem lower_end_unseen :
    let draft := Draft.after "span" [⟨"__proto__", .number 1, false⟩, ⟨"upper", .number 2, false⟩]
    (draft.finish ["__proto__", "upper"] none []).get? "__proto__" = some (.number 1) ∧
      (draft.snapshot ["__proto__", "upper"]).entries = [("upper", .number 2)] ∧
      ¬ (draft.snapshot ["__proto__", "upper"]).Mirrors
        (draft.finish ["__proto__", "upper"] none []) := by
  refine ⟨rfl, rfl, fun mirrors => ?_⟩
  have same := mirrors.lookup "__proto__"
  cases same

end Spans

end ShapedTree
