import Mathlib.Data.Rat.Defs
import ShapedTree.Proofs.Kind.Verdict
import ShapedTree.Proofs.Number.IntegerText
import ShapedTree.Proofs.Value.Copy

namespace ShapedTree

namespace BuiltinKind

/-- A stored value is of a kind without parts and satisfies the constraints. -/
inductive Holds (c : Constraints) : BuiltinKind → Value → Prop
  | number {q : Rat} (range : Kind.InRange c (.finite q)) : Holds c .number (.number (.finite q))
  | integer {n : Int} (range : Kind.InRange c (.ofInt n)) :
      Holds c .integer (.number (.ofInt n))
  | string {s : String} (fits : Kind.TextFits c s) : Holds c .string (.text s)
  | boolean (b : Bool) : Holds c .boolean (.bool b)
  | selection {s : String} (option : s ∈ Kind.optionsOf c) : Holds c .selection (.text s)
  | multiselection {picked : List String}
      (options : (Kind.optionsOf c).filter picked.contains = picked) :
      Holds c .multiselection (.ofTexts picked)
  | json {v : Value} (present : v.isNull = false) (copy : v.jsonCopy? = some v) : Holds c .json v
  | identifier {s : String} (fits : Kind.TextFits c s) (name : isIdentifier s = true) :
      Holds c .identifier (.text s)
  | pattern {s : String} (fits : Kind.TextFits c s) (source : Pattern.isSource s = true) :
      Holds c .pattern (.text s)
  | integerText {n : Int} (small : n.natAbs < Number.exactLimit) (range : Kind.InRange c (.ofInt n)) :
      Holds c .integerText (.text (Decimal.integerText n))

end BuiltinKind

namespace Kind

variable {c : Constraints} {raw v : Value}

theorem checkRange_eq_ok {n : Number} {held : Value} :
    checkRange c n held = .ok v ↔ held = v ∧ InRange c n := by
  rw [← nearestBound_eq_none_iff]
  unfold checkRange
  cases nearestBound n c.min c.max <;> simp [violation, refuse]

theorem checkNumber_eq_ok :
    checkNumber c raw = .ok v ↔ ∃ q, raw = .number (.finite q) ∧ raw = v ∧
      InRange c (.finite q) := by
  unfold checkNumber
  split
  next n =>
    cases n with
    | finite q =>
      simp only [Number.isFinite, if_true, checkRange_eq_ok, Value.number.injEq,
        Number.finite.injEq]
      exact ⟨fun h => ⟨q, rfl, h⟩, by rintro ⟨q', rfl, h⟩; exact h⟩
    | _ => simp [Number.isFinite, mismatch, refuse]
  next h =>
    simp only [mismatch, refuse, reduceCtorEq, false_iff, not_exists, not_and]
    rintro q rfl
    exact absurd rfl (h (.finite q))

theorem ofInt_of_isInteger {n : Number} (h : n.isInteger = true) : ∃ m, n = .ofInt m := by
  cases n with
  | finite q =>
    refine ⟨q.num, ?_⟩
    rw [Number.isInteger, beq_iff_eq] at h
    exact congrArg Number.finite ((Rat.den_eq_one_iff q).mp h).symm
  | _ => simp [Number.isInteger] at h

theorem isInteger_ofInt (m : Int) : (Number.ofInt m).isInteger = true := by
  simp [Number.ofInt, Number.isInteger]

theorem checkInteger_eq_ok :
    checkInteger c raw = .ok v ↔ ∃ m, raw = .number (.ofInt m) ∧ raw = v ∧
      InRange c (.ofInt m) := by
  unfold checkInteger
  split
  next n =>
    split
    next whole =>
      obtain ⟨m, rfl⟩ := ofInt_of_isInteger whole
      simp only [checkRange_eq_ok, Value.number.injEq, Number.ofInt, Number.finite.injEq]
      exact ⟨fun h => ⟨m, rfl, h⟩, by rintro ⟨m', hm, h⟩; rw [hm] at *; exact h⟩
    next broken =>
      simp only [mismatch, refuse, reduceCtorEq, false_iff, not_exists, not_and]
      rintro m hm
      cases hm
      exact absurd (isInteger_ofInt m) broken
  next h =>
    simp only [mismatch, refuse, reduceCtorEq, false_iff, not_exists, not_and]
    rintro m rfl
    exact absurd rfl (h (.ofInt m))

theorem checkBoolean_eq_ok : checkBoolean raw = .ok v ↔ ∃ b, raw = .bool b ∧ raw = v := by
  cases raw <;> simp [checkBoolean, mismatch, refuse]

theorem checkSelection_eq_ok :
    checkSelection c raw = .ok v ↔ ∃ s, raw = .text s ∧ raw = v ∧ s ∈ optionsOf c := by
  unfold checkSelection
  split
  next s =>
    by_cases h : s ∈ optionsOf c <;> simp [h, violation, refuse]
  next h =>
    simp only [mismatch, refuse, reduceCtorEq, false_iff, not_exists, not_and]
    rintro s rfl
    exact absurd rfl (h s)

theorem badItem?_eq_none_iff {options : List String} {items : List Value} :
    badItem? options items = none ↔ ∀ item ∈ items, ∃ s, item = .text s ∧ s ∈ options := by
  induction items with
  | nil => simp [badItem?]
  | cons item items ih =>
    unfold badItem?
    split
    next => simp_all
    next s rest heq =>
      cases heq
      by_cases h : s ∈ options <;> simp [h, ih]
    next other rest plain heq =>
      cases heq
      simp only [reduceCtorEq, List.mem_cons, forall_eq_or_imp, false_iff, not_and]
      rintro ⟨s, rfl, -⟩
      exact absurd rfl (plain s)

/-- The items that a multiselection takes from a value. -/
theorem checkMultiselection_eq_ok :
    checkMultiselection c raw = .ok v ↔ ∃ items : List Value,
      (raw = .null ∧ items = [] ∨ (∃ s, raw = .text s ∧ items = [.text s]) ∨ raw = .list items) ∧
      badItem? (optionsOf c) items = none ∧
      v = .ofTexts ((optionsOf c).filter fun o => items.any (isText o)) := by
  unfold checkMultiselection
  cases raw with
  | null => simp [badItem?, eq_comm]
  | text s =>
    simp only
    cases h : badItem? (optionsOf c) [.text s] <;> simp [h, violation, refuse, eq_comm]
  | list items =>
    simp only
    cases h : badItem? (optionsOf c) items <;> simp [h, violation, refuse, eq_comm]
  | _ => simp [mismatch, refuse]

theorem checkJson_eq_ok : checkJson raw = .ok v ↔ raw.jsonCopy? = some v := by
  unfold checkJson
  cases raw.jsonCopy? <;> simp [mismatch, refuse]

theorem checkIntegerText_eq_ok :
    checkIntegerText c raw = .ok v ↔ ∃ n, safeInteger? raw = some n ∧
      .text (Decimal.integerText n) = v ∧ InRange c (.ofInt n) := by
  unfold checkIntegerText
  cases safeInteger? raw <;> simp [checkRange_eq_ok, mismatch, refuse]

theorem safeInteger?_integerText {n : Int} (small : n.natAbs < Number.exactLimit) :
    safeInteger? (.text (Decimal.integerText n)) = some n := by
  simp only [safeInteger?, Numeral.integer?_integerText, if_pos small]

theorem safeInteger?_eq_some {n : Int} (h : safeInteger? raw = some n) :
    n.natAbs < Number.exactLimit ∧ ∃ s, raw = .text s := by
  unfold safeInteger? at h
  split at h
  next s =>
    split at h
    next m =>
      split at h
      next small => cases h; exact ⟨small, s, rfl⟩
      next => cases h
    next => cases h
  next => cases h

theorem checkIdentifier_eq_ok {s : String} :
    checkIdentifier s = .ok v ↔ .text s = v ∧ isIdentifier s = true := by
  unfold checkIdentifier
  cases isIdentifier s <;> simp [violation, refuse]

theorem checkPattern_eq_ok {s : String} :
    checkPattern s = .ok v ↔ .text s = v ∧ Pattern.isSource s = true := by
  unfold checkPattern
  cases Pattern.isSource s <;> simp [violation, refuse]

end Kind

namespace BuiltinKind

variable {c : Constraints} {k : BuiltinKind} {raw v : Value}

theorem textVerdict_map_eq_ok {f : String → KindResult} :
    (Kind.textVerdict c raw).bind f = .ok v ↔
      ∃ s, raw = .text s ∧ Kind.TextFits c s ∧ f s = .ok v := by
  cases h : Kind.textVerdict c raw with
  | ok s =>
    obtain ⟨rfl, fits⟩ := Kind.textVerdict_eq_ok.mp h
    simp [Except.bind, fits]
  | error e =>
    simp only [Except.bind, reduceCtorEq, false_iff, not_exists, not_and]
    rintro s rfl fits
    rw [Kind.textVerdict_eq_ok.mpr ⟨rfl, fits⟩] at h
    cases h

theorem verdict_string : BuiltinKind.string.verdict c raw = .ok v ↔
    ∃ s, raw = .text s ∧ Kind.TextFits c s ∧ .text s = v := by
  have same : BuiltinKind.string.verdict c raw =
      (Kind.textVerdict c raw).bind fun s => .ok (.text s) := by
    cases h : Kind.textVerdict c raw <;> simp [verdict, h, Except.map, Except.bind]
  simp [same, textVerdict_map_eq_ok]

/-- A kind without parts stores what it accepts in its own form. -/
theorem holds_of_verdict (flat : k.isNested = false) (h : k.verdict c raw = .ok v)
    (present : (raw.isNull && !k.takesNull) = false) : Holds c k v := by
  cases k with
  | node | choice | list | mapping | either => simp [isNested] at flat
  | number =>
    obtain ⟨q, rfl, rfl, range⟩ := Kind.checkNumber_eq_ok.mp h
    exact .number range
  | integer =>
    obtain ⟨m, rfl, rfl, range⟩ := Kind.checkInteger_eq_ok.mp h
    exact .integer range
  | boolean =>
    obtain ⟨b, rfl, rfl⟩ := Kind.checkBoolean_eq_ok.mp h
    exact .boolean b
  | selection =>
    obtain ⟨s, rfl, rfl, option⟩ := Kind.checkSelection_eq_ok.mp h
    exact .selection option
  | multiselection =>
    obtain ⟨items, -, -, rfl⟩ := Kind.checkMultiselection_eq_ok.mp h
    refine .multiselection (List.filter_congr fun o ho => ?_)
    rw [Bool.eq_iff_iff, List.contains_iff_mem, List.mem_filter]
    exact ⟨And.right, And.intro ho⟩
  | json =>
    have copy := Kind.checkJson_eq_ok.mp h
    have shape := Value.jsonCopy?_shape copy
    refine .json ?_ (Value.steady_of_jsonCopy? copy).copy
    simpa [takesNull, shape.1] using present
  | integerText =>
    obtain ⟨n, spelled, rfl, range⟩ := Kind.checkIntegerText_eq_ok.mp h
    exact .integerText (Kind.safeInteger?_eq_some spelled).1 range
  | string =>
    obtain ⟨s, rfl, fits, rfl⟩ := verdict_string.mp h
    exact .string fits
  | identifier =>
    obtain ⟨s, rfl, fits, h⟩ := textVerdict_map_eq_ok.mp h
    obtain ⟨rfl, name⟩ := Kind.checkIdentifier_eq_ok.mp h
    exact .identifier fits name
  | pattern =>
    obtain ⟨s, rfl, fits, h⟩ := textVerdict_map_eq_ok.mp h
    obtain ⟨rfl, source⟩ := Kind.checkPattern_eq_ok.mp h
    exact .pattern fits source

namespace Holds

/-- What a kind stores it accepts as it is. -/
theorem verdict_eq (h : Holds c k v) : k.verdict c v = .ok v := by
  cases h with
  | number range => exact Kind.checkNumber_eq_ok.mpr ⟨_, rfl, rfl, range⟩
  | integer range => exact Kind.checkInteger_eq_ok.mpr ⟨_, rfl, rfl, range⟩
  | boolean b => exact Kind.checkBoolean_eq_ok.mpr ⟨b, rfl, rfl⟩
  | selection option => exact Kind.checkSelection_eq_ok.mpr ⟨_, rfl, rfl, option⟩
  | @multiselection picked options =>
    refine Kind.checkMultiselection_eq_ok.mpr ⟨picked.map .text, Or.inr (Or.inr rfl), ?_, ?_⟩
    · rw [Kind.badItem?_eq_none_iff]
      intro item hitem
      obtain ⟨s, hs, rfl⟩ := List.mem_map.mp hitem
      rw [← options] at hs
      exact ⟨s, rfl, (List.mem_filter.mp hs).1⟩
    · refine congrArg Value.ofTexts (options.symm.trans (List.filter_congr fun o _ => ?_))
      simp only [List.contains_eq_any_beq, List.any_map, Function.comp_def, Kind.isText,
        Bool.beq_comm]
  | json present copy => exact Kind.checkJson_eq_ok.mpr copy
  | string fits => exact verdict_string.mpr ⟨_, rfl, fits, rfl⟩
  | identifier fits name =>
    exact textVerdict_map_eq_ok.mpr ⟨_, rfl, fits, Kind.checkIdentifier_eq_ok.mpr ⟨rfl, name⟩⟩
  | pattern fits source =>
    exact textVerdict_map_eq_ok.mpr ⟨_, rfl, fits, Kind.checkPattern_eq_ok.mpr ⟨rfl, source⟩⟩
  | integerText small range =>
    exact Kind.checkIntegerText_eq_ok.mpr ⟨_, Kind.safeInteger?_integerText small, rfl, range⟩

theorem steady (h : Holds c k v) : v.Steady := by
  cases h with
  | json present copy => exact Value.steady_of_jsonCopy? copy
  | multiselection =>
    refine .list fun w hw => ?_
    obtain ⟨s, -, rfl⟩ := List.mem_map.mp hw
    exact Value.steady_of_jsonCopy? (v := .text s) rfl
  | number range => exact ⟨rfl, fun _ => rfl, fun _ => rfl⟩
  | integer range => exact ⟨rfl, fun _ => rfl, fun _ => rfl⟩
  | _ => exact ⟨rfl, fun _ => rfl, fun _ => rfl⟩

theorem isNull_eq (h : Holds c k v) : v.isNull = false := by
  cases h with
  | json present copy => exact present
  | _ => rfl

theorem isUndefined_eq (h : Holds c k v) : v.isUndefined = false := by
  cases h with
  | json present copy => exact (Value.jsonCopy?_shape copy).2.1
  | _ => rfl

end Holds

/-- A kind that yields texts makes a text of a text. -/
theorem text_of_verdict {s : String} (yields : k.yieldsText = true)
    (h : k.verdict c (.text s) = .ok v) : ∃ t, v = .text t := by
  cases k with
  | string =>
    obtain ⟨s, -, -, rfl⟩ := verdict_string.mp h
    exact ⟨s, rfl⟩
  | identifier =>
    obtain ⟨s, -, -, h⟩ := textVerdict_map_eq_ok.mp h
    exact ⟨s, (Kind.checkIdentifier_eq_ok.mp h).1.symm⟩
  | pattern =>
    obtain ⟨s, -, -, h⟩ := textVerdict_map_eq_ok.mp h
    exact ⟨s, (Kind.checkPattern_eq_ok.mp h).1.symm⟩
  | selection =>
    change Kind.checkSelection c (.text s) = .ok v at h
    obtain ⟨t, -, rfl, -⟩ := Kind.checkSelection_eq_ok.mp h
    exact ⟨s, rfl⟩
  | integerText =>
    obtain ⟨n, -, rfl, -⟩ := Kind.checkIntegerText_eq_ok.mp h
    exact ⟨_, rfl⟩
  | json =>
    change Kind.checkJson (.text s) = .ok v at h
    exact ⟨s, (Value.jsonCopy?_shape (Kind.checkJson_eq_ok.mp h)).2.2.2 rfl⟩
  | _ => simp [yieldsText] at yields

/-- A kind that keeps primitives makes a primitive of a primitive. -/
theorem isPrimitive_of_verdict (keeps : k.keepsPrimitives = true)
    (h : k.verdict c raw = .ok v) (primitive : raw.isPrimitive = true) :
    v.isPrimitive = true := by
  cases k with
  | json => rwa [(Value.jsonCopy?_shape (Kind.checkJson_eq_ok.mp h)).2.2.1]
  | number => obtain ⟨q, -, rfl, -⟩ := Kind.checkNumber_eq_ok.mp h; exact primitive
  | integer => obtain ⟨m, -, rfl, -⟩ := Kind.checkInteger_eq_ok.mp h; exact primitive
  | boolean => obtain ⟨b, -, rfl⟩ := Kind.checkBoolean_eq_ok.mp h; exact primitive
  | selection => obtain ⟨s, -, rfl, -⟩ := Kind.checkSelection_eq_ok.mp h; exact primitive
  | integerText => obtain ⟨n, -, rfl, -⟩ := Kind.checkIntegerText_eq_ok.mp h; rfl
  | string => obtain ⟨s, -, -, rfl⟩ := verdict_string.mp h; rfl
  | identifier =>
    obtain ⟨s, -, -, h⟩ := textVerdict_map_eq_ok.mp h
    rw [← (Kind.checkIdentifier_eq_ok.mp h).1]
    rfl
  | pattern =>
    obtain ⟨s, -, -, h⟩ := textVerdict_map_eq_ok.mp h
    rw [← (Kind.checkPattern_eq_ok.mp h).1]
    rfl
  | _ => simp [keepsPrimitives] at keeps

/-- A primitive is stored only for a primitive. -/
theorem isPrimitive_of_stored (flat : k.isNested = false) (h : k.verdict c raw = .ok v)
    (primitive : v.isPrimitive = true) : raw.isPrimitive = true := by
  cases k with
  | node | choice | list | mapping | either => simp [isNested] at flat
  | json => rwa [← (Value.jsonCopy?_shape (Kind.checkJson_eq_ok.mp h)).2.2.1]
  | number => obtain ⟨q, -, rfl, -⟩ := Kind.checkNumber_eq_ok.mp h; exact primitive
  | integer => obtain ⟨m, -, rfl, -⟩ := Kind.checkInteger_eq_ok.mp h; exact primitive
  | boolean => obtain ⟨b, -, rfl⟩ := Kind.checkBoolean_eq_ok.mp h; exact primitive
  | selection => obtain ⟨s, -, rfl, -⟩ := Kind.checkSelection_eq_ok.mp h; exact primitive
  | multiselection =>
    obtain ⟨items, -, -, rfl⟩ := Kind.checkMultiselection_eq_ok.mp h
    cases primitive
  | integerText =>
    obtain ⟨n, spelled, -, -⟩ := Kind.checkIntegerText_eq_ok.mp h
    obtain ⟨-, s, rfl⟩ := Kind.safeInteger?_eq_some spelled
    rfl
  | string => obtain ⟨s, rfl, -⟩ := verdict_string.mp h; rfl
  | identifier => obtain ⟨s, rfl, -⟩ := textVerdict_map_eq_ok.mp h; rfl
  | pattern => obtain ⟨s, rfl, -⟩ := textVerdict_map_eq_ok.mp h; rfl

end BuiltinKind

end ShapedTree
