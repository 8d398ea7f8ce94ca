import ShapedTree.Proofs.Kind.Standard
import ShapedTree.Proofs.Run.Ensures

namespace ShapedTree

namespace Kind

/-- A text against its limits and its pattern, which starts at the beginning. -/
def textVerdict (c : Constraints) : Value → Except (List Finding) String
  | .text s =>
    match textLength c (Text.size s) with
    | some f => .error [f]
    | none =>
      match c.pattern with
      | none => .ok s
      | some p =>
        if (p.test 0 s).1 then .ok s
        else .error [.violation s!"the value does not match the pattern {p.text}" none]
  | raw => .error [.mismatch "the value must be a string" (textHint raw)]

/-- A kind finds something wrong, or what it makes of a value satisfies a law. -/
def Settles {α : Type} (law : α → Prop) (result : Except (List Finding) α) : Prop :=
  (∃ f fs, result = .error (f :: fs)) ∨ ∃ v, result = .ok v ∧ law v

namespace Settles

variable {α β : Type} {law : α → Prop}

theorem found (f : Finding) : Settles law (.error [f]) := .inl ⟨f, [], rfl⟩

theorem ok {v : α} (h : law v) : Settles law (.ok v) := .inr ⟨v, rfl, h⟩

theorem mono {weaker : α → Prop} {result : Except (List Finding) α} (h : Settles law result)
    (le : ∀ v, law v → weaker v) : Settles weaker result := by
  rcases h with found | ⟨v, rfl, hv⟩
  · exact .inl found
  · exact .ok (le v hv)

theorem bind {next : β → Prop} {result : Except (List Finding) α}
    {f : α → Except (List Finding) β} (h : Settles law result)
    (hf : ∀ v, law v → Settles next (f v)) : Settles next (result.bind f) := by
  rcases h with ⟨g, gs, rfl⟩ | ⟨v, rfl, hv⟩
  · exact .inl ⟨g, gs, rfl⟩
  · exact hf v hv

theorem map {result : Except (List Finding) α} {f : α → β} (h : Settles (fun _ => True) result) :
    Settles (fun _ => True) (result.map f) := by
  rcases h with ⟨g, gs, rfl⟩ | ⟨v, rfl, -⟩
  · exact .inl ⟨g, gs, rfl⟩
  · exact .ok trivial

end Settles

def InRange (c : Constraints) (n : Number) : Prop :=
  (∀ low, c.min = some low → n.lt low = false) ∧ ∀ high, c.max = some high → high.lt n = false

def InLength (c : Constraints) (length : Nat) : Prop :=
  (∀ low, c.minLength = some low → Number.lt length low = false) ∧
    ∀ high, c.maxLength = some high → high.lt length = false

/-- A text keeps to its limits and matches its pattern. -/
def TextFits (c : Constraints) (s : String) : Prop :=
  InLength c (Text.size s) ∧ ∀ p, c.pattern = some p → (p.test 0 s).1 = true

theorem nearestBound_eq_none_iff {c : Constraints} {n : Number} :
    nearestBound n c.min c.max = none ↔ InRange c n := by
  unfold nearestBound InRange
  cases c.min with
  | none => cases c.max <;> simp
  | some low => cases c.max <;> cases h : n.lt low <;> simp [h]

theorem textLength_eq_none_iff {c : Constraints} {length : Nat} :
    textLength c length = none ↔ InLength c length := by
  simp only [textLength, InLength, Option.or_eq_none_iff, Option.bind_eq_none_iff,
    ite_eq_right_iff, reduceCtorEq, imp_false, Bool.not_eq_true]

theorem listLength_eq_none_iff {c : Constraints} {length : Nat} :
    listLength c length = none ↔ InLength c length := by
  simp only [listLength, InLength, Option.or_eq_none_iff, Option.bind_eq_none_iff,
    ite_eq_right_iff, reduceCtorEq, imp_false, Bool.not_eq_true]

theorem textVerdict_eq_ok {c : Constraints} {raw : Value} {s : String} :
    textVerdict c raw = .ok s ↔ raw = .text s ∧ TextFits c s := by
  constructor
  · intro h
    unfold textVerdict at h
    split at h
    next t =>
      split at h
      next => cases h
      next fits =>
        split at h
        next none =>
          cases h
          exact ⟨rfl, textLength_eq_none_iff.mp fits, by simp [none]⟩
        next p some =>
          split at h
          next found =>
            cases h
            exact ⟨rfl, textLength_eq_none_iff.mp fits, by simpa [some] using found⟩
          next => cases h
    next => cases h
  · rintro ⟨rfl, fits, found⟩
    simp only [textVerdict, textLength_eq_none_iff.mpr fits]
    split
    next => rfl
    next p some => simp [found p some]

theorem textVerdict_settles (c : Constraints) (raw : Value) :
    Settles (fun _ => True) (textVerdict c raw) := by
  unfold textVerdict
  split
  · split
    · exact .found _
    · split
      · exact .ok trivial
      · split
        · exact .ok trivial
        · exact .found _
  · exact .found _

theorem checkRange_settles (c : Constraints) (n : Number) (held : Value) :
    Settles (fun _ => True) (checkRange c n held) := by
  unfold checkRange
  split
  · exact .ok trivial
  · exact .found _

theorem checkMultiselection_settles (c : Constraints) (raw : Value) :
    Settles (fun _ => True) (checkMultiselection c raw) := by
  unfold checkMultiselection
  simp only
  split
  · exact .found _
  · split
    · exact .found _
    · exact .ok trivial

theorem checkNumber_settles (c : Constraints) (raw : Value) :
    Settles (fun _ => True) (checkNumber c raw) := by
  unfold checkNumber
  split
  · split
    · exact checkRange_settles c _ _
    · exact .found _
  · exact .found _

theorem checkInteger_settles (c : Constraints) (raw : Value) :
    Settles (fun _ => True) (checkInteger c raw) := by
  unfold checkInteger
  split
  · split
    · exact checkRange_settles c _ _
    · exact .found _
  · exact .found _

theorem checkBoolean_settles (raw : Value) : Settles (fun _ => True) (checkBoolean raw) := by
  unfold checkBoolean
  split
  · exact .ok trivial
  · exact .found _
  · exact .found _

theorem checkSelection_settles (c : Constraints) (raw : Value) :
    Settles (fun _ => True) (checkSelection c raw) := by
  unfold checkSelection
  split
  · split
    · exact .ok trivial
    · exact .found _
  · exact .found _

theorem checkJson_settles (raw : Value) : Settles (fun _ => True) (checkJson raw) := by
  unfold checkJson
  split
  · exact .ok trivial
  · exact .found _

theorem checkIntegerText_settles (c : Constraints) (raw : Value) :
    Settles (fun _ => True) (checkIntegerText c raw) := by
  unfold checkIntegerText
  split
  · exact checkRange_settles c _ _
  · exact .found _

theorem checkIdentifier_settles (s : String) : Settles (fun _ => True) (checkIdentifier s) := by
  unfold checkIdentifier
  split
  · exact .ok trivial
  · exact .found _

theorem checkPattern_settles (s : String) : Settles (fun _ => True) (checkPattern s) := by
  unfold checkPattern
  split
  · exact .ok trivial
  · exact .found _

theorem checkText_eq {c : Constraints} (fixed : ∀ p, c.pattern = some p → p.remembers = false)
    (raw : Value) : checkText Run.test c raw = pure (textVerdict c raw) := by
  unfold checkText textVerdict
  cases raw with
  | text s =>
    simp only
    cases textLength c (Text.size s) with
    | some f => rfl
    | none =>
      cases pattern : c.pattern with
      | none => rfl
      | some p =>
        simp only [Run.test_eq (fixed p pattern), pure_bind]
        split <;> rfl
  | _ => rfl

end Kind

namespace BuiltinKind

/-- What a kind without parts makes of a value. -/
def verdict (k : BuiltinKind) (c : Constraints) (raw : Value) : KindResult :=
  match k with
  | .number => Kind.checkNumber c raw
  | .integer => Kind.checkInteger c raw
  | .boolean => Kind.checkBoolean raw
  | .selection => Kind.checkSelection c raw
  | .multiselection => Kind.checkMultiselection c raw
  | .json => Kind.checkJson raw
  | .integerText => Kind.checkIntegerText c raw
  | .string => (Kind.textVerdict c raw).map .text
  | .identifier => (Kind.textVerdict c raw).bind Kind.checkIdentifier
  | .pattern => (Kind.textVerdict c raw).bind Kind.checkPattern
  | .node | .choice | .list | .mapping | .either => Kind.reported

theorem check_eq_verdict {k : BuiltinKind} (flat : k.isNested = false) {info : FieldInfo}
    (fixed : ∀ p, info.constraints.pattern = some p → p.remembers = false)
    {ctx : KindContext Run} (tests : ctx.test = Run.test) (parts : PartChecks Run) (raw : Value) :
    k.check ctx parts info raw = pure (k.verdict info.constraints raw) := by
  cases k with
  | string | identifier | pattern =>
    simp only [check, verdict, tests, Kind.checkText_eq fixed, pure_bind]
  | node | choice | list | mapping | either => simp [isNested] at flat
  | _ => rfl

/-- A kind without parts never fails without a finding. -/
theorem verdict_settles {k : BuiltinKind} (flat : k.isNested = false) (c : Constraints)
    (raw : Value) : Kind.Settles (fun v => k.verdict c raw = .ok v) (k.verdict c raw) := by
  suffices Kind.Settles (fun _ => True) (k.verdict c raw) by
    rcases this with found | ⟨v, hv, -⟩
    · exact .inl found
    · exact .inr ⟨v, hv, hv⟩
  have texts := Kind.textVerdict_settles c raw
  cases k with
  | node | choice | list | mapping | either => simp [isNested] at flat
  | number => exact Kind.checkNumber_settles c raw
  | integer => exact Kind.checkInteger_settles c raw
  | boolean => exact Kind.checkBoolean_settles raw
  | selection => exact Kind.checkSelection_settles c raw
  | multiselection => exact Kind.checkMultiselection_settles c raw
  | json => exact Kind.checkJson_settles raw
  | integerText => exact Kind.checkIntegerText_settles c raw
  | string => exact texts.map
  | identifier => exact texts.bind fun s _ => Kind.checkIdentifier_settles s
  | pattern => exact texts.bind fun s _ => Kind.checkPattern_settles s

end BuiltinKind

end ShapedTree
