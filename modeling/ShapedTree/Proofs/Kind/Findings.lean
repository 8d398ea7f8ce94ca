import ShapedTree.Kind.Catalog

namespace ShapedTree

namespace Kind

/-- Findings about a value: it is of the wrong type or breaks a constraint. -/
def Judges {α : Type} (result : Except (List Finding) α) : Prop :=
  ∀ fs, result = .error fs → ∀ f ∈ fs, f.kind = .typeMismatch ∨ f.kind = .constraintViolation

namespace Judges

variable {α β : Type}

theorem ok {a : α} : Judges (.ok a : Except (List Finding) α) := nofun

theorem found {f : Finding} (h : f.kind = .typeMismatch ∨ f.kind = .constraintViolation) :
    Judges (.error [f] : Except (List Finding) α) := by
  rintro fs ⟨⟩ g hg
  rwa [List.mem_singleton.mp hg]

theorem mismatch (message : String) (suggestion : Option String) :
    Judges (Kind.mismatch message suggestion) := found (.inl rfl)

theorem violation (message : String) (suggestion : Option String) :
    Judges (Kind.violation message suggestion) := found (.inr rfl)

theorem reported : Judges Kind.reported := by
  rintro fs ⟨⟩ f hf
  cases hf

theorem bind {result : Except (List Finding) α} {f : α → Except (List Finding) β}
    (h : Judges result) (hf : ∀ a, Judges (f a)) : Judges (result.bind f) := by
  cases result with
  | error fs =>
    rintro gs ⟨⟩
    exact h fs rfl
  | ok a => exact hf a

end Judges

theorem judges_of_textLength {c : Constraints} {length : Nat} {f : Finding}
    (h : textLength c length = some f) :
    f.kind = .typeMismatch ∨ f.kind = .constraintViolation := by
  simp only [textLength, Option.or_eq_some_iff, Option.bind_eq_some_iff,
    Option.ite_none_right_eq_some, Option.some.injEq] at h
  rcases h with ⟨_, _, _, rfl⟩ | ⟨_, _, _, _, rfl⟩ <;> exact .inr rfl

theorem judges_of_listLength {c : Constraints} {length : Nat} {f : Finding}
    (h : listLength c length = some f) :
    f.kind = .typeMismatch ∨ f.kind = .constraintViolation := by
  simp only [listLength, Option.or_eq_some_iff, Option.bind_eq_some_iff,
    Option.ite_none_right_eq_some, Option.some.injEq] at h
  rcases h with ⟨_, _, _, rfl⟩ | ⟨_, _, _, _, rfl⟩ <;> exact .inr rfl

theorem checkRange_judges (c : Constraints) (n : Number) (held : Value) :
    Judges (checkRange c n held) := by
  unfold checkRange
  split
  · exact .ok
  · exact .violation _ _

theorem checkNumber_judges (c : Constraints) (raw : Value) : Judges (checkNumber c raw) := by
  unfold checkNumber
  split
  · split
    · exact checkRange_judges c _ _
    · exact .mismatch _ _
  · exact .mismatch _ _

theorem checkInteger_judges (c : Constraints) (raw : Value) : Judges (checkInteger c raw) := by
  unfold checkInteger
  split
  · split
    · exact checkRange_judges c _ _
    · exact .mismatch _ _
  · exact .mismatch _ _

theorem checkBoolean_judges (raw : Value) : Judges (checkBoolean raw) := by
  unfold checkBoolean
  split
  · exact .ok
  · exact .mismatch _ _
  · exact .mismatch _ _

theorem checkSelection_judges (c : Constraints) (raw : Value) : Judges (checkSelection c raw) := by
  unfold checkSelection
  split
  · split
    · exact .ok
    · exact .violation _ _
  · exact .mismatch _ _

theorem checkMultiselection_judges (c : Constraints) (raw : Value) :
    Judges (checkMultiselection c raw) := by
  unfold checkMultiselection
  simp only
  split
  · exact .mismatch _ _
  · split
    · exact .violation _ _
    · exact .ok

theorem checkJson_judges (raw : Value) : Judges (checkJson raw) := by
  unfold checkJson
  split
  · exact .ok
  · exact .mismatch _ _

theorem checkIntegerText_judges (c : Constraints) (raw : Value) :
    Judges (checkIntegerText c raw) := by
  unfold checkIntegerText
  split
  · exact checkRange_judges c _ _
  · exact .mismatch _ _

theorem checkIdentifier_judges (s : String) : Judges (checkIdentifier s) := by
  unfold checkIdentifier
  split
  · exact .ok
  · exact .violation _ _

theorem checkPattern_judges (s : String) : Judges (checkPattern s) := by
  unfold checkPattern
  split
  · exact .ok
  · exact .violation _ _

end Kind

end ShapedTree
