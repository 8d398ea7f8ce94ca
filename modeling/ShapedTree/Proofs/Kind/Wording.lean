import ShapedTree.Proofs.Kind.Inquiry
import ShapedTree.Proofs.Kind.Standard
import ShapedTree.Proofs.Text.IssueLines

namespace ShapedTree

open Text

namespace Kind

/-- Whatever is found can be read. -/
def Reads {α : Type} (result : Except (List Finding) α) : Prop :=
  ∀ fs, result = .error fs → ∀ f ∈ fs, f.Readable

namespace Reads

variable {α β : Type} {message : String} {suggestion : Option String}

theorem ok {a : α} : Reads (.ok a : Except (List Finding) α) := nofun

theorem found {f : Finding} (h : f.Readable) : Reads (.error [f] : Except (List Finding) α) := by
  rintro fs ⟨⟩ g hg
  rwa [List.mem_singleton.mp hg]

theorem mismatch (hm : OneLine message) (hs : ∀ s ∈ suggestion, OneLine s) :
    Reads (Kind.mismatch message suggestion) := found fun _ => ⟨hm, hs⟩

theorem violation (hm : OneLine message) (hs : ∀ s ∈ suggestion, OneLine s) :
    Reads (Kind.violation message suggestion) := found fun _ => ⟨hm, hs⟩

theorem reported : Reads Kind.reported := by
  rintro fs ⟨⟩ f hf
  cases hf

theorem map {result : Except (List Finding) α} {f : α → β} (h : Reads result) :
    Reads (result.map f) := by
  cases result with
  | error fs =>
    rintro gs ⟨⟩
    exact h fs rfl
  | ok a => exact ok

theorem bind {result : Except (List Finding) α} {f : α → Except (List Finding) β}
    (h : Reads result) (hf : ∀ a, Reads (f a)) : Reads (result.bind f) := by
  cases result with
  | error fs =>
    rintro gs ⟨⟩
    exact h fs rfl
  | ok a => exact hf a

end Reads

theorem ofNode_reads (answer : Option Node) : Reads (ofNode answer) := by
  cases answer with
  | none => exact .reported
  | some n => exact .ok

theorem ofItems_reads (answer : Option (List Value)) : Reads (ofItems answer) := by
  cases answer with
  | none => exact .reported
  | some vs => exact .ok

theorem ofForm_reads (answer : Option Value) : Reads (ofForm answer) := by
  cases answer with
  | none => exact .reported
  | some v => exact .ok

theorem oneLine_objections : ∀ message ∈ objections, OneLine message := by decide

/-- A kind that wants something else may hint at the number that a text spells. -/
theorem reads_of_numeralHint {message : String} (hm : OneLine message) (raw : Value) :
    Reads (mismatch message (numeralHint raw)) := by
  cases hint : numeralHint raw with
  | none => exact .mismatch hm oneLine_none
  | some advice =>
    unfold numeralHint at hint
    split at hint
    next s =>
      split at hint
      · cases hint
      · split at hint
        next n _ =>
          split at hint
          · cases hint
            refine .found fun pasted => ⟨hm, oneLine_some ?_⟩
            have verbatim : OneLine s := pasted s .numeral
            exact oneLine_around (oneLine_around (by decide) (oneLine_number n) (by decide)) verbatim
              (by decide)
          · cases hint
        · cases hint
    next => cases hint

theorem checkRange_reads (c : Constraints) (n : Number) (held : Value) :
    Reads (checkRange c n held) := by
  unfold checkRange
  split
  · exact .ok
  · next bound _ =>
    have side : OneLine (if n.lt bound then "below the minimum" else "above the maximum") := by
      split <;> decide
    refine .violation ?_ (oneLine_some ?_)
    · simp only [oneLine_append]
      exact ⟨⟨⟨⟨⟨by decide, oneLine_number n⟩, by decide⟩, side⟩, by decide⟩, oneLine_number bound⟩
    · exact oneLine_around (by decide) (oneLine_number bound) (by decide)

theorem checkNumber_reads (c : Constraints) (raw : Value) : Reads (checkNumber c raw) := by
  unfold checkNumber
  split
  · split
    · exact checkRange_reads c _ _
    · exact .mismatch (by decide) oneLine_none
  · exact reads_of_numeralHint (by decide) _

theorem checkInteger_reads (c : Constraints) (raw : Value) : Reads (checkInteger c raw) := by
  unfold checkInteger
  split
  · split
    · exact checkRange_reads c _ _
    · refine .mismatch (by decide) ?_
      split
      · exact oneLine_some (oneLine_around (by decide) (oneLine_number _) (by decide))
      · exact oneLine_none
  · exact reads_of_numeralHint (by decide) _

theorem checkBoolean_reads (raw : Value) : Reads (checkBoolean raw) := by
  unfold checkBoolean
  split
  · exact .ok
  next s =>
    refine .mismatch (by decide) ?_
    split
    next spelled =>
      have verbatim : OneLine s := by
        rcases spelled with rfl | rfl <;> decide
      exact oneLine_some (oneLine_around (oneLine_around (by decide) verbatim (by decide)) verbatim
        (by decide))
    next => exact oneLine_none
  · exact .mismatch (by decide) oneLine_none

theorem checkSelection_reads {c : Constraints} (options : ∀ o ∈ optionsOf c, OneLine o)
    (raw : Value) : Reads (checkSelection c raw) := by
  unfold checkSelection
  split
  next s =>
    split
    · exact .ok
    · refine .found fun pasted => ⟨?_, oneLine_didYouMean options⟩
      have verbatim : OneLine s := pasted s .option
      exact oneLine_append.mpr ⟨oneLine_around (by decide) verbatim (by decide),
        Fault.oneLine_quoteList options⟩
  next => exact .mismatch (by decide) oneLine_none

theorem oneLine_badItem {options : List String} (each : ∀ o ∈ options, OneLine o)
    {items : List Value} {suggestion : Option String}
    (bad : badItem? options items = some suggestion) : ∀ s ∈ suggestion, OneLine s := by
  induction items with
  | nil => cases bad
  | cons item rest ih =>
    cases item with
    | text s =>
      rw [badItem?] at bad
      split at bad
      · exact ih bad
      · cases bad
        exact oneLine_didYouMean each
    | _ =>
      cases bad
      exact oneLine_none

theorem checkMultiselection_reads {c : Constraints} (options : ∀ o ∈ optionsOf c, OneLine o)
    (raw : Value) : Reads (checkMultiselection c raw) := by
  have message : OneLine ("the value must be null, one of the following values or a list of them: "
      ++ Fault.quoteList (optionsOf c)) :=
    oneLine_append.mpr ⟨by decide, Fault.oneLine_quoteList options⟩
  unfold checkMultiselection
  simp only
  split
  · exact .mismatch message oneLine_none
  · split
    next bad => exact .violation message (oneLine_badItem options bad)
    next => exact .ok

theorem checkJson_reads (raw : Value) : Reads (checkJson raw) := by
  unfold checkJson
  split
  · exact .ok
  · exact .mismatch (by decide) oneLine_none

theorem checkIntegerText_reads (c : Constraints) (raw : Value) :
    Reads (checkIntegerText c raw) := by
  unfold checkIntegerText
  split
  · exact checkRange_reads c _ _
  · refine .mismatch (by decide) ?_
    split
    · split
      · exact oneLine_some (oneLine_around (by decide) (oneLine_number _) (by decide))
      · exact oneLine_none
    · exact oneLine_none

theorem oneLine_counted (n : Number) {unit : String} (h : OneLine unit) :
    OneLine (counted n unit) := by
  have plural : OneLine (if n.same 1 then "" else "s") := by split <;> decide
  exact oneLine_append.mpr ⟨oneLine_around (oneLine_number n) (by decide) h, plural⟩

theorem oneLine_characters (n : Number) : OneLine (characters n) := oneLine_counted n (by decide)

theorem oneLine_elements (n : Number) : OneLine (elements n) := oneLine_counted n (by decide)

theorem readable_of_textLength {c : Constraints} {length : Nat} {f : Finding}
    (h : textLength c length = some f) : f.Readable := by
  simp only [textLength, Option.or_eq_some_iff, Option.bind_eq_some_iff,
    Option.ite_none_right_eq_some, Option.some.injEq] at h
  have joined : ∀ {before between : String} {limit excess : Number}, OneLine before →
      OneLine between → OneLine (before ++ characters limit ++ between ++ characters excess) :=
    fun before between => oneLine_append.mpr
      ⟨oneLine_around before (oneLine_characters _) between, oneLine_characters _⟩
  rcases h with ⟨_, _, _, rfl⟩ | ⟨_, _, _, _, rfl⟩
  all_goals exact fun _ => ⟨joined (by decide) (by decide),
    oneLine_some (oneLine_around (by decide) (oneLine_characters _) (by decide))⟩

theorem readable_of_listLength {c : Constraints} {length : Nat} {f : Finding}
    (h : listLength c length = some f) : f.Readable := by
  simp only [listLength, Option.or_eq_some_iff, Option.bind_eq_some_iff,
    Option.ite_none_right_eq_some, Option.some.injEq] at h
  rcases h with ⟨_, _, _, rfl⟩ | ⟨_, _, _, _, rfl⟩
  all_goals exact fun _ => ⟨oneLine_append.mpr ⟨by decide, oneLine_elements _⟩,
    oneLine_some (oneLine_around (by decide) (oneLine_elements _) (by decide))⟩

theorem oneLine_textHint (raw : Value) : ∀ s ∈ textHint raw, OneLine s := by
  unfold textHint
  split
  · exact oneLine_some (oneLine_around (by decide) (oneLine_number _) (by decide))
  · exact oneLine_some (by decide)
  · exact oneLine_some (by decide)
  · exact oneLine_none

theorem checkIdentifier_reads (s : String) : Reads (checkIdentifier s) := by
  unfold checkIdentifier
  split
  · exact .ok
  · refine .violation (by decide) (oneLine_some ?_)
    exact oneLine_around (by decide) (Identifier.oneLine_sanitize s) (by decide)

theorem checkPattern_reads (s : String) : Reads (checkPattern s) := by
  unfold checkPattern
  split
  · exact .ok
  · exact .violation (by decide) oneLine_none

end Kind

end ShapedTree
