import Mathlib.Tactic.SplitIfs
import ShapedTree.Identifier
import ShapedTree.Pattern.Matcher
import ShapedTree.Proofs.Number.TextLength
import ShapedTree.Proofs.Text.ClosestMatch
import ShapedTree.Fault
import ShapedTree.Value.Json

namespace ShapedTree

namespace Text

/-- A text without line ends. -/
def OneLine (s : String) : Prop := ∀ c ∈ s.toList, c ≠ '\n' ∧ c ≠ '\r'

-- by the characters of the text, not by all characters there are
instance (s : String) : Decidable (OneLine s) := List.decidableBAll _ s.toList

@[simp] theorem oneLine_append {s t : String} : OneLine (s ++ t) ↔ OneLine s ∧ OneLine t := by
  simp only [OneLine, String.toList_append, List.forall_mem_append]

theorem oneLine_ofList {cs : List Char} :
    OneLine (String.ofList cs) ↔ ∀ c ∈ cs, c ≠ '\n' ∧ c ≠ '\r' := by
  rw [OneLine, String.toList_ofList]

theorem oneLine_of_visible {s : String} (h : ∀ c ∈ s.toList, 32 ≤ c.toNat) : OneLine s := by
  intro c hc
  have := h c hc
  constructor <;> rintro rfl <;> revert this <;> decide

theorem oneLine_intercalate {separator : String} {parts : List String}
    (hs : OneLine separator) (each : ∀ part ∈ parts, OneLine part) :
    OneLine (separator.intercalate parts) := by
  induction parts with
  | nil => exact nofun
  | cons part rest ih =>
    obtain ⟨first, others⟩ := List.forall_mem_cons.mp each
    cases rest with
    | nil => rwa [String.intercalate_singleton]
    | cons next rest =>
      rw [String.intercalate_cons_cons, oneLine_append, oneLine_append]
      exact ⟨⟨first, hs⟩, ih others⟩

theorem oneLine_integerText (n : Int) : OneLine (Decimal.integerText n) := by
  refine oneLine_of_visible fun c hc => ?_
  rw [Numeral.toList_integerText] at hc
  rcases List.mem_append.mp hc with hc | hc
  · split at hc
    · cases List.mem_singleton.mp hc; decide
    · cases hc
  · have : 48 ≤ c.toNat ∧ c.toNat ≤ 57 := Char.isDigit_iff_toNat.mp (Numeral.isDigit_digits hc)
    omega

theorem oneLine_count (n : Nat) : OneLine (toString n) := oneLine_integerText n

theorem oneLine_number (n : Number) : OneLine n.text :=
  oneLine_of_visible fun _ hc => (Number.mem_text hc).1.le

theorem hexDigit_visible : ∀ n < 16, 32 ≤ (hexDigit n).toNat := by decide

theorem oneLine_hexEscape {u : Nat} {c : Char} (h : c ∈ hexEscape u) : c ≠ '\n' ∧ c ≠ '\r' := by
  have digit : ∀ k, hexDigit (k % 16) ≠ '\n' ∧ hexDigit (k % 16) ≠ '\r' := fun k => by
    have := hexDigit_visible _ (Nat.mod_lt k (by decide))
    constructor <;> intro same <;> rw [same] at this <;> revert this <;> decide
  simp only [hexEscape, List.mem_cons, List.not_mem_nil, or_false] at h
  rcases h with rfl | rfl | rfl | rfl | rfl | rfl
  · decide
  · decide
  all_goals exact digit _

theorem oneLine_quoteChar {c d : Char} (h : d ∈ quoteChar c) : d ≠ '\n' ∧ d ≠ '\r' := by
  unfold quoteChar at h
  split_ifs at h with quote slash feed return_
  case neg =>
    cases List.mem_singleton.mp h
    exact ⟨feed, return_⟩
  all_goals first
    | exact oneLine_hexEscape h
    | revert d; simp

theorem oneLine_quote (s : String) : OneLine (quote s) := by
  rw [quote, oneLine_ofList]
  intro c hc
  simp only [List.cons_append, List.mem_cons, List.mem_append, List.mem_flatMap, List.not_mem_nil,
    or_false] at hc
  rcases hc with rfl | ⟨d, -, hc⟩ | rfl
  · decide
  · exact oneLine_quoteChar hc
  · decide

end Text

open Text

namespace Value

theorem oneLine_recordText {es : List (String × String)} (texts : ∀ e ∈ es, OneLine e.2) :
    OneLine (recordText es) := by
  have entries : ∀ part ∈ es.map entryText, OneLine part := by
    intro part hp
    obtain ⟨e, he, rfl⟩ := List.mem_map.mp hp
    rw [entryText, oneLine_append, oneLine_append]
    exact ⟨⟨oneLine_quote _, by decide⟩, texts e he⟩
  rw [recordText, oneLine_append, oneLine_append]
  exact ⟨⟨by decide, oneLine_intercalate (by decide) entries⟩, by decide⟩

theorem oneLine_listText {items : List String} (texts : ∀ text ∈ items, OneLine text) :
    OneLine (listText items) := by
  rw [listText, oneLine_append, oneLine_append]
  exact ⟨⟨by decide, oneLine_intercalate (by decide) texts⟩, by decide⟩

mutual

theorem oneLine_render : ∀ {v : Value} {text : String}, render v = .ok (some text) → OneLine text
  | .undefined, _, h => by cases h
  | .null, _, h => by cases h; decide
  | .bool b, _, h => by cases h; cases b <;> decide
  | .number n, _, h => by
    cases h
    split
    · exact oneLine_number n
    · decide
  | .text s, _, h => by cases h; exact oneLine_quote s
  | .bigint _, _, h => by cases h
  | .knot, _, h => by cases h
  | .exotic _, _, h => by cases h; exact oneLine_recordText nofun
  | .list items, _, h => by
    rw [render] at h
    cases made : renderItems items with
    | error e => rw [made] at h; cases h
    | ok texts => rw [made] at h; cases h; exact oneLine_listText (oneLine_renderItems made)
  | .record es _, _, h => by
    rw [render] at h
    cases made : renderEntries es with
    | error e => rw [made] at h; cases h
    | ok texts => rw [made] at h; cases h; exact oneLine_recordText (oneLine_renderEntries made)
  | .node ⟨_, values, _, _, _⟩, _, h => by
    rw [render] at h
    cases made : renderEntries values with
    | error e => rw [made] at h; cases h
    | ok texts => rw [made] at h; cases h; exact oneLine_recordText (oneLine_renderEntries made)

theorem oneLine_renderItems : ∀ {vs : List Value} {texts : List String},
    renderItems vs = .ok texts → ∀ text ∈ texts, OneLine text
  | [], _, h => by cases h; exact nofun
  | v :: vs, _, h => by
    rw [renderItems] at h
    cases first : render v with
    | error e => rw [first] at h; cases h
    | ok text =>
      cases others : renderItems vs with
      | error e => rw [first, others] at h; cases h
      | ok texts =>
        rw [first, others] at h
        cases h
        refine List.forall_mem_cons.mpr ⟨?_, oneLine_renderItems others⟩
        cases text with
        | none => exact (by decide : OneLine "null")
        | some text => exact oneLine_render first

theorem oneLine_renderEntries : ∀ {es : List (String × Value)} {texts : List (String × String)},
    renderEntries es = .ok texts → ∀ e ∈ texts, OneLine e.2
  | [], _, h => by cases h; exact nofun
  | (k, v) :: es, _, h => by
    rw [renderEntries] at h
    cases first : render v with
    | error e => rw [first] at h; cases h
    | ok text =>
      cases others : renderEntries es with
      | error e => rw [first, others] at h; cases h
      | ok texts =>
        rw [first, others] at h
        cases text with
        | none => cases h; exact oneLine_renderEntries others
        | some text =>
          cases h
          exact List.forall_mem_cons.mpr ⟨oneLine_render first, oneLine_renderEntries others⟩

end

theorem oneLine_json {v : Value} {text : String} (h : v.json = .ok text) : OneLine text := by
  unfold json json? at h
  cases made : render (serialize .none v) with
  | error e => rw [made] at h; cases h
  | ok shown =>
    rw [made] at h
    cases h
    cases shown with
    | none => exact (by decide : OneLine "undefined")
    | some text => exact oneLine_render made

end Value

namespace Pattern

theorem oneLine_shownSource (escaped inClass : Bool) (cs : List Char) :
    ∀ c ∈ shownSource escaped inClass cs, c ≠ '\n' ∧ c ≠ '\r' := by
  induction cs generalizing escaped inClass with
  | nil => simp [shownSource]
  | cons d cs ih =>
    cases escaped with
    | true =>
      rw [shownSource]
      refine List.forall_mem_append.mpr ⟨?_, ih false inClass⟩
      split_ifs with feed return_
      case neg => exact List.forall_mem_singleton.mpr ⟨feed, return_⟩
      all_goals simp
    | false =>
      rw [shownSource]
      refine List.forall_mem_append.mpr ⟨?_, ih _ _⟩
      split_ifs with slash feed return_
      case neg => exact List.forall_mem_singleton.mpr ⟨feed, return_⟩
      all_goals simp

theorem oneLine_letters (f : Flags) : OneLine f.letters := by
  rw [Flags.letters, oneLine_ofList]
  have letter : ∀ {b : Bool} {d c : Char}, d ≠ '\n' ∧ d ≠ '\r' → c ∈ (if b then [d] else []) →
      c ≠ '\n' ∧ c ≠ '\r' := by
    intro b d c fine h
    split at h
    · exact List.mem_singleton.mp h ▸ fine
    · cases h
  intro c hc
  simp only [List.mem_append] at hc
  rcases hc with (((((hc | hc) | hc) | hc) | hc) | hc) | hc
  all_goals exact letter (by decide) hc

theorem oneLine_text (p : Pattern) : OneLine p.text := by
  unfold text
  simp only [oneLine_append]
  refine ⟨⟨⟨by decide, ?_⟩, by decide⟩, oneLine_letters _⟩
  split
  · decide
  · exact oneLine_ofList.mpr (oneLine_shownSource _ _ _)

end Pattern

theorem Fault.oneLine_quoteList {names : List String} (each : ∀ name ∈ names, OneLine name) :
    OneLine (Fault.quoteList names) := by
  refine oneLine_intercalate (by decide) fun part hp => ?_
  obtain ⟨name, hname, rfl⟩ := List.mem_map.mp hp
  exact oneLine_append.mpr ⟨oneLine_append.mpr ⟨by decide, each name hname⟩, by decide⟩

theorem oneLine_didYouMean {value : String} {candidates : List String}
    (each : ∀ candidate ∈ candidates, OneLine candidate) :
    ∀ question ∈ didYouMean value candidates, OneLine question := by
  intro question h
  obtain ⟨found, close, rfl⟩ := Option.map_eq_some_iff.mp h
  exact oneLine_append.mpr ⟨oneLine_append.mpr ⟨by decide, each _ (mem_of_closestMatch close)⟩,
    by decide⟩

namespace Identifier

theorem oneLine_cleanChar {c d : Char} (h : d ∈ cleanChar c) : d ≠ '\n' ∧ d ≠ '\r' := by
  unfold cleanChar at h
  split at h
  next name =>
    cases List.mem_singleton.mp h
    constructor <;> rintro rfl <;> revert name <;> decide
  next =>
    cases List.eq_of_mem_replicate h
    decide

theorem oneLine_sanitize (s : String) : OneLine (sanitize s) := by
  have cleaned : ∀ d ∈ s.toList.flatMap cleanChar, d ≠ '\n' ∧ d ≠ '\r' := fun d hd => by
    obtain ⟨c, -, hd⟩ := List.mem_flatMap.mp hd
    exact oneLine_cleanChar hd
  rw [sanitize, oneLine_ofList, clean]
  generalize s.toList.flatMap cleanChar = row at cleaned
  cases row with
  | nil => simp
  | cons c cs =>
    simp only
    split
    · exact List.forall_mem_cons.mpr ⟨by decide, cleaned⟩
    · exact cleaned

end Identifier

end ShapedTree
