import ShapedTree.Pattern.Reader
import ShapedTree.Text.Blank
import ShapedTree.Text.LetterCase

namespace ShapedTree

namespace Pattern

/-- A text as codes with the switches that matching reads. -/
structure Subject where
  codes : Array Nat
  flags : Flags

/-- A position and what the capturing groups hold there: start and end. -/
structure Spot where
  position : Nat
  groups : List (Option (Nat × Nat))

namespace Subject

/-- The form of a code in which letters of either case agree. -/
def folded (s : Subject) (n : Nat) : Nat :=
  if s.flags.ignoreCase then (if s.flags.unicode then LetterCase.fold n else LetterCase.upper n)
  else n

/-- The codes that agree with a code. -/
def alike (s : Subject) (n : Nat) : List Nat :=
  if s.flags.ignoreCase then
    let target := s.folded n
    let rows := if s.flags.unicode then LetterCase.foldRows else LetterCase.upperRows
    n :: target :: LetterCase.preimages rows target
  else [n]

def isLineEnd (n : Nat) : Bool := n == 10 || n == 13 || n == 0x2028 || n == 0x2029

/-- A letter, digit or underscore, or a code that agrees with one under unicode folding. -/
def isWordCode (s : Subject) (n : Nat) : Bool :=
  isLetterCode n || isDigitCode n || n == 95 ||
    (s.flags.ignoreCase && s.flags.unicode && (n == 0x17F || n == 0x212A))

/-- A code belongs to an entry of a class. -/
def belongs (s : Subject) (n : Nat) : ClassItem → Bool
  | .range low high => low ≤ n && n ≤ high
  | .digit negated => isDigitCode n != negated
  | .blank negated => Text.blankCode n != negated
  | .word negated => s.isWordCode n != negated
  | .property property negated => property.holds n != negated

/-- A class accepts a code if one that agrees with it belongs to an entry. -/
def accepts (s : Subject) (negated : Bool) (items : List ClassItem) (n : Nat) : Bool :=
  ((s.alike n).any fun c => items.any (s.belongs c)) != negated

/-- A word edge lies between a word code and anything else. -/
def isWordEdge (s : Subject) (p : Nat) : Bool :=
  let isWordAt (i : Nat) : Bool := ((s.codes[i]?).map s.isWordCode).getD false
  (p != 0 && isWordAt (p - 1)) != isWordAt p

/-- The position behind one code that passes the test. -/
def step (s : Subject) (back : Bool) (test : Nat → Bool) (spot : Spot) : Option Spot :=
  if back then
    if spot.position = 0 then none
    else
      match s.codes[spot.position - 1]? with
      | some c => if test c then some { spot with position := spot.position - 1 } else none
      | none => none
  else
    match s.codes[spot.position]? with
    | some c => if test c then some { spot with position := spot.position + 1 } else none
    | none => none

/-- The position behind another occurrence of what lies between two positions. -/
def stepSame (s : Subject) (back : Bool) (first last : Nat) (spot : Spot) : Option Spot :=
  let size := last - first
  let start := if back then spot.position - size else spot.position
  if (if back then decide (size ≤ spot.position) else decide (spot.position + size ≤ s.codes.size))
      && (List.range size).all fun i =>
        (s.codes[first + i]?).map s.folded == (s.codes[start + i]?).map s.folded then
    some { spot with position := if back then start else start + size }
  else none

end Subject

/-- Groups with the given ones empty again. -/
def forget (first count : Nat) (groups : List (Option (Nat × Nat))) : List (Option (Nat × Nat)) :=
  groups.mapIdx fun i g => if first ≤ i + 1 ∧ i + 1 < first + count then none else g

/-- Rounds of a repetition. Once enough rounds are done, a round that does not move fails. -/
def rounds (body : Spot → (Spot → Option Spot) → Option Spot) (greedy : Bool)
    (first count : Nat) (next : Spot → Option Spot) :
    Nat → Nat → Option Nat → Spot → Option Spot
  | 0, _, _, spot => next spot
  | fuel + 1, least, most, spot =>
    if most = some 0 then next spot
    else
      let again := fun (spot' : Spot) =>
        if least = 0 ∧ spot'.position = spot.position then none
        else rounds body greedy first count next fuel (least - 1) (most.map (· - 1)) spot'
      -- Every round forgets what the groups inside it held before.
      let fresh := { spot with groups := forget first count spot.groups }
      if least ≠ 0 then body fresh again
      else if greedy then
        match body fresh again with
        | some found => some found
        | none => next spot
      else
        match next spot with
        | some found => some found
        | none => body fresh again

namespace Term

/-- Match a term and then the continuation. -/
def run (s : Subject) : Term → (back : Bool) → Spot → (Spot → Option Spot) → Option Spot
  | .empty, _, spot, next => next spot
  | .code value, back, spot, next =>
    (s.step back (fun c => s.folded c == s.folded value) spot).bind next
  | .anyCode, back, spot, next =>
    (s.step back (fun c => s.flags.dotAll || !Subject.isLineEnd c) spot).bind next
  | .oneOf negated items, back, spot, next => (s.step back (s.accepts negated items) spot).bind next
  | .lineStart, _, spot, next =>
    if spot.position = 0 ∨ (s.flags.multiline ∧
        (s.codes[spot.position - 1]?).map Subject.isLineEnd = some true) then next spot
    else none
  | .lineEnd, _, spot, next =>
    if spot.position = s.codes.size ∨ (s.flags.multiline ∧
        (s.codes[spot.position]?).map Subject.isLineEnd = some true) then next spot
    else none
  | .wordEdge negated, _, spot, next =>
    if s.isWordEdge spot.position = negated then none else next spot
  | .group number body, back, spot, next =>
    run s body back spot fun spot' =>
      let held := if back then (spot'.position, spot.position) else (spot.position, spot'.position)
      next { spot' with groups := spot'.groups.set (number - 1) (some held) }
  | .sameAs number, back, spot, next =>
    match (spot.groups[number - 1]?).join with
    -- A group that holds nothing yet matches the empty text.
    | none => next spot
    | some (first, last) => (s.stepSame back first last spot).bind next
  | .sameAsNamed _, _, _, _ => none
  | .look ahead negated body, _, spot, next =>
    match run s body (!ahead) spot some with
    | some found => if negated then none else next { spot with groups := found.groups }
    | none => if negated then next spot else none
  | .repeated body least most greedy first count, back, spot, next =>
    rounds (run s body back) greedy first count next (least + s.codes.size + 2) least most spot
  | .andThen a b, back, spot, next =>
    if back then run s b back spot fun spot' => run s a back spot' next
    else run s a back spot fun spot' => run s b back spot' next
  | .orElse a b, back, spot, next =>
    match run s a back spot next with
    | some found => some found
    | none => run s b back spot next

end Term

/-- The end of the first match at or behind a position, within the given number of tries. -/
def firstMatch (s : Subject) (term : Term) (groups : Nat) : Nat → Nat → Option Nat
  | 0, _ => none
  | tries + 1, start =>
    if s.codes.size < start then none
    else
      match term.run s false ⟨start, List.replicate groups none⟩ some with
      | some spot => some spot.position
      | none => firstMatch s term groups tries (start + 1)

end Pattern

/-- A pattern that a text field may ask for. A global or sticky one goes on where its last match
ended, and the cell names the place of memory that holds this position. -/
structure Pattern where
  source : String
  flags : Pattern.Flags
  term : Pattern.Term
  groups : Nat
  cell : Nat

namespace Pattern

/-- The pattern of a text and flag letters, if they make one. -/
def ofSource? (source letters : String) (cell : Nat) : Option Pattern := do
  let flags ← Flags.ofLetters? letters
  let (term, groups) ← termOf? flags.unicode source
  return { source, flags, term, groups, cell }

/-- A text is a pattern by itself, without flags. -/
def isSource (source : String) : Bool := (termOf? false source).isSome

/-- The pattern goes on where its last match ended. -/
def remembers (p : Pattern) : Bool := p.flags.global || p.flags.sticky

/-- The position among code points of a position among units, a position within a pair going back
to its start. -/
def pointPosition : List Nat → Nat → Nat
  | _, 0 => 0
  | [], n => n
  | c :: cs, n + 1 =>
    if c < 0x10000 then pointPosition cs n + 1
    else
      match n with
      | 0 => 0
      | n + 1 => pointPosition cs n + 1

/-- The position among units of a position among code points. -/
def unitPosition (codes : List Nat) (n : Nat) : Nat :=
  (codes.take n).foldl (fun units c => if c < 0x10000 then units + 1 else units + 2) 0

/-- Whether a text matches from a remembered position on, and the position to remember. -/
def test (p : Pattern) (last : Nat) (text : String) : Bool × Nat :=
  let codes := codesOf p.flags.unicode text
  let s : Subject := ⟨codes.toArray, p.flags⟩
  if p.remembers then
    if Text.size text < last then (false, 0)
    else
      let start := if p.flags.unicode then pointPosition codes last else last
      match firstMatch s p.term p.groups (if p.flags.sticky then 1 else codes.length + 1) start with
      | some found => (true, if p.flags.unicode then unitPosition codes found else found)
      | none => (false, 0)
  else ((firstMatch s p.term p.groups (codes.length + 1) 0).isSome, last)

/-- The source between slashes: a slash outside classes and line ends are escaped. -/
def shownSource : (escaped inClass : Bool) → List Char → List Char
  | _, _, [] => []
  | true, inClass, c :: cs =>
    (if c = '\n' then ['n'] else if c = '\r' then ['r']
      else if c = '\u2028' then "u2028".toList else if c = '\u2029' then "u2029".toList
      else [c]) ++ shownSource false inClass cs
  | false, inClass, c :: cs =>
    let inClass' := if inClass then c != ']' else c == '['
    (if c = '/' ∧ ¬ inClass then ['\\', '/']
      else if c = '\n' then ['\\', 'n'] else if c = '\r' then ['\\', 'r']
      else if c = '\u2028' then "\\u2028".toList else if c = '\u2029' then "\\u2029".toList
      else [c]) ++ shownSource (c == '\\') inClass' cs

/-- The pattern as text: its source between slashes, then the letters of its flags. -/
def text (p : Pattern) : String :=
  let source := if p.source = "" then "(?:)" else String.ofList (shownSource false false p.source.toList)
  "/" ++ source ++ "/" ++ p.flags.letters

end Pattern

end ShapedTree
