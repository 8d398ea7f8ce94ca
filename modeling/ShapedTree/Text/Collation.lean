import ShapedTree.Text.Collation.Weights
import ShapedTree.Text.Decomposition
import ShapedTree.Text.Units

namespace ShapedTree

namespace Collation

/-- Rows of a count of code points, these, a count of elements, and their weights. -/
def sequencesOf : List Int → List (List Nat × List Element)
  | count :: rest =>
    match h : rest.drop count.toNat with
    | size :: weights =>
      ((rest.take count.toNat).map Int.toNat, elementsOf (weights.take (3 * size.toNat))) ::
        sequencesOf (weights.drop (3 * size.toNat))
    | [] => []
  | [] => []
termination_by row => row.length
decreasing_by
  have := congrArg List.length h
  simp at this ⊢
  omega

/-- Sequences of two or three code points that count as one. -/
def sequences : List (List Nat × List Element) := sequencesOf (Table.numbers
  ["2 76 183 2 7976 32 8 0 280 2 2 108 183 2 7976 32 2 0 280 2 2 1048 774 1 8498 32 8 2 1080 774 1",
   "8498 32 2 2 1575 1619 1 8901 32 2 2 1575 1620 1 8902 32 2 2 1575 1621 1 8906 32 2 2 1608 1620",
   "1 8905 32 2 2 1610 1620 1 8910 32 2 2 2503 2494 1 10007 32 2 2 2503 2519 1 10008 32 2 2 2887",
   "2878 1 10200 32 2 2 2887 2902 1 10199 32 2 2 2887 2903 1 10201 32 2 2 2962 3031 1 10217 32 2 2",
   "3014 3006 1 10250 32 2 2 3014 3031 1 10252 32 2 2 3015 3006 1 10251 32 2 2 3142 3158 1 10323",
   "32 2 2 3263 3285 1 10389 32 2 2 3270 3266 1 10399 32 2 3 3270 3266 3285 1 10400 32 2 2 3270",
   "3285 1 10397 32 2 2 3270 3286 1 10398 32 2 2 3398 3390 1 10475 32 2 2 3398 3415 1 10477 32 2 2",
   "3399 3390 1 10476 32 2 2 3545 3530 1 10551 32 2 2 3545 3535 1 10553 32 2 3 3545 3535 3530 1",
   "10554 32 2 2 3545 3551 1 10555 32 2 2 3661 3634 1 12026 32 2 2 3789 3762 1 12087 32 2 2 3953",
   "3954 1 12252 32 2 2 3953 3956 1 12256 32 2 2 3953 3968 1 12254 32 2 3 4018 3953 3968 1 12258",
   "32 2 2 4018 3968 1 12257 32 2 3 4019 3953 3968 1 12260 32 2 2 4019 3968 1 12259 32 2 2 4133",
   "4142 1 12945 32 2 2 6917 6965 1 13419 32 2 2 6919 6965 1 13421 32 2 2 6921 6965 1 13423 32 2 2",
   "6923 6965 1 13425 32 2 2 6925 6965 1 13427 32 2 2 6929 6965 1 13431 32 2 2 6970 6965 1 13540",
   "32 2 2 6972 6965 1 13542 32 2 2 6974 6965 1 13545 32 2 2 6975 6965 1 13546 32 2 2 6978 6965 1",
   "13548 32 2 2 69937 69927 1 13088 32 2 2 69938 69927 1 13089 32 2 2 70471 70462 1 11097 32 2 2",
   "70471 70487 1 11098 32 2 2 70841 70832 1 11239 32 2 2 70841 70842 1 11238 32 2 2 70841 70845 1",
   "11241 32 2 2 71096 71087 1 11299 32 2 2 71097 71087 1 11300 32 2 2 71989 71984 1 11472 32 2"])

/-- Vowels that are written before their consonant and ordered behind it, with the consonants, each
as first and last. -/
def leadingVowels : List ((Nat × Nat) × List (Nat × Nat)) :=
  [((0xE40, 0xE44), [(0xE01, 0xE2E)]),
   ((0xEC0, 0xEC4), [(0xE81, 0xE82), (0xE84, 0xE84), (0xE86, 0xE8A), (0xE8C, 0xEA3),
     (0xEA5, 0xEA5), (0xEA7, 0xEAE), (0xEDC, 0xEDF)]),
   ((0x19B5, 0x19B7), [(0x1980, 0x19AB)]),
   ((0x19BA, 0x19BA), [(0x1980, 0x19AB)]),
   ((0xAAB5, 0xAAB6), [(0xAA80, 0xAAAF)]),
   ((0xAAB9, 0xAAB9), [(0xAA80, 0xAAAF)]),
   ((0xAABB, 0xAABC), [(0xAA80, 0xAAAF)])]

def between (n : Nat) (ends : Nat × Nat) : Bool := ends.1 ≤ n && n ≤ ends.2

/-- A vowel before its consonant. -/
def isLeadingVowel (vowel consonant : Nat) : Bool :=
  leadingVowels.any fun (vowels, consonants) =>
    between vowel vowels && consonants.any (between consonant)

/-- The elements of code points that count as one. -/
def sequence? (codes : List Nat) : Option (List Element) :=
  match codes with
  | [vowel, consonant] =>
    if isLeadingVowel vowel consonant then some (elements consonant ++ elements vowel)
    else sequences.lookup codes
  | _ => sequences.lookup codes

/-- The number of code points at the start that count as one. -/
def matchLength (codes : List Nat) : Nat :=
  if (sequence? (codes.take 3)).isSome then 3
  else if (sequence? (codes.take 2)).isSome then 2
  else 1

/-- A sequence takes up marks from behind it, past marks of lower classes; the sequence, and the
code points that are left. -/
def absorb (codes : List Nat) (passed : Nat) : List Nat → List Nat × List Nat
  | [] => (codes, [])
  | mark :: rest =>
    let c := Decomposition.combiningClass mark
    if c = 0 then (codes, mark :: rest)
    else if passed < c ∧ (sequence? (codes ++ [mark])).isSome then
      absorb (codes ++ [mark]) passed rest
    else
      let (whole, left) := absorb codes c rest
      (whole, mark :: left)

/-- The elements of decomposed code points, read with enough fuel for each of them. -/
def read : Nat → List Nat → List Element
  | fuel + 1, n :: rest =>
    let codes := n :: rest
    let k := matchLength codes
    let (whole, left) := absorb (codes.take k) 0 (codes.drop k)
    (sequence? whole).getD (elements n) ++ read fuel left
  | _, _ => []

/-- The elements of a text. -/
def ofText (s : String) : List Element :=
  let codes := Decomposition.ofText s
  read codes.length codes

/-- The key of a text: the weights that count, letters first, then accents, then case. -/
structure Key where
  letters : List Nat
  accents : List Nat
  variants : List Nat

def key (s : String) : Key :=
  let es := ofText s
  ⟨(es.map Element.letter).filter (· ≠ 0), (es.map Element.accent).filter (· ≠ 0),
    (es.map Element.variant).filter (· ≠ 0)⟩

/-- The order of keys. -/
def Key.compare (a b : Key) : Ordering :=
  (Text.compareUnits a.letters b.letters).then
    ((Text.compareUnits a.accents b.accents).then (Text.compareUnits a.variants b.variants))

def compare (a b : String) : Ordering := (key a).compare (key b)

end Collation

end ShapedTree
