namespace ShapedTree

namespace Text

/-- The parts between occurrences of a separator. -/
def split (separator : Char) : List Char → List (List Char)
  | [] => [[]]
  | c :: cs =>
    if c = separator then [] :: split separator cs
    else
      match split separator cs with
      | [] => [[c]]
      | part :: parts => (c :: part) :: parts

/-- The parts of a text between occurrences of a separator; an empty separator stands between all
characters. -/
def parts (separator s : String) : List String :=
  if separator = "" then s.toList.map String.singleton else s.splitOn separator

/-- The characters before the first separator, and those behind it if there is one. -/
def cut (separator : Char) : List Char → List Char × Option (List Char)
  | [] => ([], none)
  | c :: cs =>
    if c = separator then ([], some cs)
    else
      let (before, behind) := cut separator cs
      (c :: before, behind)

end Text

end ShapedTree
