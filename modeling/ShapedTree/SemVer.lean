import ShapedTree.Text.Split

namespace ShapedTree

namespace SemVer

/-- A letter, digit or hyphen of ASCII. -/
def isIdentifierChar (c : Char) : Bool := c.isAlphanum || c == '-'

/-- Digits without a leading zero. -/
def isNumeric : List Char → Bool
  | [] => false
  | [c] => c.isDigit
  | c :: cs => c.isDigit && c != '0' && cs.all Char.isDigit

/-- A build identifier is any row of identifier characters. -/
def isBuildIdentifier (cs : List Char) : Bool := !cs.isEmpty && cs.all isIdentifierChar

/-- A pre-release identifier of digits alone has no leading zero. -/
def isPrereleaseIdentifier (cs : List Char) : Bool :=
  isBuildIdentifier cs && (!cs.all Char.isDigit || isNumeric cs)

/-- Three numeric identifiers. -/
def isCore (cs : List Char) : Bool :=
  match Text.split '.' cs with
  | [major, minor, patch] => isNumeric major && isNumeric minor && isNumeric patch
  | _ => false

/-- What stands before the build identifiers. -/
def isRelease (cs : List Char) : Bool :=
  match Text.cut '-' cs with
  | (core, none) => isCore core
  | (core, some prerelease) =>
    isCore core && (Text.split '.' prerelease).all isPrereleaseIdentifier

/-- The characters of a version. -/
def accepts (cs : List Char) : Bool :=
  match Text.cut '+' cs with
  | (release, none) => isRelease release
  | (release, some build) => isRelease release && (Text.split '.' build).all isBuildIdentifier

end SemVer

/-- A text is a semantic version. -/
def isSemVer (s : String) : Bool := SemVer.accepts s.toList

end ShapedTree
