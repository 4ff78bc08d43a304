import HexChart.Text.Split

/-!
# Paths

A path is a text whose segments are separated by slashes.  Empty segments and
segments of one dot stay where they are; two dots lead to the parent.
-/

namespace HexChart.Path

def segments (path : String) : List String :=
  (Text.splitAt '/' path.toList).map String.ofList

def isAbsolute : List String → Bool
  | "" :: _ :: _ => true
  | _ => false

/-- Whether a segment names an entry of the directory in which it is looked up. -/
def isName (segment : String) : Bool :=
  segment != "" && segment != "." && segment != ".."

/-- A path continued by another one.  An absolute path stands for itself. -/
def join (directory file : String) : String :=
  if file.toList.head? = some '/' ∨ directory = "" then file
  else if directory.toList.getLast? = some '/' then directory ++ file
  else directory ++ "/" ++ file

/-- The leading parts of some segments that end in a step: a name, two dots, or
one dot at the very beginning.  Shorter parts come first. -/
def stemsAfter (before : List String) : List String → List (List String)
  | [] => []
  | segment :: rest =>
    let here := before ++ [segment]
    if segment ≠ "" ∧ (segment ≠ "." ∨ before = []) then here :: stemsAfter here rest
    else stemsAfter here rest

/-- A path and the directories above it, from the path itself upward.  The root
and the directory in which relative paths begin are left out. -/
def ancestors (path : List String) : List (List String) :=
  match (stemsAfter [] path).reverse with
  | [] => []
  | _ :: parents => path :: parents

end HexChart.Path
