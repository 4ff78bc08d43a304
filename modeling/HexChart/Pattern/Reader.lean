import HexChart.Pattern
import HexChart.Pattern.Bracket

/-!
# Reading patterns

A pattern is a choice between branches with bars between them, and a branch is a
sequence of parts.  Parts in parentheses are a group, which holds a choice again.
A mode that is changed inside of a group is as before after it; in particular
the parts of the group alone are spaced out by a change inside of it.
-/

namespace HexChart.Pattern

/-- A group whose closing parenthesis has not come yet, or the whole pattern. -/
structure OpenGroup where
  /-- The modes that change for the group. -/
  changes : Changes
  /-- Whether there are gaps here. -/
  spaced : Bool
  /-- The branches that have ended, the last one first. -/
  branches : List Pattern
  /-- The parts of the last branch, the last one first. -/
  parts : List Pattern

namespace OpenGroup

def start (changes : Changes) (spaced : Bool) : OpenGroup :=
  ⟨changes, (changes.lookup .spaced).getD spaced, [], []⟩

/-- What has come so far, as one pattern. -/
def body (group : OpenGroup) : Pattern :=
  ofBranches (ofParts group.parts.reverse :: group.branches).reverse

def close (group : OpenGroup) : Pattern :=
  .group group.changes group.body

def add (group : OpenGroup) (part : Pattern) : OpenGroup :=
  { group with parts := part :: group.parts }

def branch (group : OpenGroup) : OpenGroup :=
  { group with branches := ofParts group.parts.reverse :: group.branches, parts := [] }

def change (group : OpenGroup) (changes : Changes) : OpenGroup :=
  { group with
    spaced := (changes.lookup .spaced).getD group.spaced
    parts := .change changes :: group.parts }

/-- Repeats the last part.  There must be one, and a change of modes cannot be
repeated. -/
def repeatLast? (group : OpenGroup) : Option OpenGroup :=
  match group.parts with
  | [] | .change _ :: _ => none
  | part :: parts => some { group with parts := .repetition part :: parts }

end OpenGroup

/-- What an opening parenthesis begins. -/
inductive Opening where
  /-- A group whose part of the value has no name. -/
  | group (changes : Changes)
  /-- A group with a name. -/
  | named (name : List Char)
  /-- Nothing: modes are changed, and the parenthesis is closed at once. -/
  | change (changes : Changes)
  deriving DecidableEq, Repr

namespace Opening

def startsName (character : Char) : Bool :=
  character == '_' || Text.isAlphabetic character

/-- Whether a name can go on with a character. -/
def continuesName (character : Char) : Bool :=
  ['_', '.', '[', ']'].contains character || Text.isAlphanumeric character

/-- Whether some characters are the name of a group. -/
def isName : List Char → Bool
  | [] => false
  | first :: others => startsName first && others.all continuesName

/-- Reads the name of a group up to and with the angle bracket after it. -/
def readName (text : List Char) : Option (Opening × List Char) :=
  let name := text.takeWhile (· != '>')
  match text.dropWhile (· != '>') with
  | [] => none
  | _ :: rest => if isName name then some (named name, rest) else none

/-- Reads changes of modes up to and with the character after them.  A change
without a group must change something. -/
def readChanges (text : List Char) : Option (Opening × List Char) :=
  match Changes.read text with
  | none => none
  | some (changes, character, rest) =>
    if character = ':' then some (group changes, rest)
    else if changes.isEmpty then none
    else some (change changes, rest)

def read : List Char → Option (Opening × List Char)
  | '?' :: 'P' :: '<' :: rest => readName rest
  | '?' :: '<' :: rest => readName rest
  | '?' :: rest => readChanges rest
  | text => some (group [], text)

end Opening

/-- Reads a pattern to its end, inside of the groups that are open around the
last one, when some names have been given to groups.  The bound is one more than
the greatest number of parts, bars and parentheses. -/
def readFrom : Nat → List (List Char) → OpenGroup → List OpenGroup → List Char → Option Pattern
  | 0, _, _, _, _ => none
  | bound + 1, names, current, around, text =>
    match afterGap current.spaced text with
    | [] => if around.isEmpty then some current.body else none
    | character :: rest =>
      match character with
      | '(' =>
        match Opening.read (afterGap current.spaced rest) with
        | none => none
        | some (.change changes, rest) =>
          readFrom bound names (current.change changes) around rest
        | some (.group changes, rest) =>
          readFrom bound names (.start changes current.spaced) (current :: around) rest
        | some (.named name, rest) =>
          if names.contains name then none
          else
            readFrom bound (name :: names) (.start [] current.spaced) (current :: around) rest
      | ')' =>
        match around with
        | [] => none
        | outer :: around => readFrom bound names (outer.add current.close) around rest
      | '|' => readFrom bound names current.branch around rest
      | '[' =>
        match CharSet.read current.spaced rest with
        | none => none
        | some (set, rest) => readFrom bound names (current.add (.charSet set)) around rest
      | '?' | '*' | '+' =>
        match current.repeatLast? with
        | none => none
        | some current =>
          let rest := match rest with
            | '?' :: rest => rest
            | rest => rest
          readFrom bound names current around rest
      | '\x7b' => none
      | '\\' =>
        match Atom.readEscape current.spaced rest with
        | none => none
        | some (part, rest) => readFrom bound names (current.add (.atom part)) around rest
      | '.' => readFrom bound names (current.add (.atom .dot)) around rest
      | '^' | '$' => readFrom bound names (current.add (.atom .anchor)) around rest
      | _ =>
        readFrom bound names (current.add (.atom (.symbol (.plain character)))) around rest

/-- Reads a pattern.  An opening brace would begin a count of repetitions, which
has no end here. -/
def read? (text : List Char) : Option Pattern :=
  readFrom (text.length + 1) [] (.start [] false) [] text

/-- Why a text cannot be used as a pattern, if so. -/
def textFault? (text : List Char) : Option PatternFault :=
  match read? text with
  | none => some .malformed
  | some pattern => pattern.fault?

end HexChart.Pattern
