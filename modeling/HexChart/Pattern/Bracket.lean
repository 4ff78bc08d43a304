import HexChart.Pattern.CharSet

/-!
# Reading sets of characters

A set stands in brackets.  A circumflex at its start negates it.  Dashes at its
start stand for themselves, and so does a closing bracket if nothing comes
before it; so no brackets are empty.  Elsewhere a dash makes a range of the
characters around it, and a doubled `&`, `-` or `~` joins what is left of it with
what is right of it.
-/

namespace HexChart.Pattern

/-- A set whose closing bracket has not come yet. -/
structure OpenSet where
  negated : Bool
  /-- Whether nothing but dashes has come. -/
  atStart : Bool
  /-- What the last operator has on its left. -/
  left : Option CharSet
  /-- What has come since, the last item first. -/
  items : List CharSet

namespace OpenSet

/-- What has come so far, as one set. -/
def body (set : OpenSet) : CharSet :=
  let right := CharSet.ofItems set.items.reverse
  match set.left with
  | none => right
  | some left => .operation left right

def close (set : OpenSet) : CharSet :=
  .bracketed set.negated set.body

/-- Adds an item that ends the start of a set. -/
def add (set : OpenSet) (item : CharSet) : OpenSet :=
  { set with atStart := false, items := item :: set.items }

/-- Adds a dash at the start of a set. -/
def addDash (set : OpenSet) : OpenSet :=
  { set with items := .symbol (.plain '-') :: set.items }

/-- Makes what has come so far the left side of an operator. -/
def operate (set : OpenSet) : OpenSet :=
  { set with atStart := false, left := some set.body, items := [] }

def read (spaced : Bool) (text : List Char) : OpenSet × List Char :=
  match afterGap spaced text with
  | '^' :: rest => (⟨true, true, none, []⟩, rest)
  | other => (⟨false, true, none, []⟩, other)

end OpenSet

namespace CharSet

def classNames : List String :=
  ["alnum", "alpha", "ascii", "blank", "cntrl", "digit", "graph", "lower", "print", "punct",
    "space", "upper", "word", "xdigit"]

/-- Reads a class of ASCII characters after its opening bracket, such as
`[:alpha:]` or `[:^alpha:]`.  Anything else in a bracket is a set. -/
def readNamed (text : List Char) : Option (CharSet × List Char) :=
  match text with
  | ':' :: text =>
    let (negated, text) := match text with
      | '^' :: text => (true, text)
      | text => (false, text)
    match text.dropWhile (· != ':') with
    | ':' :: ']' :: rest =>
      if classNames.contains (String.ofList (text.takeWhile (· != ':'))) then
        some (named negated, rest)
      else none
    | _ => none
  | _ => none

/-- Reads a character or an escape in a set. -/
def readAtom (spaced : Bool) : List Char → Option (Atom × List Char)
  | [] => none
  | '\\' :: rest => Atom.readEscape spaced rest
  | character :: rest => some (.symbol (.plain character), rest)

/-- The set that an atom alone stands for.  There are no places in a set. -/
def ofAtom? : Atom → Option CharSet
  | .symbol item => some (symbol item)
  | .shorthand negated => some (shorthand negated)
  | .dot | .anchor | .boundary => none

/-- The range between two atoms, of which the first may not come after the
last. -/
def range? : Atom → Atom → Option CharSet
  | .symbol first, .symbol last =>
    if first.character ≤ last.character then some (range first last) else none
  | _, _ => none

/-- Reads an item of a set: a range, or an atom.  A dash before another dash or
before the closing bracket makes no range. -/
def readItem (spaced : Bool) (text : List Char) : Option (CharSet × List Char) := do
  let (first, rest) ← readAtom spaced text
  match afterGap spaced rest with
  | '-' :: rest =>
    if ahead spaced rest = some ']' ∨ ahead spaced rest = some '-' then
      return (← ofAtom? first, '-' :: rest)
    let (last, rest) ← readAtom spaced (afterGap spaced rest)
    return (← range? first last, rest)
  | rest => return (← ofAtom? first, rest)

/-- Whether a character is an operator when it is doubled. -/
def isOperator (character : Char) : Bool :=
  character == '&' || character == '-' || character == '~'

/-- Reads a set up to and with its closing bracket, inside of the sets that are
open around it.  The bound is one more than the greatest number of items,
operators and brackets. -/
def readFrom (spaced : Bool) :
    Nat → OpenSet → List OpenSet → List Char → Option (CharSet × List Char)
  | 0, _, _, _ => none
  | bound + 1, set, around, text =>
    match afterGap spaced text with
    | [] => none
    | character :: rest =>
      if set.atStart ∧ character = '-' then
        readFrom spaced bound set.addDash around rest
      else if set.atStart ∧ character = ']' ∧ set.items.isEmpty then
        readFrom spaced bound (set.add (symbol (.plain ']'))) around rest
      else if character = '[' then
        match readNamed rest with
        | some (item, rest) => readFrom spaced bound (set.add item) around rest
        | none =>
          let (inner, rest) := OpenSet.read spaced rest
          readFrom spaced bound inner (set :: around) rest
      else if character = ']' then
        match around with
        | [] => some (set.close, rest)
        | outer :: around => readFrom spaced bound (outer.add set.close) around rest
      else if isOperator character ∧ rest.head? = some character then
        readFrom spaced bound set.operate around rest.tail
      else
        match readItem spaced (character :: rest) with
        | none => none
        | some (item, rest) => readFrom spaced bound (set.add item) around rest

def read (spaced : Bool) (text : List Char) : Option (CharSet × List Char) :=
  let (set, rest) := OpenSet.read spaced text
  readFrom spaced (rest.length + 1) set [] rest

end CharSet

end HexChart.Pattern
