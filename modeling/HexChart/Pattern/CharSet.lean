import HexChart.Pattern.Atom
import HexChart.Pattern.Mode

/-!
# Sets of characters in a pattern

A set holds characters, ranges and other sets, and sets can be intersected and
subtracted.  A set need not be usable: sets of bytes must not leave ASCII, and
about the other characters it is neither known which of them are letters or
digits nor which capital belongs to which small letter.
-/

namespace HexChart.Pattern

/-- A set of characters, as it is written.  Which operation joins two sets is
left out, for every one of them can be carried out on usable sets. -/
inductive CharSet where
  | symbol (symbol : Symbol)
  | range (first last : Symbol)
  /-- A class of ASCII characters by its name. -/
  | named (negated : Bool)
  /-- A class of characters by its letter. -/
  | shorthand (negated : Bool)
  /-- A set in brackets of its own. -/
  | bracketed (negated : Bool) (body : CharSet)
  | union (items : List CharSet)
  | operation (left right : CharSet)

namespace CharSet

/-- The set of everything in some sets.  A single one stands for itself. -/
def ofItems : List CharSet → CharSet
  | [item] => item
  | items => union items

mutual

def height : CharSet → Nat
  | symbol _ | range _ _ | named _ | shorthand _ | union [] => 0
  | bracketed _ body => body.height + 1
  | union (item :: items) => max item.height (greatestHeight items) + 1
  | operation left right => max left.height right.height + 1

def greatestHeight : List CharSet → Nat
  | [] => 0
  | item :: items => max item.height (greatestHeight items)

end

mutual

/-- Whether the set of characters of every script can be told.  If capital and
small letters are the same, that is so only for sets that mention no character. -/
def tellsCharacters (anyCase : Bool) : CharSet → Bool
  | symbol _ | range _ _ | named _ => !anyCase
  | shorthand _ => false
  | bracketed _ body => body.tellsCharacters anyCase
  | union items => allTellCharacters anyCase items
  | operation left right => left.tellsCharacters anyCase && right.tellsCharacters anyCase

/-- Whether all of some sets of characters can be told. -/
def allTellCharacters (anyCase : Bool) : List CharSet → Bool
  | [] => true
  | item :: items => item.tellsCharacters anyCase && allTellCharacters anyCase items

end

mutual

/-- Whether a set, taken as one of bytes, stays within ASCII.  What is not in
such a set lies beyond ASCII, so nothing may be negated. -/
def staysAscii : CharSet → Bool
  | symbol item => item.isAscii
  | range first last => first.isAscii && last.isAscii
  | named negated | shorthand negated => !negated
  | bracketed negated body => !negated && body.staysAscii
  | union items => allStayAscii items
  | operation left right => left.staysAscii && right.staysAscii

def allStayAscii : List CharSet → Bool
  | [] => true
  | item :: items => item.staysAscii && allStayAscii items

end

/-- Whether a set can be used in some modes. -/
def isUsable (modes : Modes) (set : CharSet) : Bool :=
  if modes.unicode then set.tellsCharacters modes.anyCase else set.staysAscii

end CharSet

end HexChart.Pattern
