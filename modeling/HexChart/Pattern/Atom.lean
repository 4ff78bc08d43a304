import HexChart.Pattern.Gap
import HexChart.Text.Hexadecimal

/-!
# Atoms of a pattern

The smallest parts of a pattern.  Most characters stand for themselves; a
backslash gives the character after it another meaning or, before punctuation,
takes its meaning away.

A pattern ends where the field of its directive does, at the first closing
brace.  So nothing in a pattern is written between braces.
-/

namespace HexChart.Pattern

/-- A character that stands for itself. -/
structure Symbol where
  character : Char
  /-- Whether it is written as one byte, by two hexadecimal digits. -/
  asByte : Bool
  deriving DecidableEq, Repr

namespace Symbol

def plain (character : Char) : Symbol :=
  ⟨character, false⟩

def isAscii (symbol : Symbol) : Bool :=
  symbol.character.toNat < 0x80

end Symbol

/-- What a single character or an escape means. -/
inductive Atom where
  | symbol (symbol : Symbol)
  /-- Any character. -/
  | dot
  /-- The start or the end of a value or of a line. -/
  | anchor
  /-- A place where a word starts or ends, or where none does. -/
  | boundary
  /-- A class of characters by its letter: digits, blanks or parts of words. -/
  | shorthand (negated : Bool)
  deriving DecidableEq, Repr

namespace Atom

def control (character : Char) : Atom :=
  symbol (.plain character)

/-- Reads hexadecimal digits, as many as there must be, onto a value.  There may
be a gap before each of them and after the last one. -/
def readHex (spaced : Bool) : Nat → Nat → List Char → Option (Nat × List Char)
  | 0, value, text => some (value, afterGap spaced text)
  | count + 1, value, text =>
    match afterGap spaced text with
    | [] => none
    | digit :: rest =>
      match Text.hexValue? digit with
      | none => none
      | some size => readHex spaced count (16 * value + size) rest

/-- Reads the code point of a character in so many hexadecimal digits. -/
def readCode (spaced : Bool) (count : Nat) (asByte : Bool) (text : List Char) :
    Option (Atom × List Char) :=
  match readHex spaced count 0 text with
  | none => none
  | some (code, rest) =>
    if code.isValidChar then some (symbol ⟨Char.ofNat code, asByte⟩, rest) else none

/-- Whether a backslash takes the meaning of a character away: it does so for
every ASCII character other than letters and digits. -/
def isPunctuation (character : Char) : Bool :=
  character.toNat < 0x80 && !character.isAlphanum

/-- Reads what follows a backslash.  Classes by the name of a property are not
known. -/
def readEscape (spaced : Bool) : List Char → Option (Atom × List Char)
  | [] => none
  | character :: rest =>
    match character with
    | 'x' => readCode spaced 2 true rest
    | 'u' => readCode spaced 4 false rest
    | 'U' => readCode spaced 8 false rest
    | 'd' | 's' | 'w' => some (shorthand false, rest)
    | 'D' | 'S' | 'W' => some (shorthand true, rest)
    | 'A' | 'z' => some (anchor, rest)
    | 'b' | 'B' | '<' | '>' => some (boundary, rest)
    | 'a' => some (control '\x07', rest)
    | 'f' => some (control '\x0c', rest)
    | 'n' => some (control '\n', rest)
    | 'r' => some (control '\r', rest)
    | 't' => some (control '\t', rest)
    | 'v' => some (control '\x0b', rest)
    | _ =>
      if isPunctuation character then some (symbol (.plain character), rest) else none

end Atom

end HexChart.Pattern
