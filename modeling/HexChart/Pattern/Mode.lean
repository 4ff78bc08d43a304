/-!
# Modes of a pattern

A pattern can change how the rest of it is read and compared.  Each mode has a
letter; the letters after a minus sign turn their modes off.  A pattern may not
name a mode twice in one place, so the changes of one place never contradict
each other.
-/

namespace HexChart.Pattern

/-- A way of reading or comparing that a pattern turns on and off. -/
inductive Mode where
  /-- Capital and small letters are the same. -/
  | anyCase
  /-- Lines inside of a value have a start and an end too. -/
  | everyLine
  /-- A dot stands for the end of a line too. -/
  | dotAll
  /-- Repetitions are as short as they can be. -/
  | short
  /-- Sets and boundaries are about characters of every script. -/
  | unicode
  /-- A line may also end in a carriage return. -/
  | returns
  /-- Blanks and comments are not a part of the pattern. -/
  | spaced
  deriving DecidableEq, Repr

def Mode.ofLetter? : Char → Option Mode
  | 'i' => some anyCase
  | 'm' => some everyLine
  | 's' => some dotAll
  | 'U' => some short
  | 'u' => some unicode
  | 'R' => some returns
  | 'x' => some spaced
  | _ => none

/-- The modes that one place of a pattern turns on or off. -/
abbrev Changes := List (Mode × Bool)

namespace Changes

/-- Reads changes up to the colon or the parenthesis after them, which is
returned with the rest of the text.  There is one minus sign at most, and a
letter follows it. -/
def readFrom (changes : Changes) (on dangling : Bool) :
    List Char → Option (Changes × Char × List Char)
  | [] => none
  | character :: rest =>
    if character = ':' ∨ character = ')' then
      if dangling then none else some (changes, character, rest)
    else if character = '-' then
      if on then readFrom changes false true rest else none
    else
      match Mode.ofLetter? character with
      | none => none
      | some mode =>
        if (changes.lookup mode).isSome then none
        else readFrom ((mode, on) :: changes) on false rest

def read (text : List Char) : Option (Changes × Char × List Char) :=
  readFrom [] true false text

end Changes

/-- The modes on which it depends whether a pattern can be used. -/
structure Modes where
  anyCase : Bool
  unicode : Bool
  deriving DecidableEq, Repr

namespace Modes

/-- The modes at the start of a pattern. -/
def usual : Modes :=
  ⟨false, true⟩

def after (modes : Modes) (changes : Changes) : Modes where
  anyCase := (changes.lookup .anyCase).getD modes.anyCase
  unicode := (changes.lookup .unicode).getD modes.unicode

end Modes

end HexChart.Pattern
