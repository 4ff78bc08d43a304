import HexChart.Text.Quoted

/-!
# Control characters

A terminal obeys some characters instead of showing them, and an escape
character makes it obey the characters that follow.  A log spells out the
characters that could do harm (`spellControls`).  What is printed to something
other than a terminal is rid of control characters and of the sequences that
they begin (`withoutControls`), so that only the text remains.
-/

namespace HexChart.Text

/-- A character as it stands in a log: the control characters with which an
escape sequence can begin, and those that move or erase, are spelled out. -/
def spellControl (character : Char) : List Char :=
  match character with
  | '\x1b' => ['\\', 'x', '1', 'b']
  | '\x07' => ['\\', 'x', '0', '7']
  | '\x08' => ['\\', 'x', '0', '8']
  | '\x0c' => ['\\', 'x', '0', 'c']
  | '\x7f' => ['\\', 'x', '7', 'f']
  | _ =>
    if 0x80 ≤ character.toNat ∧ character.toNat ≤ 0x9f then codeEscape character
    else [character]

/-- A text as it stands in a log. -/
def spellControls (text : String) : String :=
  String.ofList (text.toList.flatMap spellControl)

/-- What the characters before a place have begun. -/
inductive Sequence where
  /-- Nothing: characters are text. -/
  | none
  /-- A sequence of which only the escape character has come. -/
  | escape
  /-- A sequence that goes on until a letter or a digit. -/
  | designation
  /-- A sequence that goes on until a letter. -/
  | control
  /-- A string for a device, of whose head nothing has come. -/
  | deviceString
  /-- A string for a device, in whose head parameters have come. -/
  | deviceParameters
  /-- A string for a device, in whose head an intermediate has come. -/
  | deviceIntermediates
  /-- The body of a string. -/
  | body
  /-- A command of the operating system. -/
  | command
  deriving DecidableEq, Repr

namespace Sequence

def between (first last : Nat) (character : Char) : Bool :=
  first ≤ character.toNat ∧ character.toNat ≤ last

/-- Whether a character ends the body of a string: its encoding has the byte
that means the end of a string. -/
def endsBody (character : Char) : Bool :=
  (String.utf8EncodeChar character).contains 0x9c

def afterEscape (character : Char) : Sequence :=
  match character with
  | '[' => control
  | ']' => command
  | 'P' => deviceString
  | 'X' | '^' | '_' => body
  | _ =>
    if between 0x20 0x2f character then designation
    else if between 0x30 0x7e character then none
    else escape

/-- What has begun after a character that is not text. -/
def next (sequence : Sequence) (character : Char) : Sequence :=
  if character = '\x18' ∨ character = '\x1a' then none
  else if character = '\x1b' then escape
  else match sequence with
    | none => none
    | escape => afterEscape character
    | designation => if between 0x30 0x7e character then none else designation
    | control => if between 0x40 0x7e character then none else control
    | deviceString =>
      if between 0x20 0x2f character then deviceIntermediates
      else if between 0x30 0x3f character then deviceParameters
      else if between 0x40 0x7e character then body
      else deviceString
    | deviceParameters =>
      if between 0x20 0x2f character then deviceIntermediates
      else if between 0x3c 0x7e character then body
      else deviceParameters
    | deviceIntermediates =>
      if between 0x30 0x7e character then body else deviceIntermediates
    | body => if endsBody character then none else body
    | command => if character = '\x07' then none else command

/-- Whether a character is one of the controls that lay a text out. -/
def laysOut (character : Char) : Bool :=
  character == '\t' || character == '\n' || character == '\x0c' || character == '\r'

/-- Whether a character is shown where a sequence has begun.  Layout is shown
also in the middle of a sequence unless a string is being read. -/
def shows (sequence : Sequence) (character : Char) : Bool :=
  match sequence with
  | none => laysOut character || between 0x20 0x7e character || 0x80 ≤ character.toNat
  | escape | designation | control => laysOut character
  | _ => false

end Sequence

/-- The characters of a text that are shown.  Once a character is shown, those
after it are text up to the next that is not shown; with that one the sequence
goes on, unless a character above the ASCII range has come between. -/
def shownFrom (sequence : Sequence) (showing : Bool) : List Char → List Char
  | [] => []
  | character :: rest =>
    if (if showing then Sequence.none else sequence).shows character then
      character ::
        shownFrom (if 0x80 ≤ character.toNat then .none else sequence) true rest
    else
      shownFrom (sequence.next character) false rest

/-- A text without control characters and the sequences that they begin. -/
def withoutControls (text : String) : String :=
  String.ofList (shownFrom .none false text.toList)

end HexChart.Text
