import HexChart.Decimal.Spelling
import HexChart.Log
import HexChart.Pattern.Reader
import HexChart.Text.Bytes
import HexChart.Text.Category
import HexChart.Text.Split

/-!
# Log filters

A filter chooses the events that are printed.  It is a list of directives with
commas between them; each wants some verbosity from the events of a part of the
program, and perhaps only from those inside a span or with a field:

    origin[span{field=value}]=level

Every piece may be left out, and a level may stand alone.  A value is a number or
a pattern.  An event is printed when the directive that describes it most closely
wants its level.  A directive that cannot be read is passed over with a complaint.
-/

namespace HexChart

/-- Why a directive cannot be read. -/
inductive DirectiveFault where
  | malformed
  | unusableValue (fault : PatternFault)
  | unknownLevel
  deriving DecidableEq, Repr

/-- The words for what is wrong with a directive. -/
def DirectiveFault.message : DirectiveFault → String
  | malformed => "invalid filter directive"
  | unusableValue fault => "invalid field filter: " ++ fault.message
  | unknownLevel =>
    "error parsing level filter: expected one of \"off\", \"error\", \"warn\", \"info\", " ++
      "\"debug\", \"trace\", or a number 0-5"

/-- What is wanted from some events. -/
structure Directive where
  /-- How the name of the part of the program begins. -/
  origin : Option String
  /-- The span that the events are inside of. -/
  span : Option String
  /-- A field of the events, perhaps with its value. -/
  field : Option (String × Option String)
  verbosity : Nat
  deriving DecidableEq, Repr

namespace Directive

def everything : Directive :=
  ⟨none, none, none, Level.trace.verbosity⟩

/-- The number that digits denote, perhaps after a plus sign. -/
def number? (word : List Char) : Option Nat :=
  let digits := match word with
    | '+' :: digits => digits
    | digits => digits
  if digits.isEmpty ∨ !digits.all Char.isDigit then none
  else some (digits.foldl (fun value digit => 10 * value + (digit.toNat - '0'.toNat)) 0)

/-- The verbosity that a word asks for: the name of a level in any case, or its
number. -/
def verbosity? (word : List Char) : Option Nat :=
  match number? word with
  | some number => if number ≤ Level.trace.verbosity then some number else none
  | none =>
    match word.map Char.toLower with
    | ['o', 'f', 'f'] => some 0
    | ['e', 'r', 'r', 'o', 'r'] => some Level.error.verbosity
    | ['w', 'a', 'r', 'n'] => some Level.warn.verbosity
    | ['i', 'n', 'f', 'o'] => some Level.info.verbosity
    | ['d', 'e', 'b', 'u', 'g'] => some Level.debug.verbosity
    | ['t', 'r', 'a', 'c', 'e'] => some Level.trace.verbosity
    | _ => none

/-- Which piece of a directive is being read, and where it begins. -/
inductive Piece where
  /-- Nothing has come yet. -/
  | opening
  /-- A level or an origin. -/
  | word
  | span (first : Nat)
  | field (first : Nat)
  /-- The field has ended, and the bracket must end too. -/
  | closing
  /-- The bracket has ended, and only a level may follow. -/
  | closed
  | level (first : Nat)
  deriving DecidableEq, Repr

/-- Some characters of a text, from a first place up to another one.  Places are
counted in bytes. -/
def cut (text : List Char) (first last : Nat) : List Char :=
  Text.dropBytes first (Text.takeBytes last text)

/-- Why a value cannot be used, if so.  Every number can, even one that is no
pattern. -/
def valueFault? (value : List Char) : Option PatternFault :=
  if Decimal.spellsNumber value then none else Pattern.textFault? value

/-- Reads a field: its name, and its value up to the next equals sign. -/
def readField (text : List Char) : Except DirectiveFault (String × Option String) :=
  match Text.splitAt '=' text with
  | name :: value :: _ =>
    match valueFault? value with
    | some fault => .error (.unusableValue fault)
    | none => .ok (String.ofList name, some (String.ofList value))
  | _ => .ok (String.ofList text, none)

/-- Whether a directive can begin with a character, brackets apart. -/
def opens (character : Char) : Bool :=
  character == '-' || character == ':' || character == '_' ||
    Text.isAlphanumeric character

/-- Takes the text up to a place as the origin of a directive. -/
def takeOrigin (text : List Char) (directive : Directive) (place : Nat) : Directive :=
  { directive with origin := some (String.ofList (cut text 0 place)) }

/-- Takes the text between two places as the span of a directive.  Before a field
an empty text is no span. -/
def takeSpan (text : List Char) (directive : Directive) (first place : Nat)
    (beforeField : Bool) : Directive :=
  let span := cut text first place
  { directive with
    span := if beforeField ∧ span.isEmpty then none else some (String.ofList span) }

/-- Takes the text between two places as the field of a directive. -/
def takeField (text : List Char) (directive : Directive) (first place : Nat) :
    Except DirectiveFault Directive :=
  let field := cut text first place
  if field.isEmpty then .error .malformed
  else (readField field).map fun field => { directive with field := some field }

/-- Takes one character of a directive, at its place, into account. -/
def step (text : List Char) (directive : Directive) (place : Nat) (character : Char) :
    Piece → Except DirectiveFault (Directive × Piece)
  | .opening =>
    if character = '[' then .ok (directive, .span (place + 1))
    else if opens character then .ok (directive, .word)
    else .error .malformed
  | .word =>
    if character = '=' then .ok (takeOrigin text directive place, .level (place + 1))
    else if character = '[' then .ok (takeOrigin text directive place, .span (place + 1))
    else .ok (directive, .word)
  | .span first =>
    if character = ']' then .ok (takeSpan text directive first place false, .closed)
    else if character = '\x7b' then
      .ok (takeSpan text directive first place true, .field (place + 1))
    else .ok (directive, .span first)
  | .field first =>
    if character = '\x7d' then
      (takeField text directive first place).map fun directive => (directive, .closing)
    else .ok (directive, .field first)
  | .closing => if character = ']' then .ok (directive, .closed) else .error .malformed
  | .closed =>
    if character = '=' then .ok (directive, .level (place + 1)) else .error .malformed
  | .level first => .ok (directive, .level first)

def finish (text : List Char) (directive : Directive) :
    Piece → Except DirectiveFault Directive
  | .word =>
    match verbosity? text with
    | some verbosity => .ok { directive with verbosity }
    | none => .ok { directive with origin := some (String.ofList text) }
  | .level first =>
    let level := Text.dropBytes first text
    if level.isEmpty then .ok directive
    else match verbosity? level with
      | some verbosity => .ok { directive with verbosity }
      | none => .error .unknownLevel
  | .closed => .ok directive
  | .opening | .span _ | .field _ | .closing => .error .malformed

/-- Reads the characters of a directive from a place on. -/
def readFrom (text : List Char) (directive : Directive) (piece : Piece) :
    Nat → List Char → Except DirectiveFault Directive
  | _, [] => finish text directive piece
  | place, character :: rest =>
    match step text directive place character piece with
    | .error fault => .error fault
    | .ok (directive, piece) =>
      readFrom text directive piece (place + character.utf8Size) rest

/-- Reads a directive.  Blanks around it do not count as characters of it, and
places are counted without them; but the pieces are cut from the text with its
blanks, so blanks in front shift every piece by their bytes. -/
def read (text : List Char) : Except DirectiveFault Directive :=
  readFrom text everything .opening 0 (Text.trim text)

/-- Whether a directive speaks of an event.  No event is inside a span, and the
values of fields are known for spans only. -/
def describes (directive : Directive) (event : Event) : Bool :=
  let origin := (directive.origin.getD "").toList
  directive.span.isNone && origin.isPrefixOf event.origin.toList &&
    match directive.field with
    | none => true
    | some (name, none) => event.names.contains name
    | some (_, some _) => false

/-- Whether the second of two directives that describe an event does so at least
as closely as the first: by a longer beginning of its origin, or else by a field,
the later one in the alphabet. -/
def atMost (left right : Directive) : Bool :=
  let leftLength := (left.origin.getD "").length
  let rightLength := (right.origin.getD "").length
  leftLength < rightLength || leftLength == rightLength &&
    match left.field, right.field with
    | none, _ => true
    | some _, none => false
    | some (leftName, _), some (rightName, _) => leftName ≤ rightName

end Directive

abbrev LogFilter := List Directive

namespace LogFilter

/-- The texts between the commas of a list, the empty ones left out. -/
def parts (text : String) : List (List Char) :=
  (Text.splitAt ',' text.toList).filter fun part => !part.isEmpty

/-- Reads a list of directives.  Without any usable one only errors are wanted. -/
def ofText (text : String) : LogFilter :=
  match (parts text).filterMap fun part => (Directive.read part).toOption with
  | [] => [⟨none, none, none, Level.error.verbosity⟩]
  | directives => directives

/-- What is said about the directives of a list that cannot be read. -/
def complaints (text : String) : List String :=
  (parts text).filterMap fun part =>
    match Directive.read part with
    | .ok _ => none
    | .error fault => some ("ignoring `" ++ String.ofList part ++ "`: " ++ fault.message)

/-- The verbosity that is wanted from an event: that of the directive which
describes it most closely, and of two alike that of the later one. -/
def verbosityOf (filter : LogFilter) (event : Event) : Nat :=
  let closest := (filter.filter (·.describes event)).foldl (fun best directive =>
    match best with
    | none => some directive
    | some other => if other.atMost directive then some directive else some other) none
  (closest.map Directive.verbosity).getD 0

/-- Whether an event is printed. -/
def allows (filter : LogFilter) (event : Event) : Bool :=
  event.level.verbosity ≤ filter.verbosityOf event

end LogFilter

end HexChart
