import HexChart.Json.Datum
import HexChart.Json.Skip

/-!
# Readers of data

A reader knows what it wants and takes it from the front of a text.  Records may
be written as objects, with their members in any order and with other members
among them, or as arrays of their fields in order.  A name may be written as a
string or as an object with that one member, whose value is null.
-/

namespace HexChart.Json

def found : List Char → Except Fault Found
  | [] => .error .truncated
  | '"' :: rest => (readQuoted rest).map fun (characters, _) => .text (String.ofList characters)
  | '[' :: _ => .ok .sequence
  | '\x7b' :: _ => .ok .map
  | 'n' :: rest => (expectWord ['u', 'l', 'l'] rest).map fun _ => .null
  | 't' :: rest => (expectWord ['r', 'u', 'e'] rest).map fun _ => .boolean true
  | 'f' :: rest => (expectWord ['a', 'l', 's', 'e'] rest).map fun _ => .boolean false
  | character :: rest =>
    if Literal.startsWith character then
      (readNumber (character :: rest)).map fun (number, _) => number.found
    else
      .error .malformed

/-- The fault of finding something of another type than wanted. -/
def refuse {α : Type} (wanted : String) (text : List Char) : Except Fault α :=
  match found text with
  | .ok what => .error (.mismatch (.wrongType what wanted))
  | .error fault => .error fault

def expectColon (text : List Char) : Except Fault (List Char) :=
  match skipSpace text with
  | [] => .error .truncated
  | ':' :: rest => .ok rest
  | _ => .error .malformed

/-- What comes next between brackets. -/
inductive Turn where
  /-- The closing bracket, and the text after it. -/
  | close (rest : List Char)
  /-- An item, and the text that begins with it. -/
  | item (text : List Char)
  deriving DecidableEq, Repr

/-- Looks for the next item between brackets.  Every item but the first follows
a comma, and after a comma there is an item. -/
def nextTurn (closing : Char) (first : Bool) (text : List Char) : Except Fault Turn :=
  match skipSpace text with
  | [] => .error .truncated
  | character :: rest =>
    if character = closing then .ok (.close rest)
    else if first then .ok (.item (character :: rest))
    else if character = ',' then
      match skipSpace rest with
      | [] => .error .truncated
      | character :: rest =>
        if character = closing then .error .malformed else .ok (.item (character :: rest))
    else .error .malformed

namespace Reader

def text : Reader Datum := fun input =>
  match skipSpace input with
  | [] => .error .truncated
  | '"' :: rest => (readQuoted rest).map fun (characters, rest) =>
    (.text (String.ofList characters), rest)
  | other => refuse "a string" other

/-- Reads a natural number below the limit. -/
def count : Reader Datum := fun input =>
  match skipSpace input with
  | [] => .error .truncated
  | character :: rest =>
    if Literal.startsWith character then
      match readNumber (character :: rest) with
      | .ok (.natural value, rest) => .ok (.count value, rest)
      | .ok (.negative magnitude, _) =>
        .error (.mismatch (.wrongValue (.integer (-magnitude)) "usize"))
      | .ok (number, _) => .error (.mismatch (.wrongType number.found "usize"))
      | .error fault => .error fault
    else
      refuse "usize" (character :: rest)

def known (names : List String) (characters : List Char) : Except Fault Datum :=
  let name := String.ofList characters
  if names.contains name then .ok (.choice name)
  else .error (.mismatch (.unknownName name names))

/-- Reads the null of a name that is written as an object, and its closing
brace. -/
def nullMember (input : List Char) : Except Fault (List Char) :=
  match skipSpace input with
  | [] => .error .truncated
  | 'n' :: rest =>
    match expectWord ['u', 'l', 'l'] rest with
    | .error fault => .error fault
    | .ok rest =>
      match skipSpace rest with
      | [] => .error .truncated
      | '\x7d' :: rest => .ok rest
      | _ => .error .malformed
  | other => refuse "unit" other

/-- Reads one of some names.  In an object the name must begin at once: anything but a
string is malformed there, also a value of another type. -/
def choice (names : List String) : Reader Datum := fun input =>
  match skipSpace input with
  | [] => .error .truncated
  | '"' :: rest => do
    let (characters, rest) ← readQuoted rest
    let datum ← known names characters
    return (datum, rest)
  | '\x7b' :: rest =>
    match skipSpace rest with
    | [] => .error .truncated
    | '"' :: rest => do
      let (characters, rest) ← readQuoted rest
      let datum ← known names characters
      let rest ← expectColon rest
      let rest ← nullMember rest
      return (datum, rest)
    | _ => .error .malformed
  | _ => .error .malformed

/-- The number is a value, but no name can begin with it. -/
example : choice ["road"] ['\x7b', '9', ':', 'n', 'u', 'l', 'l', '\x7d'] = .error .malformed :=
  rfl

/-- Reads items up to and with the closing bracket of their list.  The bound is
one more than the greatest number of items. -/
def items (item : Reader Datum) : Nat → Bool → Reader (List Datum)
  | 0, _, _ => .error .truncated
  | bound + 1, first, input =>
    match nextTurn ']' first input with
    | .error fault => .error fault
    | .ok (.close rest) => .ok ([], rest)
    | .ok (.item input) => do
      let (datum, rest) ← item input
      let (others, rest) ← items item bound false rest
      return (datum :: others, rest)

def list (item : Reader Datum) : Reader Datum := fun input =>
  match skipSpace input with
  | [] => .error .truncated
  | '[' :: rest =>
    (items item (rest.length + 1) true rest).map fun (data, rest) => (.list data, rest)
  | other => refuse "a sequence" other

/-- A field of a record: its name, and how its value is read. -/
abbrev Field := String × Reader Datum

/-- Reads the fields of a record from an array, in their order. -/
def elements (wanted : String) : List Field → Nat → Reader (List (String × Datum))
  | [], _, input =>
    match skipSpace input with
    | [] => .error .truncated
    | ']' :: rest => .ok ([], rest)
    | _ => .error .malformed
  | (name, reader) :: fields, index, input =>
    match nextTurn ']' (index == 0) input with
    | .error fault => .error fault
    | .ok (.close _) => .error (.mismatch (.tooShort index wanted))
    | .ok (.item input) => do
      let (datum, rest) ← reader input
      let (others, rest) ← elements wanted fields (index + 1) rest
      return ((name, datum) :: others, rest)

/-- Puts members into the order of the fields; the first field that no member
names is missing. -/
def arrange (members : List (String × Datum)) :
    List Field → Except Fault (List (String × Datum))
  | [] => .ok []
  | (name, _) :: fields =>
    match members.lookup name with
    | none => .error (.mismatch (.missingField name))
    | some datum => (arrange members fields).map ((name, datum) :: ·)

/-- Reads members up to and with the closing brace of their object, after the
members that were read before.  The bound is one more than the greatest number
of members. -/
def members (fields : List Field) :
    Nat → List (String × Datum) → Bool → Reader (List (String × Datum))
  | 0, _, _, _ => .error .truncated
  | bound + 1, before, first, input =>
    match nextTurn '\x7d' first input with
    | .error fault => .error fault
    | .ok (.close rest) => (arrange before fields).map (·, rest)
    | .ok (.item ('"' :: input)) => do
      let (characters, rest) ← readQuoted input
      let name := String.ofList characters
      match fields.lookup name with
      | none =>
        let rest ← expectColon rest
        let rest ← skipValue rest
        members fields bound before false rest
      | some reader =>
        if (before.lookup name).isSome then
          .error (.mismatch (.duplicateField name))
        else
          let rest ← expectColon rest
          let (datum, rest) ← reader rest
          members fields bound ((name, datum) :: before) false rest
    | .ok (.item _) => .error .malformed

def record (name : String) (fields : List Field) : Reader Datum := fun input =>
  match skipSpace input with
  | [] => .error .truncated
  | '[' :: rest =>
    let wanted := "struct " ++ name ++ " with " ++ toString fields.length ++ " elements"
    (elements wanted fields 0 rest).map fun (data, rest) => (.record data, rest)
  | '\x7b' :: rest =>
    (members fields (rest.length + 1) [] true rest).map fun (data, rest) =>
      (.record data, rest)
  | other => refuse ("struct " ++ name) other

/-- Reads a text that says one thing and nothing else. -/
def whole {α : Type} (reader : Reader α) (input : List Char) : Except Fault α := do
  let (value, rest) ← reader input
  if (skipSpace rest).isEmpty then .ok value else .error .malformed

end Reader

end HexChart.Json
