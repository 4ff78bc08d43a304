import HexChart.Json.Quoted

/-!
# Data and their text

A datum is what a JSON text of this library says: a count, a text, one of a few
names, a list, or a record with named fields.  It is written compactly on one
line, or spread over lines that are indented by two spaces for each level.
-/

namespace HexChart.Json

/-- What a JSON text says. -/
inductive Datum where
  | count (value : Nat)
  | text (value : String)
  /-- One of the names of an enumeration. -/
  | choice (name : String)
  | list (items : List Datum)
  | record (fields : List (String × Datum))
  deriving Repr

/-- Whether a text is written on one line or spread over several. -/
inductive Style where
  | compact
  | pretty
  deriving DecidableEq, Repr

/-- What stands before an item at a given depth. -/
def Style.lineBreak : Style → Nat → List Char
  | compact, _ => []
  | pretty, depth => '\n' :: List.replicate (2 * depth) ' '

/-- What stands between the name and the value of a member. -/
def Style.colon : Style → List Char
  | compact => [':']
  | pretty => [':', ' ']

/-- Parts between brackets, each on a line of its own if the style is pretty.
Without parts the brackets close at once. -/
def bracketed (style : Style) (depth : Nat) (opening closing : Char)
    (parts : List (List Char)) : List Char :=
  if parts.isEmpty then
    [opening, closing]
  else
    opening ::
      List.intercalate [','] (parts.map (style.lineBreak (depth + 1) ++ ·)) ++
        style.lineBreak depth ++ [closing]

mutual

/-- The text of a datum at a given depth. -/
def Datum.write (style : Style) (depth : Nat) : Datum → List Char
  | .count value => Nat.toDigits 10 value
  | .text value => quoted value
  | .choice name => quoted name
  | .list items => bracketed style depth '[' ']' (writeItems style (depth + 1) items)
  | .record fields => bracketed style depth '\x7b' '\x7d' (writeFields style (depth + 1) fields)

def Datum.writeItems (style : Style) (depth : Nat) : List Datum → List (List Char)
  | [] => []
  | item :: rest => item.write style depth :: writeItems style depth rest

def Datum.writeFields (style : Style) (depth : Nat) : List (String × Datum) → List (List Char)
  | [] => []
  | (name, value) :: rest =>
    (quoted name ++ style.colon ++ value.write style depth) :: writeFields style depth rest

end

end HexChart.Json
