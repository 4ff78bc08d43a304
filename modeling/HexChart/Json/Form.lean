import HexChart.Json.Reader

/-!
# Forms

The form of a type says how its values are written as data and read back.  A
text is decoded by the reader of the form, and a value is encoded as the text of
its datum.
-/

namespace HexChart.Json

/-- How the values of a type are written as data and read back. -/
structure Form (α : Type) where
  reader : Reader Datum
  toDatum : α → Datum
  ofDatum? : Datum → Option α

namespace Form

variable {α : Type}

def encode (form : Form α) (style : Style) (value : α) : String :=
  String.ofList ((form.toDatum value).write style 0)

/-- The value of a datum.  A reader answers only data of its own form. -/
def ofDatum (form : Form α) (datum : Datum) : Except Fault α :=
  match form.ofDatum? datum with
  | some value => .ok value
  | none => .error .malformed

def decode (form : Form α) (text : String) : Except Fault α :=
  (form.reader.whole text.toList).bind form.ofDatum

/-- The form of an enumeration, whose values are written as their names. -/
def ofNames (values : List α) (name : α → String) (ofName? : String → Option α) : Form α where
  reader := .choice (values.map name)
  toDatum value := .choice (name value)
  ofDatum?
    | .choice text => ofName? text
    | _ => none

end Form

end HexChart.Json
