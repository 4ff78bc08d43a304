import HexChart.Decimal.Shortest
import HexChart.Text.Quoted

/-!
# Faults of reading JSON

Reading goes from left to right and stops at the first fault.  A text may end
too early, it may not be JSON, or it may be JSON that says something other than
what was asked for.
-/

namespace HexChart.Json

/-- What stands where something else is wanted. -/
inductive Found where
  | null
  | boolean (value : Bool)
  | integer (value : Int)
  | floating (negative : Bool) (magnitude : Decimal.Binary64)
  | text (value : String)
  | sequence
  | map
  deriving DecidableEq, Repr

def Found.describe : Found → String
  | null => "null"
  | boolean value => "boolean `" ++ toString value ++ "`"
  | integer value => "integer `" ++ toString value ++ "`"
  | floating negative magnitude =>
    "floating point `" ++ Decimal.signedText negative magnitude ++ "`"
  | text value => "string " ++ Text.quote value
  | sequence => "sequence"
  | map => "map"

/-- How well-formed JSON can differ from what is wanted. -/
inductive Mismatch where
  | missingField (name : String)
  | duplicateField (name : String)
  | unknownName (name : String) (known : List String)
  | wrongType (found : Found) (wanted : String)
  | wrongValue (found : Found) (wanted : String)
  | tooShort (length : Nat) (wanted : String)
  deriving DecidableEq, Repr

def Mismatch.message : Mismatch → String
  | missingField name => "missing field `" ++ name ++ "`"
  | duplicateField name => "duplicate field `" ++ name ++ "`"
  | unknownName name known =>
    "unknown variant `" ++ name ++ "`, expected one of " ++
      String.intercalate ", " (known.map fun other => "`" ++ other ++ "`")
  | wrongType found wanted =>
    "invalid type: " ++ found.describe ++ ", expected " ++ wanted
  | wrongValue found wanted =>
    "invalid value: " ++ found.describe ++ ", expected " ++ wanted
  | tooShort length wanted =>
    "invalid length " ++ toString length ++ ", expected " ++ wanted

/-- Why a text cannot be read. -/
inductive Fault where
  /-- The text ends where more is needed. -/
  | truncated
  /-- The text is not JSON, or holds a number out of range. -/
  | malformed
  /-- The text says something other than what is wanted. -/
  | mismatch (reason : Mismatch)
  deriving DecidableEq, Repr

/-- A step of reading: it takes a value from the front of a text and returns it
with the rest. -/
abbrev Reader (α : Type) := List Char → Except Fault (α × List Char)

/-- The four characters that may stand between tokens. -/
def isSpace (character : Char) : Bool :=
  character == ' ' || character == '\t' || character == '\n' || character == '\r'

def skipSpace (text : List Char) : List Char :=
  text.dropWhile isSpace

/-- The text after the rest of a fixed word. -/
def expectWord : List Char → List Char → Except Fault (List Char)
  | [], text => .ok text
  | _ :: _, [] => .error .truncated
  | letter :: word, character :: text =>
    if character = letter then expectWord word text else .error .malformed

end HexChart.Json
