import HexChart.Json.Number
import HexChart.Json.Quoted

/-!
# Passing over a value

A member that nobody asked for is passed over, whatever it holds, as long as it
is well formed.  A number that is passed over may lie out of range, and one that
is broken off counts as malformed.
-/

namespace HexChart.Json

def skipNumber (text : List Char) : Except Fault (List Char) :=
  match Literal.read text with
  | .ok (_, rest) => .ok rest
  | .error _ => .error .malformed

mutual

/-- Passes over a value.  The first argument bounds the number of values and
members that are still entered. -/
def skipValueWithin : Nat → List Char → Except Fault (List Char)
  | 0, _ => .error .truncated
  | bound + 1, text =>
    match skipSpace text with
    | [] => .error .truncated
    | '"' :: rest => skipQuoted rest
    | '[' :: rest =>
      match skipSpace rest with
      | [] => .error .truncated
      | ']' :: rest => .ok rest
      | rest => skipItemsWithin bound rest
    | '\x7b' :: rest =>
      match skipSpace rest with
      | [] => .error .truncated
      | '\x7d' :: rest => .ok rest
      | rest => skipMembersWithin bound rest
    | 'n' :: rest => expectWord ['u', 'l', 'l'] rest
    | 't' :: rest => expectWord ['r', 'u', 'e'] rest
    | 'f' :: rest => expectWord ['a', 'l', 's', 'e'] rest
    | character :: rest =>
      if Literal.startsWith character then skipNumber (character :: rest)
      else .error .malformed

/-- Passes over the items of a list up to and with its closing bracket. -/
def skipItemsWithin : Nat → List Char → Except Fault (List Char)
  | 0, _ => .error .truncated
  | bound + 1, text =>
    match skipValueWithin bound text with
    | .error fault => .error fault
    | .ok rest =>
      match skipSpace rest with
      | [] => .error .truncated
      | ']' :: rest => .ok rest
      | ',' :: rest => skipItemsWithin bound rest
      | _ => .error .malformed

/-- Passes over the members of an object up to and with its closing brace. -/
def skipMembersWithin : Nat → List Char → Except Fault (List Char)
  | 0, _ => .error .truncated
  | bound + 1, text =>
    match skipSpace text with
    | [] => .error .truncated
    | '"' :: rest =>
      match skipQuoted rest with
      | .error fault => .error fault
      | .ok rest =>
        match skipSpace rest with
        | [] => .error .truncated
        | ':' :: rest =>
          match skipValueWithin bound rest with
          | .error fault => .error fault
          | .ok rest =>
            match skipSpace rest with
            | [] => .error .truncated
            | '\x7d' :: rest => .ok rest
            | ',' :: rest => skipMembersWithin bound rest
            | _ => .error .malformed
        | _ => .error .malformed
    | _ => .error .malformed

end

/-- Passes over a value.  Every value and member that is entered takes at least
one character, and each entry counts twice at most. -/
def skipValue (text : List Char) : Except Fault (List Char) :=
  skipValueWithin (2 * text.length + 1) text

end HexChart.Json
