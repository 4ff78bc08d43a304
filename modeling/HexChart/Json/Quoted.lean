import HexChart.Json.Fault
import HexChart.Text.Hexadecimal

/-!
# JSON strings

A string is written between double quotes.  The quote, the backslash and the
control characters are escaped when a string is written; when it is read, any
character may be escaped, one beyond sixteen bits as a pair of surrogates.
Reading gives a string back from each of its spellings (`readQuoted_spelledString`
in `Proofs/Deciphering`), and the written one is among them
(`spelledString_quoted`).
-/

namespace HexChart.Json

/-- The four hexadecimal digits of a number below `2 ^ 16`. -/
def hexDigits (code : Nat) : List Char :=
  [code / 4096 % 16, code / 256 % 16, code / 16 % 16, code % 16].map Nat.digitChar

/-- A character as it is written inside a string. -/
def escape (character : Char) : List Char :=
  match character with
  | '"' => ['\\', '"']
  | '\\' => ['\\', '\\']
  | '\x08' => ['\\', 'b']
  | '\x0c' => ['\\', 'f']
  | '\n' => ['\\', 'n']
  | '\r' => ['\\', 'r']
  | '\t' => ['\\', 't']
  | _ =>
    if character.toNat < 0x20 then '\\' :: 'u' :: hexDigits character.toNat else [character]

def quoted (text : String) : List Char :=
  '"' :: text.toList.flatMap escape ++ ['"']

def unescape? : Char → Option Char
  | '"' => some '"'
  | '\\' => some '\\'
  | '/' => some '/'
  | 'b' => some '\x08'
  | 'f' => some '\x0c'
  | 'n' => some '\n'
  | 'r' => some '\r'
  | 't' => some '\t'
  | _ => none

def hexUnit? (first second third fourth : Char) : Option Nat :=
  match Text.hexValue? first, Text.hexValue? second, Text.hexValue? third,
    Text.hexValue? fourth with
  | some a, some b, some c, some d => some (4096 * a + 256 * b + 16 * c + d)
  | _, _, _, _ => none

/-- Takes four hexadecimal digits from the front of a text.  A text is too
short for them when it has fewer than four bytes. -/
def readUnit : List Char → Except Fault (Nat × List Char)
  | first :: second :: third :: fourth :: rest =>
    match hexUnit? first second third fourth with
    | some unit => .ok (unit, rest)
    | none => .error .malformed
  | few => if (String.ofList few).utf8ByteSize < 4 then .error .truncated else .error .malformed

/-- Whether a unit is the first half of a pair of surrogates. -/
def isLeading (unit : Nat) : Bool :=
  0xd800 ≤ unit && unit ≤ 0xdbff

/-- Whether a unit is the second half of a pair of surrogates. -/
def isTrailing (unit : Nat) : Bool :=
  0xdc00 ≤ unit && unit ≤ 0xdfff

/-- The character of a pair of surrogates. -/
def joinSurrogates (leading trailing : Nat) : Char :=
  Char.ofNat (0x10000 + 0x400 * (leading - 0xd800) + (trailing - 0xdc00))

/-- Reads the second half of a pair of surrogates. -/
def readTrailing (leading : Nat) : List Char → Except Fault (Char × List Char)
  | [] => .error .truncated
  | ['\\'] => .error .truncated
  | '\\' :: 'u' :: rest =>
    match readUnit rest with
    | .ok (unit, rest) =>
      if isTrailing unit then .ok (joinSurrogates leading unit, rest) else .error .malformed
    | .error fault => .error fault
  | _ => .error .malformed

def readEscape : List Char → Except Fault (Char × List Char)
  | [] => .error .truncated
  | 'u' :: rest =>
    match readUnit rest with
    | .ok (unit, rest) =>
      if isTrailing unit then .error .malformed
      else if isLeading unit then readTrailing unit rest
      else .ok (Char.ofNat unit, rest)
    | .error fault => .error fault
  | letter :: rest =>
    match unescape? letter with
    | some character => .ok (character, rest)
    | none => .error .malformed

theorem length_of_readUnit {text rest : List Char} {unit : Nat}
    (hread : readUnit text = .ok (unit, rest)) : rest.length < text.length := by
  unfold readUnit at hread
  split at hread
  · split at hread
    · simp_all only [Except.ok.injEq, Prod.mk.injEq, List.length_cons]
      omega
    · simp at hread
  · split at hread <;> simp at hread

theorem length_of_readTrailing {leading : Nat} {text rest : List Char} {character : Char}
    (hread : readTrailing leading text = .ok (character, rest)) :
    rest.length < text.length := by
  unfold readTrailing at hread
  split at hread
  · simp at hread
  · simp at hread
  · split at hread
    · next hunit =>
      split at hread
      · have hlength := length_of_readUnit hunit
        simp only [Except.ok.injEq, Prod.mk.injEq] at hread
        rw [← hread.2]
        simp only [List.length_cons]
        omega
      · simp at hread
    · simp at hread
  · simp at hread

/-- An escape takes at least one character. -/
theorem length_of_readEscape {text rest : List Char} {character : Char}
    (hread : readEscape text = .ok (character, rest)) : rest.length < text.length := by
  unfold readEscape at hread
  split at hread
  · simp at hread
  · split at hread
    · next hunit =>
      have hlength := length_of_readUnit hunit
      split at hread
      · simp at hread
      · split at hread
        · have htrailing := length_of_readTrailing hread
          simp only [List.length_cons]
          omega
        · simp only [Except.ok.injEq, Prod.mk.injEq] at hread
          rw [← hread.2]
          simp only [List.length_cons]
          omega
    · simp at hread
  · split at hread
    · simp only [Except.ok.injEq, Prod.mk.injEq] at hread
      simp [← hread.2]
    · simp at hread

/-- Reads the characters of a string after its opening quote, up to and with
its closing quote. -/
def readQuoted : Reader (List Char)
  | [] => .error .truncated
  | '"' :: rest => .ok ([], rest)
  | '\\' :: rest =>
    match hescape : readEscape rest with
    | .ok (character, more) => do
      have := length_of_readEscape hescape
      let (characters, rest) ← readQuoted more
      return (character :: characters, rest)
    | .error fault => .error fault
  | character :: rest =>
    if character.toNat < 0x20 then
      .error .malformed
    else do
      let (characters, rest) ← readQuoted rest
      return (character :: characters, rest)
termination_by text => text.length

theorem readQuoted_backslash {rest more : List Char} {character : Char}
    (hescape : readEscape rest = .ok (character, more)) :
    readQuoted ('\\' :: rest) =
      (readQuoted more).map fun (characters, rest) => (character :: characters, rest) := by
  rw [readQuoted]
  split
  · next heq =>
    rw [hescape] at heq
    simp only [Except.ok.injEq, Prod.mk.injEq] at heq
    obtain ⟨rfl, rfl⟩ := heq
    rfl
  · next heq =>
    rw [hescape] at heq
    cases heq

theorem readQuoted_plain {character : Char} {rest : List Char} (hquote : character ≠ '"')
    (hslash : character ≠ '\\') (hcontrol : ¬character.toNat < 0x20) :
    readQuoted (character :: rest) =
      (readQuoted rest).map fun (characters, rest) => (character :: characters, rest) := by
  rw [readQuoted.eq_4]
  · rw [if_neg hcontrol]
    rfl
  · exact hquote
  · exact hslash

theorem hexUnit?_digitChar {code : Nat} (hcode : code < 0x10000) :
    hexUnit? (Nat.digitChar (code / 4096 % 16)) (Nat.digitChar (code / 256 % 16))
      (Nat.digitChar (code / 16 % 16)) (Nat.digitChar (code % 16)) = some code := by
  have hdigit (value : Nat) :
      Text.hexValue? (Nat.digitChar (value % 16)) = some (value % 16) :=
    Text.hexValue?_digitChar ⟨value % 16, Nat.mod_lt _ (by decide)⟩
  simp only [hexUnit?, hdigit]
  congr 1
  omega

/-- Passes over a string after its opening quote.  Its escapes must be well
formed, but surrogates need not come in pairs. -/
def skipQuoted : List Char → Except Fault (List Char)
  | [] => .error .truncated
  | '"' :: rest => .ok rest
  | ['\\'] => .error .truncated
  | '\\' :: 'u' :: rest =>
    -- The digits are also plain characters, so passing over them again is safe.
    match readUnit rest with
    | .ok _ => skipQuoted rest
    | .error fault => .error fault
  | '\\' :: letter :: rest =>
    if (unescape? letter).isSome then skipQuoted rest else .error .malformed
  | character :: rest =>
    if character.toNat < 0x20 then .error .malformed else skipQuoted rest

end HexChart.Json
