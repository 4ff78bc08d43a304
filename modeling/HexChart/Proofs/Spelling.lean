import HexChart.Json.Datum
import HexChart.Proofs.Numeral
import Mathlib.Data.List.Forall2

/-!
# Spellings of a datum

JSON leaves many choices to its writer: spaces between tokens, escapes in strings, a
record as an object or as an array of its fields, a name as a string or as an object with
this one member.  Every text that these choices allow is a spelling of the datum.  The
two texts that this library writes, the compact one and the one spread over lines, are
spellings (`spelled_write`), and every spelling begins with a character that tells it
from a closing bracket (`opens_of_spelled`).
-/

namespace HexChart.Json

/-- Any number of characters that may stand between tokens. -/
def Blank (gap : List Char) : Prop :=
  ∀ character ∈ gap, isSpace character = true

theorem blank_nil : Blank [] := by
  simp [Blank]

/-- The ways in which a character may be written inside a string. -/
inductive SpelledChar : Char → List Char → Prop
  /-- As itself. -/
  | plain {character : Char} (hquote : character ≠ '"') (hslash : character ≠ '\\')
    (hcontrol : ¬character.toNat < 0x20) : SpelledChar character [character]
  /-- By the letter of an escape. -/
  | letter {letter character : Char} (hletter : unescape? letter = some character) :
    SpelledChar character ['\\', letter]
  /-- By four hexadecimal digits. -/
  | unit {character first second third fourth : Char}
    (hunit : hexUnit? first second third fourth = some character.toNat) :
    SpelledChar character ['\\', 'u', first, second, third, fourth]
  /-- By a pair of surrogates, each of four hexadecimal digits. -/
  | pair {character first second third fourth fifth sixth seventh eighth : Char}
    {leading trailing : Nat}
    (hleading : hexUnit? first second third fourth = some leading)
    (htrailing : hexUnit? fifth sixth seventh eighth = some trailing)
    (hfirst : isLeading leading = true) (hsecond : isTrailing trailing = true)
    (hcharacter :
      character.toNat = 0x10000 + 0x400 * (leading - 0xd800) + (trailing - 0xdc00)) :
    SpelledChar character ['\\', 'u', first, second, third, fourth, '\\', 'u', fifth, sixth,
      seventh, eighth]

/-- A string between its quotes. -/
def SpelledString (value : String) (text : List Char) : Prop :=
  ∃ pieces, List.Forall₂ SpelledChar value.toList pieces ∧ text = '"' :: pieces.flatten ++ ['"']

/-- The name of a member with its colon. -/
def SpelledName (name : String) (text : List Char) : Prop :=
  ∃ quoted before after, SpelledString name quoted ∧ Blank before ∧ Blank after ∧
    text = quoted ++ before ++ ':' :: after

/-- What stands before a part between brackets: a comma, unless it is the first. -/
inductive Separator : Bool → List Char → Prop
  | first {gap : List Char} (hgap : Blank gap) : Separator true gap
  | next {before after : List Char} (hbefore : Blank before) (hafter : Blank after) :
    Separator false (before ++ ',' :: after)

/-- Parts with their separators, up to and with the closing bracket. -/
inductive Enclosed (closing : Char) : Bool → List (List Char) → List Char → Prop
  | close {first : Bool} {gap : List Char} (hgap : Blank gap) :
    Enclosed closing first [] (gap ++ [closing])
  | part {first : Bool} {separator part text : List Char} {parts : List (List Char)}
    (hseparator : Separator first separator) (hrest : Enclosed closing false parts text) :
    Enclosed closing first (part :: parts) (separator ++ part ++ text)

/-- Every part takes at least one character, a comma or the closing bracket. -/
theorem Enclosed.length_le {closing : Char} {first : Bool} {parts : List (List Char)}
    {text : List Char} (htext : Enclosed closing first parts text) :
    parts.length ≤ text.length := by
  have hlater : ∀ {first : Bool} {parts : List (List Char)} {text : List Char},
      Enclosed closing first parts text → first = false → parts.length < text.length := by
    intro first parts text htext
    induction htext with
    | close => simp
    | part hseparator _ ih =>
      rintro rfl
      cases hseparator with
      | next =>
        have hrest := ih rfl
        simp only [List.length_cons, List.length_append]
        omega
  cases htext with
  | close => simp
  | part _ hrest =>
    have hlength := hlater hrest rfl
    simp only [List.length_cons, List.length_append]
    omega

/-- The bound within which the parts of a text are read is large enough for them. -/
theorem Enclosed.length_lt {closing : Char} {first : Bool} {parts : List (List Char)}
    {text : List Char} (htext : Enclosed closing first parts text) (rest : List Char) :
    parts.length < (text ++ rest).length + 1 := by
  have hlength := htext.length_le
  rw [List.length_append]
  omega

/-- The texts that say a datum. -/
inductive Datum.Spelled : Datum → List Char → Prop
  | count (value : Nat) : Spelled (.count value) (Nat.toDigits 10 value)
  | text {value : String} {text : List Char} (htext : SpelledString value text) :
    Spelled (.text value) text
  | choice {name : String} {text : List Char} (htext : SpelledString name text) :
    Spelled (.choice name) text
  /-- A name as an object with one member, which is null. -/
  | member {name : String} {key text : List Char} (hkey : SpelledName name key)
    (henclosed : Enclosed '\x7d' true [key ++ ['n', 'u', 'l', 'l']] text) :
    Spelled (.choice name) ('\x7b' :: text)
  | list {items : List Datum} {parts : List (List Char)} {text : List Char}
    (hparts : List.Forall₂ Spelled items parts) (henclosed : Enclosed ']' true parts text) :
    Spelled (.list items) ('[' :: text)
  /-- A record as the array of its fields in their order. -/
  | array {fields : List (String × Datum)} {parts : List (List Char)} {text : List Char}
    (hparts : List.Forall₂ (fun field part => Spelled field.2 part) fields parts)
    (henclosed : Enclosed ']' true parts text) : Spelled (.record fields) ('[' :: text)
  | object {fields : List (String × Datum)} {keys parts : List (List Char)} {text : List Char}
    (hkeys : List.Forall₂ (fun field key => SpelledName field.1 key) fields keys)
    (hparts : List.Forall₂ (fun field part => Spelled field.2 part) fields parts)
    (henclosed : Enclosed '\x7d' true (List.zipWith (· ++ ·) keys parts) text) :
    Spelled (.record fields) ('\x7b' :: text)

/-! ## How a spelling begins -/

/-- A text that begins with a character that is neither a space nor a closing bracket. -/
def Opens (text : List Char) : Prop :=
  ∃ character rest, text = character :: rest ∧ isSpace character = false ∧
    character ≠ ']' ∧ character ≠ '\x7d'

theorem Opens.append {text : List Char} (hopens : Opens text) (rest : List Char) :
    Opens (text ++ rest) := by
  obtain ⟨character, more, rfl, hopens⟩ := hopens
  exact ⟨character, more ++ rest, rfl, hopens⟩

theorem isSpace_of_isDigit {digit : Char} (hdigit : digit.isDigit = true) :
    isSpace digit = false := by
  rw [Bool.eq_false_iff]
  intro hspace
  simp only [isSpace, Bool.or_eq_true, beq_iff_eq] at hspace
  rcases hspace with ((rfl | rfl) | rfl) | rfl <;> exact absurd hdigit (by decide)

theorem opens_of_isDigit {digit : Char} (hdigit : digit.isDigit = true) (rest : List Char) :
    Opens (digit :: rest) := by
  refine ⟨digit, rest, rfl, isSpace_of_isDigit hdigit, ?_, ?_⟩
  · rintro rfl
    exact absurd hdigit (by decide)
  · rintro rfl
    exact absurd hdigit (by decide)

theorem opens_of_spelledString {value : String} {text : List Char}
    (htext : SpelledString value text) : Opens text := by
  obtain ⟨pieces, _, rfl⟩ := htext
  exact ⟨'"', _, rfl, rfl, by decide, by decide⟩

theorem opens_of_spelledName {name : String} {text : List Char}
    (htext : SpelledName name text) : Opens text := by
  obtain ⟨_, before, after, hquoted, _, _, rfl⟩ := htext
  exact ((opens_of_spelledString hquoted).append before).append (':' :: after)

theorem opens_of_spelled {datum : Datum} {text : List Char} (htext : datum.Spelled text) :
    Opens text := by
  cases htext with
  | count value =>
    obtain ⟨digit, digits, hdigits, hdigit⟩ := exists_toDigits_eq_cons value
    rw [hdigits]
    exact opens_of_isDigit hdigit digits
  | text htext => exact opens_of_spelledString htext
  | choice htext => exact opens_of_spelledString htext
  | member => exact ⟨'\x7b', _, rfl, rfl, by decide, by decide⟩
  | list => exact ⟨'[', _, rfl, rfl, by decide, by decide⟩
  | array => exact ⟨'[', _, rfl, rfl, by decide, by decide⟩
  | object => exact ⟨'\x7b', _, rfl, rfl, by decide, by decide⟩

/-! ## The written texts -/

theorem spelledChar_escape (character : Char) : SpelledChar character (escape character) := by
  unfold escape
  split
  case h_8 hquote hslash _ _ _ _ _ =>
    split
    · next hcontrol => exact .unit (hexUnit?_digitChar (by omega))
    · next hcontrol => exact .plain hquote hslash hcontrol
  all_goals exact .letter rfl

theorem spelledString_quoted (value : String) : SpelledString value (quoted value) := by
  refine ⟨value.toList.map escape, ?_, ?_⟩
  · rw [List.forall₂_map_right_iff, List.forall₂_same]
    exact fun character _ => spelledChar_escape character
  · rw [quoted, List.flatMap_def]

theorem blank_lineBreak (style : Style) (depth : Nat) : Blank (style.lineBreak depth) := by
  intro character hmem
  cases style with
  | compact => simp [Style.lineBreak] at hmem
  | pretty =>
    rw [Style.lineBreak, List.mem_cons, List.mem_replicate] at hmem
    rcases hmem with rfl | ⟨_, rfl⟩ <;> rfl

theorem spelledName_write (style : Style) (name : String) :
    SpelledName name (quoted name ++ style.colon) := by
  cases style with
  | compact =>
    exact ⟨quoted name, [], [], spelledString_quoted name, blank_nil, blank_nil,
      by simp [Style.colon]⟩
  | pretty =>
    exact ⟨quoted name, [], [' '], spelledString_quoted name, blank_nil, by simp [Blank, isSpace],
      by simp [Style.colon]⟩

theorem spelledNames_write (style : Style) (fields : List (String × Datum)) :
    List.Forall₂ (fun field key => SpelledName field.1 key) fields
      (fields.map fun field => quoted field.1 ++ style.colon) := by
  rw [List.forall₂_map_right_iff, List.forall₂_same]
  exact fun field _ => spelledName_write style field.1

/-- The text between brackets, part after part. -/
theorem bracketed_cons (style : Style) (depth : Nat) (opening closing : Char)
    (part : List Char) (parts : List (List Char)) :
    bracketed style depth opening closing (part :: parts) =
      opening :: (style.lineBreak (depth + 1) ++ part ++
        (parts.flatMap (fun part => ',' :: style.lineBreak (depth + 1) ++ part) ++
          style.lineBreak depth ++ [closing])) := by
  have hparts : ∀ first : List Char,
      List.intercalate [','] (first :: parts.map (style.lineBreak (depth + 1) ++ ·)) =
        first ++ parts.flatMap fun part => ',' :: style.lineBreak (depth + 1) ++ part := by
    induction parts with
    | nil => simp [List.intercalate]
    | cons part parts ih =>
      intro first
      rw [List.map_cons, List.intercalate_cons_cons, ih]
      simp
  simp [bracketed, hparts]

theorem enclosed_bracketed (style : Style) (depth : Nat) (opening closing : Char)
    (parts : List (List Char)) :
    ∃ text, bracketed style depth opening closing parts = opening :: text ∧
      Enclosed closing true parts text := by
  have hrest : ∀ parts : List (List Char), Enclosed closing false parts
      (parts.flatMap (fun part => ',' :: style.lineBreak (depth + 1) ++ part) ++
        style.lineBreak depth ++ [closing]) := by
    intro parts
    induction parts with
    | nil => exact .close (blank_lineBreak style depth)
    | cons part parts ih =>
      have hseparator : Separator false ([] ++ ',' :: style.lineBreak (depth + 1)) :=
        .next blank_nil (blank_lineBreak style (depth + 1))
      simpa using Enclosed.part hseparator ih
  cases parts with
  | nil => exact ⟨[closing], rfl, .close blank_nil⟩
  | cons part parts =>
    rw [bracketed_cons]
    exact ⟨_, rfl, .part (.first (blank_lineBreak style (depth + 1))) (hrest parts)⟩

/-- A member of an object: its name, a colon and its value. -/
def Datum.writeField (style : Style) (depth : Nat) (field : String × Datum) : List Char :=
  quoted field.1 ++ style.colon ++ field.2.write style depth

theorem Datum.writeFields_eq_map (style : Style) (depth : Nat) (fields : List (String × Datum)) :
    writeFields style depth fields = fields.map (writeField style depth) := by
  induction fields with
  | nil => rfl
  | cons field fields ih => rw [writeFields, ih, List.map_cons, writeField]

theorem writeFields_eq_zipWith (style : Style) (depth : Nat) (fields : List (String × Datum)) :
    Datum.writeFields style depth fields =
      List.zipWith (· ++ ·) (fields.map fun field => quoted field.1 ++ style.colon)
        (fields.map fun field => field.2.write style depth) := by
  rw [Datum.writeFields_eq_map, List.zipWith_map, List.zipWith_self]
  rfl

mutual

/-- What is written for a datum is one of its spellings. -/
theorem spelled_write (style : Style) (depth : Nat) :
    ∀ datum : Datum, datum.Spelled (datum.write style depth)
  | .count value => .count value
  | .text value => .text (spelledString_quoted value)
  | .choice name => .choice (spelledString_quoted name)
  | .list items => by
    obtain ⟨text, htext, henclosed⟩ := enclosed_bracketed style depth '[' ']'
      (Datum.writeItems style (depth + 1) items)
    rw [Datum.write, htext]
    exact .list (spelled_writeItems style (depth + 1) items) henclosed
  | .record fields => by
    obtain ⟨text, htext, henclosed⟩ := enclosed_bracketed style depth '\x7b' '\x7d'
      (Datum.writeFields style (depth + 1) fields)
    rw [Datum.write, htext]
    rw [writeFields_eq_zipWith] at henclosed
    exact .object (spelledNames_write style fields)
      (spelled_writeFields style (depth + 1) fields) henclosed

theorem spelled_writeItems (style : Style) (depth : Nat) :
    ∀ items : List Datum, List.Forall₂ Datum.Spelled items (Datum.writeItems style depth items)
  | [] => .nil
  | item :: rest => .cons (spelled_write style depth item) (spelled_writeItems style depth rest)

theorem spelled_writeFields (style : Style) (depth : Nat) :
    ∀ fields : List (String × Datum),
      List.Forall₂ (fun field part => field.2.Spelled part) fields
        (fields.map fun field => field.2.write style depth)
  | [] => .nil
  | (_, value) :: rest =>
    .cons (spelled_write style depth value) (spelled_writeFields style depth rest)

end

end HexChart.Json
