import HexChart.Proofs.Truncation
import Mathlib.Data.List.TakeWhile

/-!
# Reading looks no further

Reading goes from left to right and never looks at what stands behind that which it
takes.  What is taken from a text is therefore taken from every longer one, and the text
that is left is longer by as much.  Only a number ends where the text ends, so there the
text that comes must not go on with one (`Apart`); behind every bracket and every quote
anything may come.
-/

namespace HexChart.Json

section Outcomes

variable {α β : Type} {outcome : Except Fault α}

theorem bind_eq_ok {next : α → Except Fault β} {value : β} (hbind : outcome >>= next = .ok value) :
    ∃ first, outcome = .ok first ∧ next first = .ok value := by
  cases outcome with
  | error fault => cases hbind
  | ok first => exact ⟨first, rfl, hbind⟩

theorem map_eq_ok {change : α → β} {value : β} (hmap : outcome.map change = .ok value) :
    ∃ first, outcome = .ok first ∧ change first = value := by
  cases outcome with
  | error fault => cases hmap
  | ok first => exact ⟨first, rfl, Except.ok.inj hmap⟩

end Outcomes

/-- What comes behind the rest of a text does not go on with what was read before it. -/
def Apart (rest more : List Char) : Prop :=
  rest = [] → Ends more

theorem apart_of_ne_nil {rest : List Char} (hne : rest ≠ []) (more : List Char) :
    Apart rest more :=
  fun hnil => absurd hnil hne

theorem skipSpace_more {character : Char} {text rest : List Char}
    (hspace : skipSpace text = character :: rest) (more : List Char) :
    skipSpace (text ++ more) = character :: (rest ++ more) := by
  rw [skipSpace] at hspace ⊢
  rw [List.dropWhile_append, hspace]
  rfl

theorem expectWord_more {word text rest : List Char} (hread : expectWord word text = .ok rest)
    (more : List Char) : expectWord word (text ++ more) = .ok (rest ++ more) := by
  induction word generalizing text with
  | nil =>
    rw [expectWord, Except.ok.injEq] at hread
    rw [expectWord, hread]
  | cons letter word ih =>
    cases text with
    | nil => cases hread
    | cons character text =>
      rw [expectWord] at hread
      split at hread
      · next heq =>
        rw [List.cons_append, expectWord, if_pos heq, ih hread]
      · cases hread

theorem expectColon_more {text rest : List Char} (hread : expectColon text = .ok rest)
    (more : List Char) : expectColon (text ++ more) = .ok (rest ++ more) := by
  unfold expectColon at hread
  split at hread
  · cases hread
  · next hspace =>
    cases hread
    rw [expectColon, skipSpace_more hspace]
    rfl
  · cases hread

/-- A turn with more text behind it. -/
def Turn.append : Turn → List Char → Turn
  | .close rest, more => .close (rest ++ more)
  | .item text, more => .item (text ++ more)

theorem nextTurn_more {closing : Char} {first : Bool} {text : List Char} {turn : Turn}
    (hturn : nextTurn closing first text = .ok turn) (more : List Char) :
    nextTurn closing first (text ++ more) = .ok (turn.append more) := by
  unfold nextTurn at hturn
  split at hturn
  · cases hturn
  · next character rest hspace =>
    rw [nextTurn, skipSpace_more hspace]
    split at hturn
    · next hclosing =>
      cases hturn
      simp [hclosing, Turn.append]
    · next hclosing =>
      split at hturn
      · next hfirst =>
        cases hturn
        simp [hclosing, hfirst, Turn.append]
      · next hfirst =>
        split at hturn
        · next hcomma =>
          split at hturn
          · cases hturn
          · next other others hspace =>
            split at hturn
            · cases hturn
            · next hother =>
              cases hturn
              simp [hcomma, hcomma ▸ hclosing, hfirst, skipSpace_more hspace, hother, Turn.append]
        · cases hturn

/-! ## Numbers -/

namespace Literal

variable {text rest more : List Char}

/-- Taking digits cuts the text behind the last of them. -/
theorem readDigits_eq_ok {digits : List Char} (hread : readDigits text = .ok (digits, rest)) :
    text = digits ++ rest ∧ digits ≠ [] ∧ (∀ digit ∈ digits, digit.isDigit = true) ∧
      Stops rest := by
  have hstops : Stops (text.dropWhile Char.isDigit) := by
    have hhead := List.head?_dropWhile_not Char.isDigit text
    intro character hmem
    rw [Option.mem_def.mp hmem] at hhead
    exact hhead
  unfold readDigits at hread
  split at hread
  · cases hread
  · cases hread
  · next hne _ =>
    cases hread
    exact ⟨List.takeWhile_append_dropWhile.symm, fun hnil => by simp_all,
      fun _ hmem => List.mem_takeWhile_imp hmem, hstops⟩

theorem readDigits_more {digits : List Char} (hread : readDigits text = .ok (digits, rest))
    (hapart : Apart rest more) : readDigits (text ++ more) = .ok (digits, rest ++ more) := by
  obtain ⟨rfl, hne, hdigits, hstops⟩ := readDigits_eq_ok hread
  have hlonger : Stops (rest ++ more) := by
    cases rest with
    | nil => exact (hapart rfl).stops
    | cons character rest => exact stops_cons.mpr (stops_cons.mp hstops)
  rw [List.append_assoc]
  exact readDigits_append hdigits hne hlonger

theorem readWhole_eq_ok {digits : List Char} :
    readWhole text = .ok (digits, rest) ↔
      readDigits text = .ok (digits, rest) ∧ ∀ next more, digits ≠ '0' :: next :: more := by
  unfold readWhole
  split
  · next hread =>
    simp only [hread, reduceCtorEq, false_iff, not_and]
    rintro ⟨⟩ hdigits
    exact hdigits _ _ rfl
  · next hother =>
    refine ⟨fun hread => ⟨hread, ?_⟩, And.left⟩
    rintro next more rfl
    exact hother _ _ _ hread

theorem readWhole_more {digits : List Char} (hread : readWhole text = .ok (digits, rest))
    (hapart : Apart rest more) : readWhole (text ++ more) = .ok (digits, rest ++ more) := by
  obtain ⟨hread, hdigits⟩ := readWhole_eq_ok.mp hread
  exact readWhole_eq_ok.mpr ⟨readDigits_more hread hapart, hdigits⟩

theorem readFraction_more {fraction : Option (List Char)}
    (hread : readFraction text = .ok (fraction, rest)) (hapart : Apart rest more) :
    readFraction (text ++ more) = .ok (fraction, rest ++ more) := by
  unfold readFraction at hread
  split at hread
  · obtain ⟨⟨digits, rest⟩, hdigits, heq⟩ := map_eq_ok hread
    cases heq
    rw [List.cons_append, readFraction, readDigits_more hdigits hapart]
    rfl
  · next hpoint =>
    cases hread
    cases text with
    | nil => exact readFraction_of_ends (hapart rfl)
    | cons character text =>
      rw [List.cons_append, readFraction]
      rintro rest ⟨⟩
      exact hpoint _ rfl

theorem readSign_more {sign : Bool} (hread : readSign text = (sign, rest)) (hne : text ≠ []) :
    readSign (text ++ more) = (sign, rest ++ more) := by
  unfold readSign at hread
  split at hread
  · cases hread
    rfl
  · cases hread
    rfl
  · next hplus hminus =>
    cases hread
    cases text with
    | nil => exact absurd rfl hne
    | cons character text =>
      rw [List.cons_append, readSign]
      · rintro rest ⟨⟩
        exact hplus _ rfl
      · rintro rest ⟨⟩
        exact hminus _ rfl

theorem readExponent_more {exponent : Option (Bool × List Char)}
    (hread : readExponent text = .ok (exponent, rest)) (hapart : Apart rest more) :
    readExponent (text ++ more) = .ok (exponent, rest ++ more) := by
  cases text with
  | nil =>
    cases hread
    exact readExponent_of_ends (hapart rfl)
  | cons character text =>
    rw [readExponent] at hread
    rw [List.cons_append, readExponent]
    split at hread
    · next hletter =>
      rw [if_pos hletter]
      obtain ⟨⟨digits, rest⟩, hdigits, heq⟩ := map_eq_ok hread
      cases heq
      have hne : text ≠ [] := by
        rintro rfl
        cases hdigits
      simp only [readSign_more rfl hne, readDigits_more hdigits hapart]
      rfl
    · next hletter =>
      cases hread
      rw [if_neg hletter]
      rfl

/-- Takes a literal without its sign from the front of a text. -/
def readUnsigned (negative : Bool) (text : List Char) : Except Fault (Literal × List Char) := do
  let (whole, text) ← readWhole text
  let (fraction, text) ← readFraction text
  let (exponent, text) ← readExponent text
  return (⟨negative, whole, fraction, exponent⟩, text)

theorem read_minus (text : List Char) : read ('-' :: text) = readUnsigned true text := rfl

theorem read_of_ne_minus (hminus : ∀ unsigned, text ≠ '-' :: unsigned) :
    read text = readUnsigned false text := by
  rw [read]
  · rfl
  · exact hminus

theorem readUnsigned_more {negative : Bool} {literal : Literal}
    (hread : readUnsigned negative text = .ok (literal, rest)) (hapart : Apart rest more) :
    readUnsigned negative (text ++ more) = .ok (literal, rest ++ more) := by
  obtain ⟨⟨whole, behind⟩, hwhole, hread⟩ := bind_eq_ok hread
  obtain ⟨⟨fraction, last⟩, hfraction, hread⟩ := bind_eq_ok hread
  obtain ⟨⟨exponent, final⟩, hexponent, hread⟩ := bind_eq_ok hread
  cases hread
  have hlast : Apart last more := by
    rintro rfl
    cases hexponent
    exact hapart rfl
  have hbehind : Apart behind more := by
    rintro rfl
    cases hfraction
    exact hlast rfl
  rw [readUnsigned, readWhole_more hwhole hbehind]
  simp [readFraction_more hfraction hlast, readExponent_more hexponent hapart, bind, Except.bind,
    pure, Except.pure]

theorem read_more {literal : Literal} (hread : read text = .ok (literal, rest))
    (hapart : Apart rest more) : read (text ++ more) = .ok (literal, rest ++ more) := by
  by_cases hminus : ∃ unsigned, text = '-' :: unsigned
  · obtain ⟨unsigned, rfl⟩ := hminus
    rw [read_minus] at hread
    rw [List.cons_append, read_minus, readUnsigned_more hread hapart]
  · have hplain : ∀ unsigned, text ≠ '-' :: unsigned := not_exists.mp hminus
    have hlonger : ∀ unsigned, text ++ more ≠ '-' :: unsigned := by
      cases text with
      | nil => cases hread
      | cons character text =>
        rintro unsigned ⟨⟩
        exact hplain text rfl
    rw [read_of_ne_minus hplain] at hread
    rw [read_of_ne_minus hlonger, readUnsigned_more hread hapart]

end Literal

theorem readNumber_more {text rest more : List Char} {number : Number}
    (hread : readNumber text = .ok (number, rest)) (hapart : Apart rest more) :
    readNumber (text ++ more) = .ok (number, rest ++ more) := by
  obtain ⟨⟨literal, behind⟩, hliteral, hread⟩ := bind_eq_ok hread
  obtain ⟨value, hvalue, hread⟩ := bind_eq_ok hread
  cases hread
  rw [readNumber, Literal.read_more hliteral hapart]
  simp [hvalue, bind, Except.bind, pure, Except.pure]

/-! ## Strings -/

section Strings

variable {text rest : List Char} {character : Char}

theorem readUnit_more {unit : Nat} (hread : readUnit text = .ok (unit, rest))
    (more : List Char) : readUnit (text ++ more) = .ok (unit, rest ++ more) := by
  unfold readUnit at hread
  split at hread
  · split at hread
    · next hunit =>
      cases hread
      simp [readUnit, hunit]
    · cases hread
  · split at hread <;> cases hread

theorem readTrailing_more {leading : Nat}
    (hread : readTrailing leading text = .ok (character, rest)) (more : List Char) :
    readTrailing leading (text ++ more) = .ok (character, rest ++ more) := by
  unfold readTrailing at hread
  split at hread
  · cases hread
  · cases hread
  · split at hread
    · next hunit =>
      split at hread
      · next htrailing =>
        rw [Except.ok.injEq, Prod.mk.injEq] at hread
        obtain ⟨rfl, rfl⟩ := hread
        simp [readTrailing, readUnit_more hunit, htrailing]
      · cases hread
    · cases hread
  · cases hread

theorem readEscape_more (hread : readEscape text = .ok (character, rest)) (more : List Char) :
    readEscape (text ++ more) = .ok (character, rest ++ more) := by
  unfold readEscape at hread
  split at hread
  · cases hread
  · split at hread
    · next hunit =>
      split at hread
      · cases hread
      · next htrailing =>
        split at hread
        · next hleading =>
          simp [readEscape, readUnit_more hunit, htrailing, hleading, readTrailing_more hread]
        · next hleading =>
          rw [Except.ok.injEq, Prod.mk.injEq] at hread
          obtain ⟨rfl, rfl⟩ := hread
          simp [readEscape, readUnit_more hunit, htrailing, hleading]
    · cases hread
  · next hletter =>
    split at hread
    · next hescape =>
      cases hread
      rw [List.cons_append, readEscape, hescape]
      exact hletter
    · cases hread

theorem readQuoted_more {characters : List Char} (hread : readQuoted text = .ok (characters, rest))
    (more : List Char) : readQuoted (text ++ more) = .ok (characters, rest ++ more) := by
  fun_induction readQuoted text generalizing characters with
  | case1 => cases hread
  | case2 behind =>
    cases hread
    rw [List.cons_append, readQuoted]
  | case3 behind first later hescape _ ih =>
    obtain ⟨⟨others, final⟩, hothers, heq⟩ := bind_eq_ok hread
    cases heq
    rw [List.cons_append, readQuoted_backslash (readEscape_more hescape more), ih hothers]
    rfl
  | case4 => cases hread
  | case5 => cases hread
  | case6 character behind hquote hslash hcontrol ih =>
    obtain ⟨⟨others, final⟩, hothers, heq⟩ := bind_eq_ok hread
    cases heq
    rw [List.cons_append, readQuoted_plain hquote hslash hcontrol, ih hothers]
    rfl

theorem skipQuoted_plain (hquote : character ≠ '"') (hslash : character ≠ '\\')
    (hcontrol : ¬character.toNat < 0x20) :
    skipQuoted (character :: text) = skipQuoted text := by
  rw [skipQuoted, if_neg hcontrol]
  · exact hquote
  · exact fun heq _ => hslash heq
  · exact fun _ heq _ => hslash heq
  · exact fun _ _ heq _ => hslash heq

theorem skipQuoted_more (hread : skipQuoted text = .ok rest) (more : List Char) :
    skipQuoted (text ++ more) = .ok (rest ++ more) := by
  fun_induction skipQuoted text with
  | case1 => cases hread
  | case2 behind =>
    cases hread
    rfl
  | case3 => cases hread
  | case4 behind outcome hunit ih =>
    rw [List.cons_append, List.cons_append, skipQuoted, readUnit_more hunit, ih hread]
  | case5 => cases hread
  | case6 letter behind hletter hknown ih =>
    rw [List.cons_append, List.cons_append, skipQuoted, if_pos hknown, ih hread]
    exact hletter
  | case7 => cases hread
  | case8 => cases hread
  | case9 character behind hquote hlone hunit hletter hcontrol ih =>
    have hslash : character ≠ '\\' := by
      intro heq
      cases behind with
      | nil => exact hlone heq rfl
      | cons letter behind => exact hletter letter behind heq rfl
    rw [List.cons_append, skipQuoted_plain hquote hslash hcontrol, ih hread]

end Strings

/-! ## Values that are passed over -/

theorem skipNumber_more {text rest more : List Char} (hread : skipNumber text = .ok rest)
    (hapart : Apart rest more) : skipNumber (text ++ more) = .ok (rest ++ more) := by
  unfold skipNumber at hread
  split at hread
  · next hliteral =>
    cases hread
    rw [skipNumber, Literal.read_more hliteral hapart]
  · cases hread

section Entering

variable {bound : Nat} {character : Char} {text rest behind : List Char}

theorem skipValueWithin_number (hspace : skipSpace text = character :: rest)
    (hstarts : Literal.startsWith character = true) :
    skipValueWithin (bound + 1) text = skipNumber (character :: rest) := by
  rw [skipValueWithin, hspace]
  split <;> rename_i heq <;> cases heq
  case h_8 => rw [if_pos hstarts]
  all_goals exact absurd hstarts (by decide)

theorem skipValueWithin_items (hspace : skipSpace text = '[' :: rest)
    (hrest : skipSpace rest = character :: behind) (hclosing : character ≠ ']') :
    skipValueWithin (bound + 1) text = skipItemsWithin bound (character :: behind) := by
  rw [skipValueWithin, hspace]
  simp [hrest, hclosing]

theorem skipValueWithin_members (hspace : skipSpace text = '\x7b' :: rest)
    (hrest : skipSpace rest = character :: behind) (hclosing : character ≠ '\x7d') :
    skipValueWithin (bound + 1) text = skipMembersWithin bound (character :: behind) := by
  rw [skipValueWithin, hspace]
  simp [hrest, hclosing]

end Entering

/-- What is passed over within a bound is passed over within every larger one. -/
structure SkipsMore (bound : Nat) : Prop where
  value : ∀ {larger text rest more}, bound ≤ larger → skipValueWithin bound text = .ok rest →
    Apart rest more → skipValueWithin larger (text ++ more) = .ok (rest ++ more)
  items : ∀ {larger text rest more}, bound ≤ larger → skipItemsWithin bound text = .ok rest →
    skipItemsWithin larger (text ++ more) = .ok (rest ++ more)
  members : ∀ {larger text rest more}, bound ≤ larger → skipMembersWithin bound text = .ok rest →
    skipMembersWithin larger (text ++ more) = .ok (rest ++ more)

namespace SkipsMore

variable {bound larger : Nat} {text rest more : List Char}

theorem value_succ (hbound : SkipsMore bound) (hle : bound ≤ larger)
    (hread : skipValueWithin (bound + 1) text = .ok rest) (hapart : Apart rest more) :
    skipValueWithin (larger + 1) (text ++ more) = .ok (rest ++ more) := by
  have hentered := hread
  rw [skipValueWithin] at hread
  split at hread
  · cases hread
  · next hspace =>
    rw [skipValueWithin, skipSpace_more hspace]
    exact skipQuoted_more hread more
  · next behind hspace =>
    cases hitems : skipSpace behind with
    | nil => simp [hitems] at hread
    | cons character others =>
      by_cases hclosing : character = ']'
      · subst hclosing
        simp only [hitems] at hread
        cases hread
        rw [skipValueWithin, skipSpace_more hspace]
        simp [skipSpace_more hitems]
      · rw [skipValueWithin_items hspace hitems hclosing] at hentered
        rw [skipValueWithin_items (skipSpace_more hspace more) (skipSpace_more hitems more) hclosing]
        exact hbound.items hle hentered
  · next behind hspace =>
    cases hmembers : skipSpace behind with
    | nil => simp [hmembers] at hread
    | cons character others =>
      by_cases hclosing : character = '\x7d'
      · subst hclosing
        simp only [hmembers] at hread
        cases hread
        rw [skipValueWithin, skipSpace_more hspace]
        simp [skipSpace_more hmembers]
      · rw [skipValueWithin_members hspace hmembers hclosing] at hentered
        rw [skipValueWithin_members (skipSpace_more hspace more) (skipSpace_more hmembers more)
          hclosing]
        exact hbound.members hle hentered
  · next hspace =>
    rw [skipValueWithin, skipSpace_more hspace]
    exact expectWord_more hread more
  · next hspace =>
    rw [skipValueWithin, skipSpace_more hspace]
    exact expectWord_more hread more
  · next hspace =>
    rw [skipValueWithin, skipSpace_more hspace]
    exact expectWord_more hread more
  · next hspace =>
    split at hread
    · next hnumber =>
      rw [skipValueWithin_number (skipSpace_more hspace more) hnumber]
      exact skipNumber_more hread hapart
    · cases hread

theorem items_succ (hbound : SkipsMore bound) (hle : bound ≤ larger)
    (hread : skipItemsWithin (bound + 1) text = .ok rest) :
    skipItemsWithin (larger + 1) (text ++ more) = .ok (rest ++ more) := by
  rw [skipItemsWithin] at hread
  split at hread
  · cases hread
  · next behind hvalue =>
    cases hspace : skipSpace behind with
    | nil => simp [hspace] at hread
    | cons character others =>
      have hne : behind ≠ [] := by
        rintro rfl
        cases hspace
      rw [skipItemsWithin, hbound.value hle hvalue (apart_of_ne_nil hne more)]
      simp only [skipSpace_more hspace]
      simp only [hspace] at hread
      split at hread
      · cases hread
      · next heq =>
        cases heq
        cases hread
        rfl
      · next heq =>
        cases heq
        exact hbound.items hle hread
      · cases hread

theorem members_succ (hbound : SkipsMore bound) (hle : bound ≤ larger)
    (hread : skipMembersWithin (bound + 1) text = .ok rest) :
    skipMembersWithin (larger + 1) (text ++ more) = .ok (rest ++ more) := by
  rw [skipMembersWithin] at hread
  split at hread
  · cases hread
  · next hquote =>
    split at hread
    · cases hread
    · next hname =>
      split at hread
      · cases hread
      · next hcolon =>
        split at hread
        · cases hread
        · next behind hvalue =>
          cases hspace : skipSpace behind with
          | nil => simp [hspace] at hread
          | cons character others =>
            have hne : behind ≠ [] := by
              rintro rfl
              cases hspace
            rw [skipMembersWithin, skipSpace_more hquote]
            simp only [skipQuoted_more hname, skipSpace_more hcolon,
              hbound.value hle hvalue (apart_of_ne_nil hne more), skipSpace_more hspace]
            simp only [hspace] at hread
            split at hread
            · cases hread
            · next heq =>
              cases heq
              cases hread
              rfl
            · next heq =>
              cases heq
              exact hbound.members hle hread
            · cases hread
      · cases hread
  · cases hread

end SkipsMore

theorem skipsMore (bound : Nat) : SkipsMore bound := by
  induction bound with
  | zero =>
    refine ⟨?_, ?_, ?_⟩
    · intro larger text rest more _ hread _
      cases hread
    · intro larger text rest more _ hread
      cases hread
    · intro larger text rest more _ hread
      cases hread
  | succ bound ih =>
    refine ⟨?_, ?_, ?_⟩
    · intro larger text rest more hle hread hapart
      obtain ⟨larger, rfl⟩ := Nat.exists_eq_add_one.mpr (Nat.lt_of_lt_of_le bound.succ_pos hle)
      exact ih.value_succ (Nat.le_of_succ_le_succ hle) hread hapart
    · intro larger text rest more hle hread
      obtain ⟨larger, rfl⟩ := Nat.exists_eq_add_one.mpr (Nat.lt_of_lt_of_le bound.succ_pos hle)
      exact ih.items_succ (Nat.le_of_succ_le_succ hle) hread
    · intro larger text rest more hle hread
      obtain ⟨larger, rfl⟩ := Nat.exists_eq_add_one.mpr (Nat.lt_of_lt_of_le bound.succ_pos hle)
      exact ih.members_succ (Nat.le_of_succ_le_succ hle) hread

theorem skipValue_more {text rest more : List Char} (hread : skipValue text = .ok rest)
    (hapart : Apart rest more) : skipValue (text ++ more) = .ok (rest ++ more) := by
  apply (skipsMore _).value _ hread hapart
  rw [List.length_append]
  omega

end HexChart.Json
