import HexChart.Proofs.Deciphering
import Mathlib.Data.String.Basic

/-!
# Texts that are broken off

A text that is broken off before its end is never taken for a whole one.  A reader that
has followed a spelling so far comes to the end of the text and asks for more
(`Reader.Demands`).  Only a number may be broken off and still be one, but then the
number was all that the text had left (`Reader.Exhausts`), and what would have to close
the list or the record around it is missing.
-/

namespace HexChart.Json

/-- A text is the front part of a longer one. -/
def Cut (front text : List Char) : Prop :=
  ∃ back, back ≠ [] ∧ text = front ++ back

namespace Cut

variable {front left right text : List Char} {character : Char}

theorem not_nil (front : List Char) : ¬Cut front [] := by
  rintro ⟨back, hback, htext⟩
  exact hback (List.append_eq_nil_iff.mp htext.symm).2

theorem nil (hne : text ≠ []) : Cut [] text :=
  ⟨text, hne, rfl⟩

/-- A text of two parts is broken off in the one or in the other. -/
theorem append_cases (hcut : Cut front (left ++ right)) :
    Cut front left ∨ ∃ rest, front = left ++ rest ∧ Cut rest right := by
  obtain ⟨back, hback, htext⟩ := hcut
  rcases List.append_eq_append_iff.mp htext with ⟨middle, hfront, hright⟩ | ⟨middle, hleft, hrest⟩
  · exact .inr ⟨middle, hfront, back, hback, hright⟩
  · cases middle with
    | nil =>
      rw [List.nil_append] at hrest
      exact .inr ⟨[], by simpa using hleft.symm, nil (hrest ▸ hback)⟩
    | cons first middle => exact .inl ⟨first :: middle, by simp, hleft⟩

theorem cons_cases (hcut : Cut front (character :: text)) :
    front = [] ∨ ∃ rest, front = character :: rest ∧ Cut rest text := by
  obtain ⟨back, hback, htext⟩ := hcut
  cases front with
  | nil => exact .inl rfl
  | cons first front =>
    rw [List.cons_append, List.cons.injEq] at htext
    obtain ⟨rfl, hrest⟩ := htext
    exact .inr ⟨front, rfl, back, hback, hrest⟩

theorem length_lt (hcut : Cut front text) : front.length < text.length := by
  obtain ⟨back, hback, rfl⟩ := hcut
  have hpositive := List.length_pos_iff.mpr hback
  rw [List.length_append]
  omega

theorem subset (hcut : Cut front text) : front ⊆ text := by
  obtain ⟨back, _, rfl⟩ := hcut
  exact List.subset_append_left front back

theorem blank (hcut : Cut front text) (htext : Blank text) : Blank front := by
  intro character hmem
  exact htext character (hcut.subset hmem)

theorem ends (hcut : Cut front text) (htext : Ends text) : Ends front := by
  obtain ⟨back, _, rfl⟩ := hcut
  cases front with
  | nil => exact ends_nil
  | cons character front => exact ends_cons.mpr (ends_cons.mp htext)

end Cut

theorem skipSpace_blank {gap : List Char} (hgap : Blank gap) : skipSpace gap = [] := by
  simpa [skipSpace] using skipSpace_append hgap []

theorem skipSpace_quote {gap : List Char} (hgap : Blank gap) (body : List Char) :
    skipSpace (gap ++ '"' :: body) = '"' :: body := by
  rw [skipSpace_append hgap, skipSpace_cons (by decide)]

/-! ## Words and strings -/

theorem expectWord_cut {front word : List Char} (hcut : Cut front word) :
    expectWord word front = .error .truncated := by
  induction word generalizing front with
  | nil => exact absurd hcut (Cut.not_nil front)
  | cons letter word ih =>
    rcases hcut.cons_cases with rfl | ⟨rest, rfl, hrest⟩
    · rfl
    · rw [expectWord, if_pos rfl, ih hrest]

/-- After a name the colon is missing, or something of the value. -/
theorem expectColon_cut {before after part front : List Char} (hbefore : Blank before)
    (hafter : Blank after) (hpart : part ≠ [])
    (hcut : Cut front (before ++ ':' :: (after ++ part))) :
    expectColon front = .error .truncated ∨
      ∃ gap rest, expectColon front = .ok (gap ++ rest) ∧ Blank gap ∧ Cut rest part := by
  rcases hcut.append_cases with hgap | ⟨rest, rfl, hcolon⟩
  · left
    rw [expectColon, skipSpace_blank (hgap.blank hbefore)]
  · rcases hcolon.cons_cases with rfl | ⟨rest, rfl, hvalue⟩
    · left
      rw [List.append_nil, expectColon, skipSpace_blank hbefore]
    · right
      rw [expectColon_append hbefore]
      rcases hvalue.append_cases with hgap | ⟨rest, rfl, hrest⟩
      · exact ⟨rest, [], by rw [List.append_nil], hgap.blank hafter, Cut.nil hpart⟩
      · exact ⟨after, rest, rfl, hafter, hrest⟩

theorem utf8Size_of_hexValue? {digit : Char} {value : Nat}
    (hvalue : Text.hexValue? digit = some value) : digit.utf8Size = 1 := by
  have hascii : digit ≤ 'f' := by
    unfold Text.hexValue? at hvalue
    split at hvalue
    · next hdigit => exact hdigit.2.trans (by decide)
    · split at hvalue
      · next hsmall => exact hsmall.2
      · split at hvalue
        · next hcapital => exact hcapital.2.trans (by decide)
        · cases hvalue
  rw [Char.utf8Size_eq_one_iff]
  calc
    digit.val ≤ 'f'.val := hascii
    _ ≤ 127 := by decide

theorem utf8Len_eq_length {text : List Char}
    (hsize : ∀ character ∈ text, character.utf8Size = 1) : String.utf8Len text = text.length := by
  induction text with
  | nil => rfl
  | cons character text ih =>
    rw [String.utf8Len_cons, hsize character List.mem_cons_self, List.length_cons,
      ih fun other hmem => hsize other (List.mem_cons_of_mem _ hmem)]

theorem exists_hexValue?_of_hexUnit? {first second third fourth : Char} {unit : Nat}
    (hunit : hexUnit? first second third fourth = some unit) :
    ∀ digit ∈ [first, second, third, fourth], ∃ value, Text.hexValue? digit = some value := by
  unfold hexUnit? at hunit
  split at hunit
  · next hfirst hsecond hthird hfourth => simp [hfirst, hsecond, hthird, hfourth]
  · cases hunit

/-- Fewer than four hexadecimal digits are fewer than four bytes. -/
theorem readUnit_cut {first second third fourth : Char} {unit : Nat} {front : List Char}
    (hunit : hexUnit? first second third fourth = some unit)
    (hcut : Cut front [first, second, third, fourth]) : readUnit front = .error .truncated := by
  have hshort : front.length < 4 := hcut.length_lt
  have hsize : String.utf8Len front = front.length := by
    apply utf8Len_eq_length
    intro digit hmem
    obtain ⟨value, hvalue⟩ := exists_hexValue?_of_hexUnit? hunit digit (hcut.subset hmem)
    exact utf8Size_of_hexValue? hvalue
  rw [readUnit, String.utf8ByteSize_ofList, if_pos (by omega)]
  intro a b c d rest heq
  rw [heq] at hshort
  simp only [List.length_cons] at hshort
  omega

/-! A character is broken off inside its escape. -/

theorem readQuoted_backslash_error {rest : List Char} {fault : Fault}
    (hescape : readEscape rest = .error fault) : readQuoted ('\\' :: rest) = .error fault := by
  rw [readQuoted]
  split
  · next heq =>
    rw [hescape] at heq
    cases heq
  · next heq =>
    rw [hescape] at heq
    rw [Except.error.inj heq]

theorem readTrailing_cut {first second third fourth : Char} {leading trailing : Nat}
    {front : List Char} (hunit : hexUnit? first second third fourth = some trailing)
    (hcut : Cut front ['\\', 'u', first, second, third, fourth]) :
    readTrailing leading front = .error .truncated := by
  rcases hcut.cons_cases with rfl | ⟨rest, rfl, hletter⟩
  · rfl
  · rcases hletter.cons_cases with rfl | ⟨rest, rfl, hdigits⟩
    · rfl
    · rw [readTrailing, readUnit_cut hunit hdigits]

theorem readQuoted_nil : readQuoted [] = .error .truncated := by
  rw [readQuoted]

/-- A string that is broken off in an escape, or right before it. -/
theorem readQuoted_cut_backslash {text front : List Char} (hcut : Cut front ('\\' :: text))
    (hescape : ∀ rest, Cut rest text → readEscape rest = .error .truncated) :
    readQuoted front = .error .truncated := by
  rcases hcut.cons_cases with rfl | ⟨rest, rfl, hrest⟩
  · exact readQuoted_nil
  · exact readQuoted_backslash_error (hescape rest hrest)

theorem readQuoted_cut_spelledChar {character : Char} {text front : List Char}
    (htext : SpelledChar character text) (hcut : Cut front text) :
    readQuoted front = .error .truncated := by
  cases htext with
  | plain =>
    rcases hcut.cons_cases with rfl | ⟨rest, rfl, hnone⟩
    · exact readQuoted_nil
    · exact absurd hnone (Cut.not_nil rest)
  | letter =>
    apply readQuoted_cut_backslash hcut
    intro rest hrest
    rcases hrest.cons_cases with rfl | ⟨rest, rfl, hnone⟩
    · rfl
    · exact absurd hnone (Cut.not_nil rest)
  | unit hunit =>
    apply readQuoted_cut_backslash hcut
    intro rest hrest
    rcases hrest.cons_cases with rfl | ⟨rest, rfl, hdigits⟩
    · rfl
    · rw [readEscape, readUnit_cut hunit hdigits]
  | pair hfirst hsecond hleads _ _ =>
    apply readQuoted_cut_backslash hcut
    intro rest hrest
    rcases hrest.cons_cases with rfl | ⟨rest, rfl, hunits⟩
    · rfl
    · rcases @Cut.append_cases _ [_, _, _, _] _ hunits with hdigits | ⟨rest, rfl, htrailing⟩
      · rw [readEscape, readUnit_cut hfirst hdigits]
      · have hhalf := isTrailing_of_isLeading hleads
        simp [readEscape, readUnit, hfirst, hhalf, hleads, readTrailing_cut hsecond htrailing]

/-- A string is broken off before its closing quote. -/
theorem readQuoted_cut {characters front : List Char} {pieces : List (List Char)}
    (hpieces : List.Forall₂ SpelledChar characters pieces)
    (hcut : Cut front (pieces.flatten ++ ['"'])) : readQuoted front = .error .truncated := by
  induction hpieces generalizing front with
  | nil =>
    rcases hcut.cons_cases with rfl | ⟨rest, rfl, hnone⟩
    · exact readQuoted_nil
    · exact absurd hnone (Cut.not_nil rest)
  | cons hpiece _ ih =>
    rw [List.flatten_cons, List.append_assoc] at hcut
    rcases hcut.append_cases with hfirst | ⟨rest, rfl, hrest⟩
    · exact readQuoted_cut_spelledChar hpiece hfirst
    · rw [readQuoted_spelledChar hpiece, ih hrest]
      rfl

/-! ## Parts between brackets -/

theorem nextTurn_blank (closing : Char) (first : Bool) {gap : List Char} (hgap : Blank gap) :
    nextTurn closing first gap = .error .truncated := by
  rw [nextTurn, skipSpace_blank hgap]

/-- What is found where the next part should be, when the text after it is broken off. -/
inductive Interrupted (closing : Char) (part : List Char) (parts : List (List Char)) :
    Except Fault Turn → Prop
  /-- The text ends before the part. -/
  | before : Interrupted closing part parts (.error .truncated)
  /-- The text ends in the part. -/
  | inside {front : List Char} (hne : front ≠ []) (hfront : Cut front part) :
    Interrupted closing part parts (.ok (.item front))
  /-- The text ends after the part. -/
  | after {front tail : List Char} (htail : Enclosed closing false parts tail)
    (hfront : Cut front tail) : Interrupted closing part parts (.ok (.item (part ++ front)))

/-- After the last part only spaces can stand before the bracket that is missing. -/
theorem Enclosed.blank_of_cut {closing : Char} {first : Bool} {text front : List Char}
    (htext : Enclosed closing first [] text) (hcut : Cut front text) : Blank front := by
  cases htext with
  | close hgap =>
    rcases hcut.append_cases with hblank | ⟨rest, rfl, hrest⟩
    · exact hblank.blank hgap
    · rcases hrest.cons_cases with rfl | ⟨rest, rfl, hnone⟩
      · rwa [List.append_nil]
      · exact absurd hnone (Cut.not_nil rest)

/-- The text ends in the separator, or something of what follows is there. -/
theorem Separator.nextTurn_cut {closing : Char} (hcomma : ',' ≠ closing) {first : Bool}
    {separator text front : List Char} (hseparator : Separator first separator)
    (hcut : Cut front (separator ++ text)) :
    nextTurn closing first front = .error .truncated ∨
      ∃ rest, front = separator ++ rest ∧ rest ≠ [] ∧ Cut rest text := by
  cases hseparator with
  | first hgap =>
    rcases hcut.append_cases with hblank | ⟨rest, rfl, hrest⟩
    · exact .inl (nextTurn_blank closing true (hblank.blank hgap))
    · cases rest with
      | nil =>
        rw [List.append_nil]
        exact .inl (nextTurn_blank closing true hgap)
      | cons character rest => exact .inr ⟨_, rfl, List.cons_ne_nil _ _, hrest⟩
  | @next before after hbefore hafter =>
    rw [List.append_assoc] at hcut
    rcases hcut.append_cases with hblank | ⟨rest, rfl, hrest⟩
    · exact .inl (nextTurn_blank closing false (hblank.blank hbefore))
    · rcases hrest.cons_cases with rfl | ⟨rest, rfl, hbehind⟩
      · rw [List.append_nil]
        exact .inl (nextTurn_blank closing false hbefore)
      · have hblank : ∀ gap, Blank gap →
            nextTurn closing false (before ++ ',' :: gap) = .error .truncated := by
          intro gap hgap
          rw [nextTurn, skipSpace_append hbefore, skipSpace_cons (by decide)]
          simp [hcomma, skipSpace_blank hgap]
        rcases hbehind.append_cases with hgap | ⟨rest, rfl, hpart⟩
        · exact .inl (hblank rest (hgap.blank hafter))
        · cases rest with
          | nil =>
            rw [List.append_nil]
            exact .inl (hblank after hafter)
          | cons character rest =>
            exact .inr ⟨character :: rest, by simp, List.cons_ne_nil _ _, hpart⟩

theorem Opens.ne_nil {text : List Char} (hopens : Opens text) : text ≠ [] := by
  obtain ⟨character, rest, rfl, _⟩ := hopens
  exact List.cons_ne_nil character rest

theorem Cut.opens {front text : List Char} (hcut : Cut front text) (hne : front ≠ [])
    (htext : Opens text) : Opens front := by
  obtain ⟨character, more, rfl, hopens⟩ := htext
  rcases hcut.cons_cases with rfl | ⟨rest, rfl, _⟩
  · exact absurd rfl hne
  · exact ⟨character, rest, rfl, hopens⟩

theorem Enclosed.nextTurn_cut {closing : Char} (hclosing : closing = ']' ∨ closing = '\x7d')
    {first : Bool} {part text front : List Char} {parts : List (List Char)}
    (htext : Enclosed closing first (part :: parts) text) (hopens : Opens part)
    (hcut : Cut front text) : Interrupted closing part parts (nextTurn closing first front) := by
  have hcomma : ',' ≠ closing := by
    rcases hclosing with rfl | rfl <;> decide
  cases htext with
  | part hseparator htail =>
    rw [List.append_assoc] at hcut
    rcases hseparator.nextTurn_cut hcomma hcut with hturn | ⟨rest, rfl, hne, hrest⟩
    · rw [hturn]
      exact .before
    · rcases hrest.append_cases with hinside | ⟨rest, rfl, hafter⟩
      · rw [hseparator.nextTurn_append hclosing (hinside.opens hne hopens)]
        exact .inside hne hinside
      · rw [hseparator.nextTurn_append hclosing (hopens.append rest)]
        exact .after htail hafter

/-! ## Readers of numbers, texts and names -/

/-- Reading came to the end of the text: more is needed, or nothing is left. -/
inductive Exhausted {α : Type} : Except Fault (α × List Char) → Prop
  | truncated : Exhausted (.error .truncated)
  | complete (value : α) : Exhausted (.ok (value, []))

namespace Reader

/-- A reader comes to the end of every spelling of a datum that is broken off. -/
def Exhausts (reader : Reader Datum) (datum : Datum) : Prop :=
  ∀ gap text front : List Char, Blank gap → datum.Spelled text → Cut front text →
    Exhausted (reader (gap ++ front))

/-- A reader asks for more of every spelling of a datum that is broken off. -/
def Demands (reader : Reader Datum) (datum : Datum) : Prop :=
  ∀ gap text front : List Char, Blank gap → datum.Spelled text → Cut front text →
    reader (gap ++ front) = .error .truncated

/-- A reader takes every spelling of a datum from the front of a text, and comes to the end
of one that is broken off. -/
structure Follows (reader : Reader Datum) (datum : Datum) : Prop where
  reads : reader.Reads datum
  exhausts : reader.Exhausts datum

theorem Demands.exhausts {reader : Reader Datum} {datum : Datum}
    (hdemands : reader.Demands datum) : reader.Exhausts datum := by
  intro gap text front hgap htext hcut
  rw [hdemands gap text front hgap htext hcut]
  exact .truncated

/-- What a reader makes of a part that is broken off, or that the text ends behind. -/
inductive Meets (closing : Char) (datum : Datum) (parts : List (List Char)) :
    Except Fault (Datum × List Char) → Prop
  | truncated : Meets closing datum parts (.error .truncated)
  | last (value : Datum) : Meets closing datum parts (.ok (value, []))
  | next {front tail : List Char} (htail : Enclosed closing false parts tail)
    (hfront : Cut front tail) : Meets closing datum parts (.ok (datum, front))

/-- The text ends before the next part, or the part is what its reader meets last. -/
theorem Follows.nextTurn_cut {reader : Reader Datum} {datum : Datum}
    (hfollows : reader.Follows datum) {closing : Char}
    (hclosing : closing = ']' ∨ closing = '\x7d') {part : List Char}
    (hpart : datum.Spelled part) {first : Bool} {parts : List (List Char)}
    {text front : List Char} (htext : Enclosed closing first (part :: parts) text)
    (hcut : Cut front text) :
    nextTurn closing first front = .error .truncated ∨
      ∃ input, nextTurn closing first front = .ok (.item input) ∧
        Meets closing datum parts (reader input) := by
  have hinterrupted := htext.nextTurn_cut hclosing (opens_of_spelled hpart) hcut
  generalize nextTurn closing first front = turn at hinterrupted
  cases hinterrupted with
  | before => exact .inl rfl
  | @inside input _ hinput =>
    refine .inr ⟨input, rfl, ?_⟩
    have hread := hfollows.exhausts [] part input blank_nil hpart hinput
    rw [List.nil_append] at hread
    generalize reader input = outcome at hread
    cases hread with
    | truncated => exact .truncated
    | complete value => exact .last value
  | @after front tail htail hfront =>
    refine .inr ⟨part ++ front, rfl, ?_⟩
    have hends : Ends front := hfront.ends (by simpa using ends_enclosed hclosing htail [])
    have hread := hfollows.reads [] part front blank_nil hpart hends
    rw [List.nil_append] at hread
    rw [hread]
    exact .next htail hfront

/-- The digits of a number are broken off to those of a smaller one. -/
theorem cut_toDigits {value : Nat} {front : List Char} (hcut : Cut front (Nat.toDigits 10 value)) :
    front = [] ∨ ∃ smaller ≤ value, front = Nat.toDigits 10 smaller := by
  induction value using Nat.strongRecOn generalizing front with
  | ind value ih =>
    rw [Nat.toDigits_eq_if (by decide)] at hcut
    split at hcut
    · rcases hcut.cons_cases with rfl | ⟨rest, rfl, hnone⟩
      · exact .inl rfl
      · exact absurd hnone (Cut.not_nil rest)
    · rcases hcut.append_cases with hfront | ⟨rest, rfl, hlast⟩
      · rcases ih (value / 10) (by omega) hfront with rfl | ⟨smaller, hle, rfl⟩
        · exact .inl rfl
        · exact .inr ⟨smaller, by omega, rfl⟩
      · rcases hlast.cons_cases with rfl | ⟨rest, rfl, hnone⟩
        · exact .inr ⟨value / 10, by omega, by rw [List.append_nil]⟩
        · exact absurd hnone (Cut.not_nil rest)

theorem follows_count {value : Nat} (hvalue : value < Number.limit) :
    Follows count (.count value) := by
  refine ⟨reads_count hvalue, ?_⟩
  intro gap text front hgap htext hcut
  cases htext with
  | count =>
    rcases cut_toDigits hcut with rfl | ⟨smaller, hle, rfl⟩
    · rw [List.append_nil, count, skipSpace_blank hgap]
      exact .truncated
    · have hread := reads_count (Nat.lt_of_le_of_lt hle hvalue) gap _ [] hgap (.count smaller)
        ends_nil
      rw [List.append_nil] at hread
      rw [hread]
      exact .complete _

theorem follows_text (value : String) : Follows text (.text value) := by
  refine ⟨reads_text value, Demands.exhausts ?_⟩
  intro gap written front hgap htext hcut
  cases htext with
  | text htext =>
    obtain ⟨pieces, hpieces, rfl⟩ := htext
    rcases hcut.cons_cases with rfl | ⟨rest, rfl, hrest⟩
    · rw [List.append_nil, text, skipSpace_blank hgap]
    · rw [text, skipSpace_append hgap, skipSpace_cons (by decide)]
      simp [readQuoted_cut hpieces hrest, Except.map]

/-- What is left of a member that is broken off. -/
inductive BrokenMember (name : String) (part : List Char) : List Char → Prop
  | nothing : BrokenMember name part []
  | name {body : List Char} (hname : readQuoted body = .error .truncated) :
    BrokenMember name part ('"' :: body)
  | colon {body rest : List Char} (hname : readQuoted body = .ok (name.toList, rest))
    (hcolon : expectColon rest = .error .truncated) : BrokenMember name part ('"' :: body)
  | value {body rest gap front : List Char} (hname : readQuoted body = .ok (name.toList, rest))
    (hcolon : expectColon rest = .ok (gap ++ front)) (hgap : Blank gap)
    (hfront : Cut front part) : BrokenMember name part ('"' :: body)

theorem brokenMember_of_cut {name : String} {key part front : List Char}
    (hkey : SpelledName name key) (hpart : part ≠ []) (hcut : Cut front (key ++ part)) :
    BrokenMember name part front := by
  obtain ⟨_, before, after, ⟨pieces, hpieces, rfl⟩, hbefore, hafter, rfl⟩ := hkey
  rw [List.append_assoc, List.append_assoc, List.cons_append] at hcut
  rcases hcut.append_cases with hquoted | ⟨rest, rfl, hrest⟩
  · rcases hquoted.cons_cases with rfl | ⟨body, rfl, hbody⟩
    · exact .nothing
    · exact .name (readQuoted_cut hpieces hbody)
  · have hname : readQuoted (pieces.flatten ++ ['"'] ++ rest) = .ok (name.toList, rest) := by
      rw [List.append_assoc]
      exact readQuoted_pieces hpieces rest
    rcases expectColon_cut hbefore hafter hpart hrest with hcolon | ⟨gap, front, hcolon, hgap, hcut⟩
    · exact .colon hname hcolon
    · exact .value hname hcolon hgap hcut

/-- A name that is written as an object is broken off before its closing brace. -/
theorem nullMember_cut {gap closing front : List Char} (hgap : Blank gap)
    (hclosing : Enclosed '\x7d' false [] closing)
    (hcut : Cut front (['n', 'u', 'l', 'l'] ++ closing)) :
    nullMember (gap ++ front) = .error .truncated := by
  rcases hcut.append_cases with hword | ⟨rest, rfl, hrest⟩
  · rcases hword.cons_cases with rfl | ⟨rest, rfl, hrest⟩
    · rw [List.append_nil, nullMember, skipSpace_blank hgap]
    · rw [nullMember, skipSpace_append hgap, skipSpace_cons (by decide)]
      simp [expectWord_cut hrest]
  · have hblank := hclosing.blank_of_cut hrest
    rw [nullMember, skipSpace_append hgap, List.cons_append, skipSpace_cons (by decide)]
    simp [expectWord, skipSpace_blank hblank]

theorem follows_choice {names : List String} {name : String} (hmem : name ∈ names) :
    Follows (choice names) (.choice name) := by
  refine ⟨reads_choice hmem, Demands.exhausts ?_⟩
  intro gap written front hgap htext hcut
  rw [choice, skipSpace_append hgap]
  cases htext with
  | choice htext =>
    obtain ⟨pieces, hpieces, rfl⟩ := htext
    rcases hcut.cons_cases with rfl | ⟨rest, rfl, hrest⟩
    · rfl
    · rw [skipSpace_cons (by decide)]
      simp [readQuoted_cut hpieces hrest, bind, Except.bind]
  | @member _ key _ hkey henclosed =>
    rcases hcut.cons_cases with rfl | ⟨rest, rfl, hrest⟩
    · rfl
    · rw [skipSpace_cons (by decide)]
      cases henclosed with
      | @part _ _ _ closing _ hseparator hclosing =>
        cases hseparator with
        | first hinner =>
          rw [List.append_assoc, List.append_assoc] at hrest
          rcases hrest.append_cases with hblank | ⟨member, rfl, hmember⟩
          · simp [skipSpace_blank (hblank.blank hinner)]
          · have hquote := skipSpace_quote hinner
            cases brokenMember_of_cut hkey (List.cons_ne_nil _ _) hmember with
            | nothing => simp [skipSpace_blank hinner]
            | name hname => simp [hquote, hname, bind, Except.bind]
            | colon hname hcolon =>
              simp [hquote, hname, known_of_mem hmem, hcolon, bind, Except.bind]
            | value hname hcolon hbefore hnull =>
              have hmember := nullMember_cut hbefore hclosing hnull
              simp [hquote, hname, known_of_mem hmem, hcolon, hmember, bind, Except.bind]

/-! ## Readers of lists -/

theorem items_nil (item : Reader Datum) (bound : Nat) (first : Bool) :
    items item bound first [] = .error .truncated := by
  cases bound with
  | zero => rfl
  | succ bound => rfl

theorem items_cut {item : Reader Datum} {data : List Datum} {parts : List (List Char)}
    (hparts : List.Forall₂ Datum.Spelled data parts)
    (hfollows : ∀ datum ∈ data, Follows item datum) (bound : Nat) {first : Bool}
    {text front : List Char} (htext : Enclosed ']' first parts text) (hcut : Cut front text) :
    items item bound first front = .error .truncated := by
  induction hparts generalizing bound first text front with
  | nil =>
    cases bound with
    | zero => rfl
    | succ bound => rw [items, nextTurn_blank ']' first (htext.blank_of_cut hcut)]
  | @cons datum part data parts hpart _ ih =>
    cases bound with
    | zero => rfl
    | succ bound =>
      rcases (hfollows datum List.mem_cons_self).nextTurn_cut (.inl rfl) hpart htext hcut with
        hturn | ⟨input, hturn, hmeets⟩
      · rw [items, hturn]
      · rw [items, hturn]
        dsimp only
        generalize item input = outcome at hmeets
        cases hmeets with
        | truncated => rfl
        | last value => simp [items_nil, bind, Except.bind]
        | next htail hfront =>
          have hrest := ih (fun datum hmem => hfollows datum (List.mem_cons_of_mem _ hmem)) bound
            htail hfront
          simp [hrest, bind, Except.bind]

theorem follows_list {item : Reader Datum} {data : List Datum}
    (hfollows : ∀ datum ∈ data, Follows item datum) : Follows (list item) (.list data) := by
  refine ⟨reads_list fun datum hmem => (hfollows datum hmem).reads, Demands.exhausts ?_⟩
  intro gap written front hgap htext hcut
  rw [list, skipSpace_append hgap]
  cases htext with
  | list hparts henclosed =>
    rcases hcut.cons_cases with rfl | ⟨rest, rfl, hrest⟩
    · rfl
    · rw [skipSpace_cons (by decide)]
      simp only [items_cut hparts hfollows _ henclosed hrest, Except.map]

/-! ## Readers of records -/

/-- A record follows field by field: each has its name, and its reader follows its value. -/
def FollowsFields (fields : List Field) (data : List (String × Datum)) : Prop :=
  List.Forall₂ (fun field item => item.1 = field.1 ∧ Follows field.2 item.2) fields data

theorem FollowsFields.readsFields {fields : List Field} {data : List (String × Datum)}
    (hfields : FollowsFields fields data) : ReadsFields fields data :=
  hfields.imp fun _ _ hfield => ⟨hfield.1, hfield.2.reads⟩

theorem elements_nil (wanted : String) (fields : List Field) (index : Nat) :
    elements wanted fields index [] = .error .truncated := by
  cases fields with
  | nil => rfl
  | cons field fields => rfl

theorem elements_cut (wanted : String) {fields : List Field} {data : List (String × Datum)}
    (hfields : FollowsFields fields data) {parts : List (List Char)}
    (hparts : List.Forall₂ (fun item part => item.2.Spelled part) data parts) {index : Nat}
    {text front : List Char} (htext : Enclosed ']' (index == 0) parts text)
    (hcut : Cut front text) : elements wanted fields index front = .error .truncated := by
  induction hfields generalizing parts index text front with
  | nil =>
    cases hparts with
    | nil => rw [elements, skipSpace_blank (htext.blank_of_cut hcut)]
  | @cons field item fields data hfield _ ih =>
    obtain ⟨name, reader⟩ := field
    obtain ⟨_, datum⟩ := item
    obtain ⟨rfl, hfollows⟩ := hfield
    dsimp only at hfollows
    cases hparts with
    | @cons _ part _ parts hpart hparts =>
      rcases hfollows.nextTurn_cut (.inl rfl) hpart htext hcut with
        hturn | ⟨input, hturn, hmeets⟩
      · rw [elements, hturn]
      · rw [elements, hturn]
        dsimp only
        generalize reader input = outcome at hmeets
        cases hmeets with
        | truncated => rfl
        | last value => simp [elements_nil, bind, Except.bind]
        | @next front tail htail hfront =>
          have hrest : elements wanted fields (index + 1) front = .error .truncated :=
            ih hparts htail hfront
          simp [hrest, bind, Except.bind]

theorem members_nil (fields : List Field) (bound : Nat) (before : List (String × Datum))
    (first : Bool) : members fields bound before first [] = .error .truncated := by
  cases bound with
  | zero => rfl
  | succ bound => rfl

/-- A member that is broken off is the last thing that is read. -/
theorem members_inside {fields : List Field} {before : List (String × Datum)}
    {item : String × Datum} (hfresh : before.lookup item.1 = none) {reader : Reader Datum}
    (hlookup : fields.lookup item.1 = some reader) (hexhausts : Exhausts reader item.2)
    {part : List Char} (hpart : item.2.Spelled part) {first : Bool} {input member : List Char}
    (hne : member ≠ []) (hmember : BrokenMember item.1 part member)
    (hturn : nextTurn '\x7d' first input = .ok (.item member)) (bound : Nat) :
    members fields (bound + 1) before first input = .error .truncated := by
  rw [members, hturn]
  cases hmember with
  | nothing => exact absurd rfl hne
  | name hname => simp [hname, bind, Except.bind]
  | colon hname hcolon => simp [hname, hlookup, hfresh, hcolon, bind, Except.bind]
  | value hname hcolon hgap hfront =>
    have hvalue := hexhausts _ part _ hgap hpart hfront
    simp only [hname, String.ofList_toList, hlookup, hfresh, hcolon, bind, Except.bind,
      Option.isSome_none, Bool.false_eq_true, if_false]
    generalize reader _ = outcome at hvalue
    cases hvalue with
    | truncated => rfl
    | complete value => exact members_nil fields bound _ false

theorem members_cut {fields : List Field} (hnames : (fields.map Prod.fst).Nodup)
    {data : List (String × Datum)} (hfields : FollowsFields fields data)
    {before after : List (String × Datum)} (hdata : before.reverse ++ after = data)
    {keys parts : List (List Char)}
    (hkeys : List.Forall₂ (fun item key => SpelledName item.1 key) after keys)
    (hparts : List.Forall₂ (fun item part => item.2.Spelled part) after parts) (bound : Nat)
    {first : Bool} {text front : List Char}
    (htext : Enclosed '\x7d' first (List.zipWith (· ++ ·) keys parts) text)
    (hcut : Cut front text) : members fields bound before first front = .error .truncated := by
  have hdatanames : (data.map Prod.fst).Nodup := by rwa [hfields.readsFields.map_fst_eq]
  induction hkeys generalizing before parts bound first text front with
  | nil =>
    cases bound with
    | zero => rfl
    | succ bound => rw [members, nextTurn_blank '\x7d' first (htext.blank_of_cut hcut)]
  | @cons item key after keys hkey _ ih =>
    cases bound with
    | zero => rfl
    | succ bound =>
      have hmem : item ∈ data := by
        rw [← hdata]
        exact List.mem_append_right _ List.mem_cons_self
      have hfresh : before.lookup item.1 = none := by
        rw [← hdata] at hdatanames
        simpa using lookup_eq_none hdatanames
      obtain ⟨reader, hlookup, hreads, hexhausts⟩ := exists_lookup_of_forall₂ hfields hnames hmem
      cases hparts with
      | @cons _ part _ parts hpart hparts =>
        have hinterrupted := htext.nextTurn_cut (.inr rfl)
          ((opens_of_spelledName hkey).append part) hcut
        generalize hturn : nextTurn '\x7d' first front = turn at hinterrupted
        cases hinterrupted with
        | before => rw [members, hturn]
        | inside hne hfront =>
          have hmember := brokenMember_of_cut hkey (opens_of_spelled hpart).ne_nil hfront
          exact members_inside hfresh hlookup hexhausts hpart hne hmember hturn bound
        | @after front tail htail hfront =>
          have hends : Ends front := hfront.ends (by simpa using ends_enclosed (.inr rfl) htail [])
          rw [members_item hfresh hlookup hreads hkey hpart hends hturn bound]
          exact ih (by simp [← hdata]) hparts bound htail hfront

theorem demands_record (name : String) {fields : List Field}
    (hnames : (fields.map Prod.fst).Nodup) {data : List (String × Datum)}
    (hfields : FollowsFields fields data) : Demands (record name fields) (.record data) := by
  intro gap written front hgap htext hcut
  rw [record, skipSpace_append hgap]
  cases htext with
  | array hparts henclosed =>
    rcases hcut.cons_cases with rfl | ⟨rest, rfl, hrest⟩
    · rfl
    · rw [skipSpace_cons (by decide)]
      have hread : ∀ wanted, elements wanted fields 0 rest = .error .truncated := by
        intro wanted
        exact elements_cut wanted hfields hparts henclosed hrest
      simp only [hread, Except.map]
  | object hkeys hparts henclosed =>
    rcases hcut.cons_cases with rfl | ⟨rest, rfl, hrest⟩
    · rfl
    · rw [skipSpace_cons (by decide)]
      have hread : members fields (rest.length + 1) [] true rest = .error .truncated :=
        members_cut hnames hfields rfl hkeys hparts _ henclosed hrest
      simp only [hread, Except.map]

theorem follows_record (name : String) {fields : List Field}
    (hnames : (fields.map Prod.fst).Nodup) {data : List (String × Datum)}
    (hfields : FollowsFields fields data) : Follows (record name fields) (.record data) where
  reads := reads_record name hnames hfields.readsFields
  exhausts := (demands_record name hnames hfields).exhausts

end Reader

end HexChart.Json
