import HexChart.Proofs.Literal

/-!
# Passing over what nobody asked for

The grammar of JSON, for the members of an object that no field asks for: words, numbers of
any size, strings whose surrogates need not come in pairs, lists and objects of such
values.  Every text of the grammar is passed over up to its end, whatever follows it
(`skipValue_wellFormed`).
-/

namespace HexChart.Json

/-! ## Numbers -/

inductive FractionText : List Char → Prop
  | none : FractionText []
  | some {digits : List Char} (hdigits : Digits digits) : FractionText ('.' :: digits)

inductive ExponentText : List Char → Prop
  | none : ExponentText []
  | some {letter : Char} {sign digits : List Char} (hletter : letter = 'e' ∨ letter = 'E')
    (hsign : sign ∈ [[], ['+'], ['-']]) (hdigits : Digits digits) :
    ExponentText (letter :: (sign ++ digits))

/-- A number literal without a sign.  A zero before the point stands alone. -/
inductive UnsignedText : List Char → Prop
  | mk {whole fraction exponent : List Char} (hwhole : Digits whole)
    (hzero : ∀ next more, whole ≠ '0' :: next :: more) (hfraction : FractionText fraction)
    (hexponent : ExponentText exponent) : UnsignedText (whole ++ (fraction ++ exponent))

inductive NumberText : List Char → Prop
  | plain {text : List Char} (htext : UnsignedText text) : NumberText text
  | minus {text : List Char} (htext : UnsignedText text) : NumberText ('-' :: text)

theorem FractionText.exists_spelled {text : List Char} (htext : FractionText text) :
    ∃ fraction, Literal.SpelledFraction fraction text := by
  cases htext with
  | none => exact ⟨_, .none⟩
  | some hdigits => exact ⟨_, .some hdigits⟩

theorem ExponentText.exists_spelled {text : List Char} (htext : ExponentText text) :
    ∃ exponent, Literal.SpelledExponent exponent text := by
  cases htext with
  | none => exact ⟨_, .none⟩
  | some hletter hsign hdigits =>
    simp only [List.mem_cons, List.not_mem_nil, or_false] at hsign
    rcases hsign with rfl | rfl | rfl
    · exact ⟨_, .some hletter .none hdigits⟩
    · exact ⟨_, .some hletter .plus hdigits⟩
    · exact ⟨_, .some hletter .minus hdigits⟩

theorem UnsignedText.exists_spelled {text : List Char} (htext : UnsignedText text)
    (negative : Bool) : ∃ literal : Literal, literal.negative = negative ∧
      literal.Spelled (literal.sign ++ text) := by
  cases htext with
  | @mk whole _ _ hwhole hzero hfraction hexponent =>
    obtain ⟨fraction, hfraction⟩ := hfraction.exists_spelled
    obtain ⟨exponent, hexponent⟩ := hexponent.exists_spelled
    exact ⟨⟨negative, whole, fraction, exponent⟩, rfl, .mk hwhole hzero hfraction hexponent⟩

/-- A text of a number is the text of a literal. -/
theorem NumberText.exists_spelled {text : List Char} (htext : NumberText text) :
    ∃ literal : Literal, literal.Spelled text := by
  cases htext with
  | plain htext =>
    obtain ⟨literal, hnegative, hspelled⟩ := htext.exists_spelled false
    rw [Literal.sign, if_neg (by simp [hnegative]), List.nil_append] at hspelled
    exact ⟨literal, hspelled⟩
  | minus htext =>
    obtain ⟨literal, hnegative, hspelled⟩ := htext.exists_spelled true
    rw [Literal.sign, if_pos hnegative] at hspelled
    exact ⟨literal, hspelled⟩

theorem skipNumber_spelled {literal : Literal} {text rest : List Char}
    (htext : literal.Spelled text) (hrest : Ends rest) : skipNumber (text ++ rest) = .ok rest := by
  rw [skipNumber, Literal.read_spelled htext hrest]

/-! ## Strings -/

/-- A piece of a string.  Of four hexadecimal digits any may follow an escape. -/
inductive StringPiece : List Char → Prop
  | plain {character : Char} (hquote : character ≠ '"') (hslash : character ≠ '\\')
    (hcontrol : ¬character.toNat < 0x20) : StringPiece [character]
  | letter {letter : Char} (hletter : (unescape? letter).isSome) : StringPiece ['\\', letter]
  | unit {first second third fourth : Char}
    (hunit : (hexUnit? first second third fourth).isSome) :
    StringPiece ['\\', 'u', first, second, third, fourth]

/-- A string between its quotes. -/
inductive StringText : List Char → Prop
  | mk {pieces : List (List Char)} (hpieces : ∀ piece ∈ pieces, StringPiece piece) :
    StringText ('"' :: (pieces.flatten ++ ['"']))

/-- A hexadecimal digit stands for itself inside a string. -/
theorem plain_of_hexValue? {digit : Char} {value : Nat}
    (hvalue : Text.hexValue? digit = some value) :
    digit ≠ '"' ∧ digit ≠ '\\' ∧ ¬digit.toNat < 0x20 := by
  have hzero : '0' ≤ digit := by
    unfold Text.hexValue? at hvalue
    split at hvalue
    · next hdigit => exact hdigit.1
    · split at hvalue
      · next hsmall => exact le_trans (by decide) hsmall.1
      · split at hvalue
        · next hcapital => exact le_trans (by decide) hcapital.1
        · cases hvalue
  have hcontrol : 0x30 ≤ digit.toNat := hzero
  refine ⟨?_, ?_, by omega⟩
  · rintro rfl
    exact absurd hzero (by decide)
  · rintro rfl
    simp [Text.hexValue?] at hvalue

theorem skipQuoted_hexDigits {digits : List Char}
    (hdigits : ∀ digit ∈ digits, ∃ value, Text.hexValue? digit = some value) (rest : List Char) :
    skipQuoted (digits ++ rest) = skipQuoted rest := by
  induction digits with
  | nil => rfl
  | cons digit digits ih =>
    obtain ⟨value, hvalue⟩ := hdigits digit List.mem_cons_self
    obtain ⟨hquote, hslash, hcontrol⟩ := plain_of_hexValue? hvalue
    rw [List.cons_append, skipQuoted_plain hquote hslash hcontrol]
    exact ih fun digit hmem => hdigits digit (List.mem_cons_of_mem _ hmem)

theorem skipQuoted_piece {piece : List Char} (hpiece : StringPiece piece) (rest : List Char) :
    skipQuoted (piece ++ rest) = skipQuoted rest := by
  cases hpiece with
  | plain hquote hslash hcontrol => exact skipQuoted_plain hquote hslash hcontrol
  | letter hletter =>
    rw [List.cons_append, List.cons_append, skipQuoted, if_pos hletter]
    · rfl
    · rintro rfl
      simp [unescape?] at hletter
  | @unit first second third fourth hunit =>
    obtain ⟨unit, hunit⟩ := Option.isSome_iff_exists.mp hunit
    have hread : readUnit (first :: second :: third :: fourth :: rest) = .ok (unit, rest) := by
      rw [readUnit, hunit]
    calc
      skipQuoted (['\\', 'u', first, second, third, fourth] ++ rest)
      _ = skipQuoted ([first, second, third, fourth] ++ rest) := by simp [skipQuoted, hread]
      _ = skipQuoted rest := skipQuoted_hexDigits (exists_hexValue?_of_hexUnit? hunit) rest

theorem skipQuoted_stringText {text : List Char} (htext : StringText text) :
    ∃ body, text = '"' :: body ∧ ∀ rest, skipQuoted (body ++ rest) = .ok rest := by
  cases htext with
  | @mk pieces hpieces =>
    refine ⟨pieces.flatten ++ ['"'], rfl, fun rest => ?_⟩
    induction pieces with
    | nil => rfl
    | cons piece pieces ih =>
      have hfirst := hpieces piece List.mem_cons_self
      rw [List.flatten_cons, List.append_assoc, List.append_assoc, skipQuoted_piece hfirst,
        ← List.append_assoc]
      exact ih fun piece hmem => hpieces piece (List.mem_cons_of_mem _ hmem)

/-! ## Values -/

/-- The name of a member with its colon. -/
inductive KeyText : List Char → Prop
  | mk {quoted before after : List Char} (hquoted : StringText quoted) (hbefore : Blank before)
    (hafter : Blank after) : KeyText (quoted ++ (before ++ ':' :: after))

/-- The texts of JSON values. -/
inductive WellFormed : List Char → Prop
  | null : WellFormed ['n', 'u', 'l', 'l']
  | true : WellFormed ['t', 'r', 'u', 'e']
  | false : WellFormed ['f', 'a', 'l', 's', 'e']
  | number {text : List Char} (htext : NumberText text) : WellFormed text
  | string {text : List Char} (htext : StringText text) : WellFormed text
  | array {items : List (List Char)} {text : List Char}
    (hitems : ∀ item ∈ items, WellFormed item) (htext : Enclosed ']' Bool.true items text) :
    WellFormed ('[' :: text)
  | object {members : List (List Char × List Char)} {text : List Char}
    (hkeys : ∀ member ∈ members, KeyText member.1)
    (hvalues : ∀ member ∈ members, WellFormed member.2)
    (htext : Enclosed '\x7d' Bool.true (members.map fun member => member.1 ++ member.2) text) :
    WellFormed ('\x7b' :: text)

theorem opens_of_keyText {text : List Char} (htext : KeyText text) : Opens text := by
  obtain ⟨⟨_⟩, _, _⟩ := htext
  exact ⟨'"', _, rfl, rfl, by decide, by decide⟩

theorem opens_of_wellFormed {text : List Char} (htext : WellFormed text) : Opens text := by
  cases htext with
  | null => exact ⟨'n', _, rfl, rfl, by decide, by decide⟩
  | true => exact ⟨'t', _, rfl, rfl, by decide, by decide⟩
  | false => exact ⟨'f', _, rfl, rfl, by decide, by decide⟩
  | number htext =>
    obtain ⟨_, hspelled⟩ := htext.exists_spelled
    exact hspelled.opens
  | string htext =>
    cases htext
    exact ⟨'"', _, rfl, rfl, by decide, by decide⟩
  | array => exact ⟨'[', _, rfl, rfl, by decide, by decide⟩
  | object => exact ⟨'\x7b', _, rfl, rfl, by decide, by decide⟩

/-- A value is passed over within every bound that is large enough for its text. -/
def Passes (text : List Char) : Prop :=
  ∀ {bound : Nat} {rest : List Char}, Ends rest → 2 * text.length ≤ bound →
    skipValueWithin (bound + 1) (text ++ rest) = .ok rest

theorem Passes.of_lt {text rest : List Char} (hpasses : Passes text) (hrest : Ends rest)
    {bound : Nat} (hbound : 2 * text.length < bound) :
    skipValueWithin bound (text ++ rest) = .ok rest := by
  obtain ⟨bound, rfl⟩ := Nat.exists_eq_add_one.mpr (Nat.zero_lt_of_lt hbound)
  exact hpasses hrest (Nat.le_of_lt_succ hbound)

theorem skipValueWithin_gap {gap : List Char} (hgap : Blank gap) (bound : Nat)
    (text : List Char) : skipValueWithin bound (gap ++ text) = skipValueWithin bound text := by
  cases bound with
  | zero => rfl
  | succ bound => rw [skipValueWithin, skipValueWithin, skipSpace_append hgap]

theorem Enclosed.length_pos {closing : Char} {first : Bool} {parts : List (List Char)}
    {text : List Char} (htext : Enclosed closing first parts text) : 0 < text.length := by
  induction htext with
  | close => simp
  | part _ _ ih =>
    rw [List.length_append]
    omega

/-- A value between brackets is passed over, and something follows it. -/
theorem Passes.enclosed {part : List Char} (hpart : Passes part) {closing : Char}
    (hclosing : closing = ']' ∨ closing = '\x7d') {parts : List (List Char)} {tail : List Char}
    (htail : Enclosed closing false parts tail) {bound : Nat}
    (hbound : 2 * (part.length + tail.length) ≤ bound) (rest : List Char) :
    ∃ smaller, bound = smaller + 1 ∧ ∀ gap, Blank gap →
      skipValueWithin smaller (gap ++ (part ++ (tail ++ rest))) = .ok (tail ++ rest) := by
  have hpositive := htail.length_pos
  refine ⟨bound - 1, by omega, fun gap hgap => ?_⟩
  rw [skipValueWithin_gap hgap]
  exact hpart.of_lt (ends_enclosed hclosing htail rest) (by omega)

section Steps

variable {bound : Nat} {text gap rest : List Char}

theorem skipItemsWithin_close (hvalue : skipValueWithin bound text = .ok (gap ++ ']' :: rest))
    (hgap : Blank gap) : skipItemsWithin (bound + 1) text = .ok rest := by
  rw [skipItemsWithin, hvalue]
  simp only [skipSpace_append hgap]
  rw [skipSpace_cons (by decide)]
  rfl

theorem skipItemsWithin_comma (hvalue : skipValueWithin bound text = .ok (gap ++ ',' :: rest))
    (hgap : Blank gap) : skipItemsWithin (bound + 1) text = skipItemsWithin bound rest := by
  rw [skipItemsWithin, hvalue]
  simp only [skipSpace_append hgap]
  rw [skipSpace_cons (by decide)]
  rfl

end Steps

/-- After an item comes the closing bracket, or a comma and the next item. -/
theorem skipItemsWithin_enclosed {item : List Char} (hitem : Passes item)
    {items : List (List Char)} (hitems : ∀ item ∈ items, Passes item) {tail : List Char}
    (htail : Enclosed ']' false items tail) {bound : Nat}
    (hbound : 2 * (item.length + tail.length) ≤ bound) {gap : List Char} (hgap : Blank gap)
    (rest : List Char) : skipItemsWithin bound (gap ++ (item ++ (tail ++ rest))) = .ok rest := by
  induction items generalizing item tail bound gap with
  | nil =>
    obtain ⟨bound, rfl, hvalue⟩ := hitem.enclosed (.inl rfl) htail hbound rest
    replace hvalue := hvalue gap hgap
    cases htail with
    | close hblank =>
      simp only [List.append_assoc, List.cons_append, List.nil_append] at hvalue ⊢
      exact skipItemsWithin_close hvalue hblank
  | cons next items ih =>
    obtain ⟨bound, rfl, hvalue⟩ := hitem.enclosed (.inl rfl) htail hbound rest
    replace hvalue := hvalue gap hgap
    cases htail with
    | @part _ _ _ later _ hseparator hlater =>
      cases hseparator with
      | next hbefore hafter =>
        have hshorter : 2 * (next.length + later.length) ≤ bound := by
          simp only [List.length_append, List.length_cons] at hbound
          omega
        have hrest := ih (hitems next List.mem_cons_self)
          (fun item hmem => hitems item (List.mem_cons_of_mem _ hmem)) hlater hshorter hafter
        simp only [List.append_assoc, List.cons_append] at hvalue hrest ⊢
        rw [skipItemsWithin_comma hvalue hbefore, hrest]

section Steps

variable {bound : Nat} {key gap text behind before rest : List Char}

/-- The name of a member is passed over with its colon, and then its value. -/
theorem skipMembersWithin_key (hkey : KeyText key) (hgap : Blank gap)
    (hvalue : ∀ after, Blank after → skipValueWithin bound (after ++ text) = .ok behind) :
    (∀ rest, skipSpace behind = '\x7d' :: rest →
      skipMembersWithin (bound + 1) (gap ++ (key ++ text)) = .ok rest) ∧
    (∀ rest, skipSpace behind = ',' :: rest →
      skipMembersWithin (bound + 1) (gap ++ (key ++ text)) = skipMembersWithin bound rest) := by
  cases hkey with
  | @mk _ inner after hquoted hinner hafter =>
    obtain ⟨body, rfl, hskip⟩ := skipQuoted_stringText hquoted
    have hcolon : skipSpace (inner ++ ':' :: (after ++ text)) = ':' :: (after ++ text) := by
      rw [skipSpace_append hinner, skipSpace_cons (by decide)]
    simp only [List.append_assoc, List.cons_append]
    rw [skipMembersWithin, skipSpace_append hgap, skipSpace_cons (by decide)]
    simp only [hskip, hcolon, hvalue after hafter]
    constructor
    · intro rest hclose
      rw [hclose]
      rfl
    · intro rest hcomma
      rw [hcomma]
      rfl

theorem skipMembersWithin_close (hkey : KeyText key) (hgap : Blank gap)
    (hvalue : ∀ after, Blank after →
      skipValueWithin bound (after ++ text) = .ok (before ++ '\x7d' :: rest))
    (hbefore : Blank before) :
    skipMembersWithin (bound + 1) (gap ++ (key ++ text)) = .ok rest := by
  apply (skipMembersWithin_key hkey hgap hvalue).1
  rw [skipSpace_append hbefore, skipSpace_cons (by decide)]

theorem skipMembersWithin_comma (hkey : KeyText key) (hgap : Blank gap)
    (hvalue : ∀ after, Blank after →
      skipValueWithin bound (after ++ text) = .ok (before ++ ',' :: rest))
    (hbefore : Blank before) :
    skipMembersWithin (bound + 1) (gap ++ (key ++ text)) = skipMembersWithin bound rest := by
  apply (skipMembersWithin_key hkey hgap hvalue).2
  rw [skipSpace_append hbefore, skipSpace_cons (by decide)]

end Steps

/-- After a member comes the closing brace, or a comma and the next member. -/
theorem skipMembersWithin_enclosed {member : List Char × List Char} (hkey : KeyText member.1)
    (hmember : Passes member.2) {members : List (List Char × List Char)}
    (hkeys : ∀ member ∈ members, KeyText member.1) (hvalues : ∀ member ∈ members, Passes member.2)
    {tail : List Char}
    (htail : Enclosed '\x7d' false (members.map fun member => member.1 ++ member.2) tail)
    {bound : Nat} (hbound : 2 * (member.2.length + tail.length) ≤ bound) {gap : List Char}
    (hgap : Blank gap) (rest : List Char) :
    skipMembersWithin bound (gap ++ (member.1 ++ (member.2 ++ (tail ++ rest)))) = .ok rest := by
  induction members generalizing member tail bound gap with
  | nil =>
    obtain ⟨bound, rfl, hvalue⟩ := hmember.enclosed (.inr rfl) htail hbound rest
    cases htail with
    | close hblank =>
      simp only [List.append_assoc, List.cons_append, List.nil_append] at hvalue ⊢
      exact skipMembersWithin_close hkey hgap hvalue hblank
  | cons next members ih =>
    obtain ⟨bound, rfl, hvalue⟩ := hmember.enclosed (.inr rfl) htail hbound rest
    rw [List.map_cons] at htail
    cases htail with
    | @part _ _ _ later _ hseparator hlater =>
      cases hseparator with
      | next hbefore hafter =>
        have hshorter : 2 * (next.2.length + later.length) ≤ bound := by
          simp only [List.length_append, List.length_cons] at hbound
          omega
        have hrest := ih (hkeys next List.mem_cons_self) (hvalues next List.mem_cons_self)
          (fun member hmem => hkeys member (List.mem_cons_of_mem _ hmem))
          (fun member hmem => hvalues member (List.mem_cons_of_mem _ hmem)) hlater hshorter hafter
        simp only [List.append_assoc, List.cons_append] at hvalue hrest ⊢
        rw [skipMembersWithin_comma hkey hgap hvalue hbefore, hrest]

theorem passes_array {items : List (List Char)} (hopens : ∀ item ∈ items, Opens item)
    (hitems : ∀ item ∈ items, Passes item) {text : List Char}
    (htext : Enclosed ']' true items text) : Passes ('[' :: text) := by
  intro bound rest _ hbound
  cases htext with
  | @close _ gap hgap =>
    have hclosing : skipSpace (gap ++ ']' :: rest) = ']' :: rest := by
      rw [skipSpace_append hgap, skipSpace_cons (by decide)]
    rw [List.cons_append, skipValueWithin, skipSpace_cons (by decide)]
    simp [hclosing]
  | @part _ separator item tail items hseparator htail =>
    cases hseparator with
    | first hgap =>
      have hitem : Passes item := hitems item List.mem_cons_self
      have hshorter : 2 * (item.length + tail.length) ≤ bound := by
        simp only [List.length_append, List.length_cons] at hbound
        omega
      have hrest := skipItemsWithin_enclosed hitem
        (fun item hmem => hitems item (List.mem_cons_of_mem _ hmem)) htail hshorter blank_nil rest
      obtain ⟨character, more, rfl, hspace, hbracket, _⟩ := hopens item List.mem_cons_self
      have hfirst : skipSpace (separator ++ character :: (more ++ (tail ++ rest))) =
          character :: (more ++ (tail ++ rest)) := by
        rw [skipSpace_append hgap, skipSpace_cons hspace]
      simp only [List.append_assoc, List.cons_append, List.nil_append] at hrest ⊢
      rw [skipValueWithin_items (skipSpace_cons (by decide) _) hfirst hbracket, hrest]

theorem passes_object {members : List (List Char × List Char)}
    (hkeys : ∀ member ∈ members, KeyText member.1) (hvalues : ∀ member ∈ members, Passes member.2)
    {text : List Char}
    (htext : Enclosed '\x7d' true (members.map fun member => member.1 ++ member.2) text) :
    Passes ('\x7b' :: text) := by
  intro bound rest _ hbound
  cases members with
  | nil =>
    cases htext with
    | @close _ gap hgap =>
      have hclosing : skipSpace (gap ++ '\x7d' :: rest) = '\x7d' :: rest := by
        rw [skipSpace_append hgap, skipSpace_cons (by decide)]
      rw [List.cons_append, skipValueWithin, skipSpace_cons (by decide)]
      simp [hclosing]
  | cons member members =>
    rw [List.map_cons] at htext
    cases htext with
    | @part _ separator _ tail _ hseparator htail =>
      cases hseparator with
      | first hgap =>
        have hkey := hkeys member List.mem_cons_self
        have hshorter : 2 * (member.2.length + tail.length) ≤ bound := by
          simp only [List.length_append, List.length_cons] at hbound
          omega
        have hrest := skipMembersWithin_enclosed hkey (hvalues member List.mem_cons_self)
          (fun member hmem => hkeys member (List.mem_cons_of_mem _ hmem))
          (fun member hmem => hvalues member (List.mem_cons_of_mem _ hmem)) htail hshorter
          blank_nil rest
        obtain ⟨character, more, hopens, hspace, _, hbrace⟩ := opens_of_keyText hkey
        have hfirst : skipSpace (separator ++ character :: (more ++ (member.2 ++ (tail ++ rest)))) =
            character :: (more ++ (member.2 ++ (tail ++ rest))) := by
          rw [skipSpace_append hgap, skipSpace_cons hspace]
        rw [hopens] at hrest ⊢
        simp only [List.append_assoc, List.cons_append, List.nil_append] at hrest ⊢
        rw [skipValueWithin_members (skipSpace_cons (by decide) _) hfirst hbrace, hrest]

/-- A well-formed value is passed over, whatever follows it. -/
theorem passes_of_wellFormed {text : List Char} (htext : WellFormed text) : Passes text := by
  induction htext with
  | null => exact fun _ _ => rfl
  | true => exact fun _ _ => rfl
  | false => exact fun _ _ => rfl
  | number htext =>
    intro bound rest hrest _
    obtain ⟨_, hspelled⟩ := htext.exists_spelled
    have hskip := skipNumber_spelled hspelled hrest
    obtain ⟨character, more, rfl, hstarts⟩ := hspelled.exists_cons
    have hspace := Literal.isSpace_of_startsWith hstarts
    rw [List.cons_append, skipValueWithin_number (skipSpace_cons hspace _) hstarts]
    exact hskip
  | string htext =>
    intro bound rest _ _
    obtain ⟨body, rfl, hskip⟩ := skipQuoted_stringText htext
    exact hskip rest
  | array hitems henclosed ih =>
    exact passes_array (fun item hmem => opens_of_wellFormed (hitems item hmem)) ih henclosed
  | object hkeys _ henclosed ih => exact passes_object hkeys ih henclosed

theorem skipValue_wellFormed {text gap rest : List Char} (htext : WellFormed text)
    (hgap : Blank gap) (hrest : Ends rest) : skipValue (gap ++ (text ++ rest)) = .ok rest := by
  rw [skipValue, skipValueWithin_gap hgap]
  apply passes_of_wellFormed htext hrest
  simp only [List.length_append]
  omega

end HexChart.Json
