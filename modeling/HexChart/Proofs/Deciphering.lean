import HexChart.Json.Reader
import HexChart.Proofs.Spelling
import Mathlib.Data.List.Nodup

/-!
# Reading what is spelled

A reader takes a spelling of a datum from the front of a text, whatever spaces stand
before it and whatever follows it (`Reader.Reads`).  There is one lemma for each reader:
those of lists and records read their parts one by one and pass from bracket to comma to
bracket, so they read every spelling as soon as the readers of their parts do.
-/

namespace HexChart.Json

/-- A reader takes every spelling of a datum from the front of a text. -/
def Reader.Reads (reader : Reader Datum) (datum : Datum) : Prop :=
  ∀ gap text rest : List Char, Blank gap → datum.Spelled text → Ends rest →
    reader (gap ++ text ++ rest) = .ok (datum, rest)

/-! ## Spaces and separators -/

theorem skipSpace_append {gap : List Char} (hgap : Blank gap) (rest : List Char) :
    skipSpace (gap ++ rest) = skipSpace rest :=
  List.dropWhile_append_of_pos hgap

theorem skipSpace_cons {character : Char} (hcharacter : isSpace character = false)
    (rest : List Char) : skipSpace (character :: rest) = character :: rest := by
  simp [skipSpace, hcharacter]

theorem expectColon_append {gap : List Char} (hgap : Blank gap) (rest : List Char) :
    expectColon (gap ++ ':' :: rest) = .ok rest := by
  rw [expectColon, skipSpace_append hgap, skipSpace_cons (by decide)]
  rfl

/-- After the last part comes the closing bracket. -/
theorem Enclosed.nextTurn_nil {closing : Char} (hclosing : closing = ']' ∨ closing = '\x7d')
    {first : Bool} {text : List Char} (htext : Enclosed closing first [] text)
    (rest : List Char) : nextTurn closing first (text ++ rest) = .ok (.close rest) := by
  have hspace : isSpace closing = false := by
    rcases hclosing with rfl | rfl <;> rfl
  cases htext with
  | close hgap =>
    rw [nextTurn, List.append_assoc, skipSpace_append hgap, List.singleton_append,
      skipSpace_cons hspace]
    simp

/-- What opens behind a separator is the next part. -/
theorem Separator.nextTurn_append {closing : Char}
    (hclosing : closing = ']' ∨ closing = '\x7d') {first : Bool} {separator text : List Char}
    (hseparator : Separator first separator) (hopens : Opens text) :
    nextTurn closing first (separator ++ text) = .ok (.item text) := by
  obtain ⟨character, more, rfl, hspace, hbracket, hbrace⟩ := hopens
  have hne : character ≠ closing := by
    rcases hclosing with rfl | rfl
    · exact hbracket
    · exact hbrace
  have hcomma : ',' ≠ closing := by
    rcases hclosing with rfl | rfl <;> decide
  rw [nextTurn]
  cases hseparator with
  | first hgap =>
    rw [skipSpace_append hgap, skipSpace_cons hspace]
    simp [hne]
  | next hbefore hafter =>
    rw [List.append_assoc, skipSpace_append hbefore, List.cons_append,
      skipSpace_cons (by decide)]
    simp [hcomma, skipSpace_append hafter, skipSpace_cons hspace, hne]

/-- The next part is found behind its separator, and the others follow it. -/
theorem Enclosed.nextTurn_cons {closing : Char} (hclosing : closing = ']' ∨ closing = '\x7d')
    {first : Bool} {part text : List Char} {parts : List (List Char)}
    (htext : Enclosed closing first (part :: parts) text) (hopens : Opens part) :
    ∃ tail, Enclosed closing false parts tail ∧ ∀ rest,
      nextTurn closing first (text ++ rest) = .ok (.item (part ++ (tail ++ rest))) := by
  cases htext with
  | @part _ _ _ tail _ hseparator htail =>
    refine ⟨tail, htail, fun rest => ?_⟩
    rw [List.append_assoc, List.append_assoc]
    exact hseparator.nextTurn_append hclosing (hopens.append (tail ++ rest))

theorem ends_append {gap rest : List Char} (hgap : Blank gap) (hrest : Ends rest) :
    Ends (gap ++ rest) := by
  cases gap with
  | nil => exact hrest
  | cons character gap =>
    have hspace := hgap character List.mem_cons_self
    simp only [isSpace, Bool.or_eq_true, beq_iff_eq] at hspace
    rw [List.cons_append, ends_cons]
    rcases hspace with ((rfl | rfl) | rfl) | rfl <;> decide

/-- After a part there is a comma or a bracket, which cannot go on with a number. -/
theorem ends_enclosed {closing : Char} (hclosing : closing = ']' ∨ closing = '\x7d')
    {parts : List (List Char)} {text : List Char} (htext : Enclosed closing false parts text)
    (rest : List Char) : Ends (text ++ rest) := by
  cases htext with
  | close hgap =>
    rw [List.append_assoc]
    apply ends_append hgap
    rcases hclosing with rfl | rfl <;> exact ends_cons.mpr (by decide)
  | part hseparator _ =>
    cases hseparator with
    | next hbefore _ =>
      simp only [List.append_assoc, List.cons_append]
      exact ends_append hbefore (ends_cons.mpr (by decide))

/-! ## Strings -/

/-- A unit that is the code of a character is no half of a pair of surrogates. -/
theorem not_surrogate (character : Char) :
    isLeading character.toNat = false ∧ isTrailing character.toNat = false := by
  have hvalid : character.toNat < 0xd800 ∨ 0xdfff < character.toNat := by
    rcases character.valid with hlow | ⟨hhigh, _⟩
    · exact .inl hlow
    · exact .inr hhigh
  simp only [isLeading, isTrailing, Bool.and_eq_false_iff, decide_eq_false_iff_not]
  omega

theorem isTrailing_of_isLeading {unit : Nat} (hleading : isLeading unit = true) :
    isTrailing unit = false := by
  simp only [isLeading, isTrailing, Bool.and_eq_true, Bool.and_eq_false_iff, decide_eq_true_eq,
    decide_eq_false_iff_not] at hleading ⊢
  omega

theorem readQuoted_spelledChar {character : Char} {text : List Char}
    (htext : SpelledChar character text) (rest : List Char) :
    readQuoted (text ++ rest) =
      (readQuoted rest).map fun (characters, rest) => (character :: characters, rest) := by
  obtain ⟨hleading, htrailing⟩ := not_surrogate character
  cases htext with
  | plain hquote hslash hcontrol => exact readQuoted_plain hquote hslash hcontrol
  | @letter letter _ hletter =>
    have hescape : readEscape (letter :: rest) = .ok (character, rest) := by
      rw [readEscape, hletter]
      -- the letter that announces digits is no letter of an escape
      rintro rfl
      simp [unescape?] at hletter
    exact readQuoted_backslash hescape
  | unit hunit =>
    apply readQuoted_backslash
    simp [readEscape, readUnit, hunit, hleading, htrailing]
  | pair hfirst hsecond hleads htrails hcharacter =>
    apply readQuoted_backslash
    have hhalf := isTrailing_of_isLeading hleads
    simp [readEscape, readUnit, hfirst, hsecond, hleads, htrails, hhalf, readTrailing,
      joinSurrogates, ← hcharacter]

theorem readQuoted_pieces {characters : List Char} {pieces : List (List Char)}
    (hpieces : List.Forall₂ SpelledChar characters pieces) (rest : List Char) :
    readQuoted (pieces.flatten ++ '"' :: rest) = .ok (characters, rest) := by
  induction hpieces with
  | nil => simp [readQuoted]
  | cons hpiece _ ih =>
    rw [List.flatten_cons, List.append_assoc, readQuoted_spelledChar hpiece, ih]
    rfl

/-- A spelled string begins with a quote, and after it the string is read. -/
theorem readQuoted_spelledString {value : String} {text : List Char}
    (htext : SpelledString value text) :
    ∃ body, text = '"' :: body ∧ ∀ rest, readQuoted (body ++ rest) = .ok (value.toList, rest) := by
  obtain ⟨pieces, hpieces, rfl⟩ := htext
  refine ⟨pieces.flatten ++ ['"'], rfl, fun rest => ?_⟩
  rw [List.append_assoc]
  exact readQuoted_pieces hpieces rest

/-! ## Readers of numbers, texts and names -/

namespace Reader

theorem reads_count {value : Nat} (hvalue : value < Number.limit) :
    Reads count (.count value) := by
  intro gap text rest hgap htext hrest
  cases htext with
  | count =>
    obtain ⟨digit, digits, hdigits, hdigit⟩ := exists_toDigits_eq_cons value
    have hread := readNumber_toDigits hvalue hrest
    have hstarts : Literal.startsWith digit = true := by simp [Literal.startsWith, hdigit]
    rw [hdigits, List.cons_append] at hread
    rw [count, List.append_assoc, skipSpace_append hgap, hdigits, List.cons_append,
      skipSpace_cons (isSpace_of_isDigit hdigit)]
    simp only [hstarts, if_true, hread]

theorem reads_text (value : String) : Reads text (.text value) := by
  intro gap written rest hgap htext _
  cases htext with
  | text htext =>
    obtain ⟨body, rfl, hread⟩ := readQuoted_spelledString htext
    rw [text, List.append_assoc, skipSpace_append hgap, List.cons_append,
      skipSpace_cons (by decide)]
    simp [hread, Except.map]

theorem known_of_mem {names : List String} {name : String} (hmem : name ∈ names) :
    known names name.toList = .ok (.choice name) := by
  simp [known, hmem]

/-- The null of a name that is written as an object is read with the brace after it. -/
theorem nullMember_enclosed {gap text : List Char} (hgap : Blank gap)
    (htext : Enclosed '\x7d' false [] text) (rest : List Char) :
    nullMember (gap ++ ['n', 'u', 'l', 'l'] ++ text ++ rest) = .ok rest := by
  cases htext with
  | @close _ after hafter =>
    have hbrace : skipSpace (after ++ '\x7d' :: rest) = '\x7d' :: rest := by
      rw [skipSpace_append hafter, skipSpace_cons (by decide)]
    have hnull : skipSpace (gap ++ ['n', 'u', 'l', 'l'] ++ (after ++ ['\x7d']) ++ rest) =
        'n' :: 'u' :: 'l' :: 'l' :: (after ++ '\x7d' :: rest) := by
      simp only [List.append_assoc]
      rw [skipSpace_append hgap, List.cons_append, skipSpace_cons (by decide)]
      rfl
    rw [nullMember, hnull]
    simp [expectWord, hbrace]

theorem reads_choice {names : List String} {name : String} (hmem : name ∈ names) :
    Reads (choice names) (.choice name) := by
  intro gap written rest hgap htext _
  rw [choice, List.append_assoc, skipSpace_append hgap]
  cases htext with
  | choice htext =>
    obtain ⟨body, rfl, hread⟩ := readQuoted_spelledString htext
    rw [List.cons_append, skipSpace_cons (by decide)]
    simp [hread, known_of_mem hmem, bind, Except.bind, pure, Except.pure]
  | member hkey henclosed =>
    obtain ⟨quoted, before, after, hquoted, hbefore, hafter, rfl⟩ := hkey
    obtain ⟨body, rfl, hread⟩ := readQuoted_spelledString hquoted
    cases henclosed with
    | @part _ _ _ closing _ hseparator hclosing =>
      cases hseparator with
      | @first inner hinner =>
        have hnull := nullMember_enclosed hafter hclosing rest
        have hcolon := expectColon_append hbefore
          (after ++ ['n', 'u', 'l', 'l'] ++ closing ++ rest)
        have hname := hread
          (before ++ ':' :: (after ++ ['n', 'u', 'l', 'l'] ++ closing ++ rest))
        rw [List.cons_append, skipSpace_cons (by decide)]
        simp only [List.append_assoc, List.cons_append, List.nil_append] at hnull hcolon hname ⊢
        rw [skipSpace_append hinner, skipSpace_cons (by decide)]
        simp [hname, known_of_mem hmem, hcolon, hnull, bind, Except.bind, pure, Except.pure]

/-! ## Readers of lists -/

/-- What was read before, put in front of what is read next. -/
def prepend {α : Type} (data : List α) : List α × List Char → List α × List Char
  | (others, rest) => (data ++ others, rest)

@[simp]
theorem prepend_mk {α : Type} (data others : List α) (rest : List Char) :
    prepend data (others, rest) = (data ++ others, rest) := rfl

theorem map_prepend_nil {α : Type} (outcome : Except Fault (List α × List Char)) :
    outcome.map (prepend []) = outcome := by
  cases outcome <;> rfl

theorem map_prepend_cons {α : Type} (datum : α) (data : List α)
    (outcome : Except Fault (List α × List Char)) :
    (outcome.map (prepend data)).map (prepend [datum]) = outcome.map (prepend (datum :: data)) := by
  cases outcome <;> rfl

/-- An item is read first, and what the others are read to is put behind it. -/
theorem items_cons {item : Reader Datum} {first : Bool} {part text : List Char}
    {parts : List (List Char)} (hopens : Opens part)
    (htext : Enclosed ']' first (part :: parts) text) :
    ∃ tail, Enclosed ']' false parts tail ∧ ∀ bound rest,
      items item (bound + 1) first (text ++ rest) =
        (item (part ++ (tail ++ rest))).bind fun (datum, rest) =>
          (items item bound false rest).map (prepend [datum]) := by
  obtain ⟨tail, htail, hturn⟩ := htext.nextTurn_cons (.inl rfl) hopens
  refine ⟨tail, htail, fun bound rest => ?_⟩
  rw [items, hturn]
  simp only [bind, Except.bind, pure, Except.pure]
  cases item (part ++ (tail ++ rest)) with
  | error fault => rfl
  | ok outcome =>
    dsimp only
    cases items item bound false outcome.2 <;> rfl

theorem items_enclosed {item : Reader Datum} {data : List Datum} {parts : List (List Char)}
    (hparts : List.Forall₂ Datum.Spelled data parts) (hreads : ∀ datum ∈ data, Reads item datum)
    {bound : Nat} (hbound : data.length < bound) {first : Bool} {text : List Char}
    (htext : Enclosed ']' first parts text) (rest : List Char) :
    items item bound first (text ++ rest) = .ok (data, rest) := by
  induction hparts generalizing bound first text with
  | nil =>
    obtain ⟨bound, rfl⟩ := Nat.exists_eq_add_one.mpr hbound
    rw [items, htext.nextTurn_nil (.inl rfl)]
  | @cons datum part data parts hpart _ ih =>
    obtain ⟨bound, rfl⟩ := Nat.exists_eq_add_one.mpr (Nat.zero_lt_of_lt hbound)
    obtain ⟨tail, htail, hstep⟩ := items_cons (opens_of_spelled hpart) htext
    have hitem := hreads datum List.mem_cons_self [] part (tail ++ rest) blank_nil hpart
      (ends_enclosed (.inl rfl) htail rest)
    have hrest := ih (fun datum hmem => hreads datum (List.mem_cons_of_mem _ hmem))
      (Nat.lt_of_succ_lt_succ hbound) htail
    rw [List.nil_append] at hitem
    rw [hstep, hitem]
    simp [hrest, Except.bind, Except.map]

theorem reads_list {item : Reader Datum} {data : List Datum}
    (hreads : ∀ datum ∈ data, Reads item datum) : Reads (list item) (.list data) := by
  intro gap written rest hgap htext _
  cases htext with
  | @list _ parts text hparts henclosed =>
    have hbound : data.length < (text ++ rest).length + 1 := by
      rw [hparts.length_eq]
      exact henclosed.length_lt rest
    rw [list, List.append_assoc, skipSpace_append hgap, List.cons_append,
      skipSpace_cons (by decide)]
    simp only [items_enclosed hparts hreads hbound henclosed, Except.map]

/-! ## Readers of records -/

/-- A record reads field by field: each has its name, and its reader reads its value. -/
def ReadsFields (fields : List Field) (data : List (String × Datum)) : Prop :=
  List.Forall₂ (fun field item => item.1 = field.1 ∧ Reads field.2 item.2) fields data

/-- After the last field comes the closing bracket. -/
theorem elements_close (wanted : String) (index : Nat) {first : Bool} {text : List Char}
    (htext : Enclosed ']' first [] text) (rest : List Char) :
    elements wanted [] index (text ++ rest) = .ok ([], rest) := by
  cases htext with
  | close hgap =>
    rw [elements, List.append_assoc, skipSpace_append hgap, List.singleton_append,
      skipSpace_cons (by decide)]
    rfl

/-- A field is read first, and what the others are read to is put behind it. -/
theorem elements_cons {index : Nat} {name : String} {reader : Reader Datum}
    {part text : List Char} {parts : List (List Char)} (hopens : Opens part)
    (htext : Enclosed ']' (index == 0) (part :: parts) text) :
    ∃ tail, Enclosed ']' false parts tail ∧ ∀ wanted fields rest,
      elements wanted ((name, reader) :: fields) index (text ++ rest) =
        (reader (part ++ (tail ++ rest))).bind fun (datum, rest) =>
          (elements wanted fields (index + 1) rest).map (prepend [(name, datum)]) := by
  obtain ⟨tail, htail, hturn⟩ := htext.nextTurn_cons (.inl rfl) hopens
  refine ⟨tail, htail, fun wanted fields rest => ?_⟩
  rw [elements, hturn]
  simp only [bind, Except.bind, pure, Except.pure]
  cases reader (part ++ (tail ++ rest)) with
  | error fault => rfl
  | ok outcome =>
    dsimp only
    cases elements wanted fields (index + 1) outcome.2 <;> rfl

theorem elements_enclosed (wanted : String) {fields : List Field} {data : List (String × Datum)}
    (hfields : ReadsFields fields data) {parts : List (List Char)}
    (hparts : List.Forall₂ (fun item part => item.2.Spelled part) data parts) {index : Nat}
    {text : List Char} (htext : Enclosed ']' (index == 0) parts text) (rest : List Char) :
    elements wanted fields index (text ++ rest) = .ok (data, rest) := by
  induction hfields generalizing parts index text with
  | nil =>
    cases hparts with
    | nil => exact elements_close wanted index htext rest
  | @cons field item fields data hfield _ ih =>
    obtain ⟨name, reader⟩ := field
    obtain ⟨_, datum⟩ := item
    obtain ⟨rfl, hreads⟩ := hfield
    dsimp only at hreads
    cases hparts with
    | @cons _ part _ parts hpart hparts =>
      obtain ⟨tail, htail, hstep⟩ := elements_cons (opens_of_spelled hpart) htext
      have hitem := hreads [] part (tail ++ rest) blank_nil hpart
        (ends_enclosed (.inl rfl) htail rest)
      have hrest : elements wanted fields (index + 1) (tail ++ rest) = .ok (data, rest) :=
        ih hparts htail
      rw [List.nil_append] at hitem
      rw [hstep, hitem]
      simp [hrest, Except.bind, Except.map]

theorem lookup_eq_none {α : Type} {front back : List (String × α)} {entry : String × α}
    (hnames : ((front ++ entry :: back).map Prod.fst).Nodup) :
    front.lookup entry.1 = none := by
  rw [List.map_append, List.map_cons, List.nodup_append] at hnames
  rw [List.lookup_eq_none_iff]
  intro other hother
  have hne := hnames.2.2 other.1 (List.mem_map_of_mem hother) entry.1 List.mem_cons_self
  simpa using hne.symm

theorem lookup_of_mem {α : Type} {entries : List (String × α)}
    (hnames : (entries.map Prod.fst).Nodup) {entry : String × α}
    (hmem : entry ∈ entries) : entries.lookup entry.1 = some entry.2 := by
  obtain ⟨front, back, rfl⟩ := List.append_of_mem hmem
  rw [List.lookup_append, lookup_eq_none hnames, Option.none_or, List.lookup_cons_self]

/-- Members that hold the value of every field are put into the order of the fields. -/
theorem arrange_of_lookup {fields : List Field} {data members : List (String × Datum)}
    (hnames : data.map Prod.fst = fields.map Prod.fst)
    (hmembers : ∀ item ∈ data, members.lookup item.1 = some item.2) :
    arrange members fields = .ok data := by
  induction fields generalizing data with
  | nil =>
    rw [List.map_nil, List.map_eq_nil_iff] at hnames
    rw [hnames, arrange]
  | cons field fields ih =>
    rw [List.map_cons, List.map_eq_cons_iff] at hnames
    obtain ⟨item, others, rfl, hname, hothers⟩ := hnames
    have hfirst := hmembers item List.mem_cons_self
    rw [hname] at hfirst
    have hrest := ih hothers fun other hmem => hmembers other (List.mem_cons_of_mem _ hmem)
    rw [arrange, hfirst, hrest, ← hname]
    rfl

theorem ReadsFields.map_fst_eq {fields : List Field} {data : List (String × Datum)}
    (hfields : ReadsFields fields data) : data.map Prod.fst = fields.map Prod.fst := by
  induction hfields with
  | nil => rfl
  | cons hfield _ ih => rw [List.map_cons, List.map_cons, hfield.1, ih]

/-- The name of a member leads to the reader of its value. -/
theorem exists_lookup_of_forall₂ {relation : Reader Datum → Datum → Prop}
    {fields : List Field} {data : List (String × Datum)}
    (hfields : List.Forall₂ (fun field item => item.1 = field.1 ∧ relation field.2 item.2)
      fields data) (hnames : (fields.map Prod.fst).Nodup) {item : String × Datum}
    (hmem : item ∈ data) :
    ∃ reader, fields.lookup item.1 = some reader ∧ relation reader item.2 := by
  have hfield : ∃ field ∈ fields, item.1 = field.1 ∧ relation field.2 item.2 := by
    clear hnames
    induction hfields with
    | nil => exact absurd hmem List.not_mem_nil
    | cons hfirst _ ih =>
      rcases List.mem_cons.mp hmem with rfl | hmem
      · exact ⟨_, List.mem_cons_self, hfirst⟩
      · obtain ⟨field, hfield, hrelation⟩ := ih hmem
        exact ⟨field, List.mem_cons_of_mem _ hfield, hrelation⟩
  obtain ⟨field, hfield, hname, hrelation⟩ := hfield
  exact ⟨field.2, hname ▸ lookup_of_mem hnames hfield, hrelation⟩

/-- A member of a field is read when it is its turn, unless there was one before. -/
theorem members_turn {fields : List Field} {name : String} {key : List Char}
    {reader : Reader Datum} (hkey : SpelledName name key)
    (hfield : fields.lookup name = some reader) :
    ∃ gap, Blank gap ∧ ∀ {first input part rest},
      nextTurn '\x7d' first input = .ok (.item (key ++ part ++ rest)) → ∀ bound before,
        members fields (bound + 1) before first input =
          if (before.lookup name).isSome then .error (.mismatch (.duplicateField name))
          else
            (reader (gap ++ (part ++ rest))).bind fun (datum, rest) =>
              members fields bound ((name, datum) :: before) false rest := by
  obtain ⟨quoted, inner, gap, hquoted, hinner, hgap, rfl⟩ := hkey
  obtain ⟨body, rfl, hread⟩ := readQuoted_spelledString hquoted
  refine ⟨gap, hgap, fun {first input part rest} hturn bound before => ?_⟩
  have hname := hread (inner ++ ':' :: (gap ++ (part ++ rest)))
  have hcolon := expectColon_append hinner (gap ++ (part ++ rest))
  rw [members, hturn]
  simp only [List.append_assoc, List.cons_append] at hname ⊢
  simp only [hname, String.ofList_toList, hfield, hcolon, bind, Except.bind]

/-- A member of a field is read unless there was one before, and the others follow it. -/
theorem members_field {fields : List Field} {name : String} {key part : List Char}
    {reader : Reader Datum} (hkey : SpelledName name key)
    (hfield : fields.lookup name = some reader) {first : Bool} {parts : List (List Char)}
    {text : List Char} (htext : Enclosed '\x7d' first ((key ++ part) :: parts) text) :
    ∃ gap tail, Blank gap ∧ Enclosed '\x7d' false parts tail ∧ ∀ bound before rest,
      members fields (bound + 1) before first (text ++ rest) =
        if (before.lookup name).isSome then .error (.mismatch (.duplicateField name))
        else
          (reader (gap ++ (part ++ (tail ++ rest)))).bind fun (datum, rest) =>
            members fields bound ((name, datum) :: before) false rest := by
  obtain ⟨tail, htail, hturn⟩ := htext.nextTurn_cons (.inr rfl)
    ((opens_of_spelledName hkey).append part)
  obtain ⟨gap, hgap, hstep⟩ := members_turn hkey hfield
  exact ⟨gap, tail, hgap, htail, fun bound before rest => hstep (hturn rest) bound before⟩

section Members

variable {fields : List Field} {before : List (String × Datum)} {item : String × Datum}
  {reader : Reader Datum}

/-- A member whose field was not read before is read when it is its turn. -/
theorem members_item (hfresh : before.lookup item.1 = none)
    (hlookup : fields.lookup item.1 = some reader) (hreads : Reads reader item.2)
    {key part input rest : List Char} (hkey : SpelledName item.1 key)
    (hpart : item.2.Spelled part) (hrest : Ends rest) {first : Bool}
    (hturn : nextTurn '\x7d' first input = .ok (.item (key ++ part ++ rest))) (bound : Nat) :
    members fields (bound + 1) before first input =
      members fields bound (item :: before) false rest := by
  obtain ⟨gap, hgap, hstep⟩ := members_turn hkey hlookup
  have hvalue := hreads gap part rest hgap hpart hrest
  rw [List.append_assoc] at hvalue
  rw [hstep hturn, hfresh, hvalue]
  rfl

/-- A member whose field was not read before is read, and the others follow it. -/
theorem members_cons (hfresh : before.lookup item.1 = none)
    (hlookup : fields.lookup item.1 = some reader) (hreads : Reads reader item.2)
    {key part : List Char} (hkey : SpelledName item.1 key) (hpart : item.2.Spelled part)
    {first : Bool} {parts : List (List Char)} {text : List Char}
    (htext : Enclosed '\x7d' first ((key ++ part) :: parts) text) :
    ∃ tail, Enclosed '\x7d' false parts tail ∧ ∀ bound rest,
      members fields (bound + 1) before first (text ++ rest) =
        members fields bound (item :: before) false (tail ++ rest) := by
  obtain ⟨tail, htail, hturn⟩ := htext.nextTurn_cons (.inr rfl)
    ((opens_of_spelledName hkey).append part)
  refine ⟨tail, htail, fun bound rest => ?_⟩
  exact members_item hfresh hlookup hreads hkey hpart (ends_enclosed (.inr rfl) htail rest)
    (hturn rest) bound

end Members

/-- The members that are still to come complete those that were read before. -/
theorem members_enclosed {fields : List Field} (hnames : (fields.map Prod.fst).Nodup)
    {data : List (String × Datum)} (hfields : ReadsFields fields data)
    {before after : List (String × Datum)} (hdata : before.reverse ++ after = data)
    {keys parts : List (List Char)}
    (hkeys : List.Forall₂ (fun item key => SpelledName item.1 key) after keys)
    (hparts : List.Forall₂ (fun item part => item.2.Spelled part) after parts) {bound : Nat}
    (hbound : after.length < bound) {first : Bool} {text : List Char}
    (htext : Enclosed '\x7d' first (List.zipWith (· ++ ·) keys parts) text)
    (rest : List Char) : members fields bound before first (text ++ rest) = .ok (data, rest) := by
  have hdatanames : (data.map Prod.fst).Nodup := by rwa [hfields.map_fst_eq]
  induction hkeys generalizing before parts bound first text with
  | nil =>
    obtain ⟨bound, rfl⟩ := Nat.exists_eq_add_one.mpr hbound
    rw [List.append_nil] at hdata
    subst hdata
    rw [List.map_reverse, List.nodup_reverse] at hdatanames
    have harrange : arrange before fields = .ok before.reverse :=
      arrange_of_lookup hfields.map_fst_eq fun item hmem =>
        lookup_of_mem hdatanames (List.mem_reverse.mp hmem)
    rw [members, htext.nextTurn_nil (.inr rfl)]
    simp [harrange, Except.map]
  | @cons item key after keys hkey _ ih =>
    obtain ⟨bound, rfl⟩ := Nat.exists_eq_add_one.mpr (Nat.zero_lt_of_lt hbound)
    have hmem : item ∈ data := by
      rw [← hdata]
      exact List.mem_append_right _ List.mem_cons_self
    have hfresh : before.lookup item.1 = none := by
      rw [← hdata] at hdatanames
      simpa using lookup_eq_none hdatanames
    obtain ⟨reader, hlookup, hreads⟩ := exists_lookup_of_forall₂ hfields hnames hmem
    cases hparts with
    | cons hpart hparts =>
      obtain ⟨tail, htail, hstep⟩ := members_cons hfresh hlookup hreads hkey hpart htext
      rw [hstep]
      exact ih (by simp [← hdata]) hparts (Nat.lt_of_succ_lt_succ hbound) htail

theorem reads_record (name : String) {fields : List Field}
    (hnames : (fields.map Prod.fst).Nodup) {data : List (String × Datum)}
    (hfields : ReadsFields fields data) : Reads (record name fields) (.record data) := by
  intro gap written rest hgap htext _
  cases htext with
  | @array _ parts text hparts henclosed =>
    rw [record, List.append_assoc, skipSpace_append hgap, List.cons_append,
      skipSpace_cons (by decide)]
    have hread : ∀ wanted, elements wanted fields 0 (text ++ rest) = .ok (data, rest) := by
      intro wanted
      apply elements_enclosed wanted hfields hparts
      exact henclosed
    simp only [hread, Except.map]
  | @object _ keys parts text hkeys hparts henclosed =>
    have hbound : data.length < (text ++ rest).length + 1 := by
      have hlength := henclosed.length_lt rest
      rwa [List.length_zipWith, ← hkeys.length_eq, ← hparts.length_eq, Nat.min_self] at hlength
    rw [record, List.append_assoc, skipSpace_append hgap, List.cons_append,
      skipSpace_cons (by decide)]
    have hread : members fields _ [] true (text ++ rest) = .ok (data, rest) :=
      members_enclosed hnames hfields rfl hkeys hparts hbound henclosed rest
    simp only [hread, Except.map]

end Reader

end HexChart.Json
