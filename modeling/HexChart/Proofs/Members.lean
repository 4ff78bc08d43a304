import HexChart.Proofs.Answering
import HexChart.Proofs.Passing
import Mathlib.Data.List.ReduceOption

/-!
# Members in any order

An object is read member by member.  A member that no field asks for is passed over, and
all others are gathered until a field comes a second time (`gather`); at the closing brace
they are put into the order of the fields.  What an object is decoded to therefore depends
on nothing but the values of its fields: text order decides which field is named as a
duplicate, the order of the fields decides which one is named as missing, and where neither
is the case no order matters at all (`Form.ReadsObjects`).
-/

namespace HexChart

open HexChart.Json

namespace Json

namespace Reader

/-! ## Objects -/

/-- A member of an object, and the value that it gives to a field, if a field has its name.
Any value may stand under another name. -/
inductive MemberText (fields : List Field) : Option (String × Datum) → List Char → Prop
  | field {name : String} {key part : List Char} {reader : Reader Datum} {datum : Datum}
    (hkey : SpelledName name key) (hfield : fields.lookup name = some reader)
    (hvalue : reader.whole part = .ok datum) :
    MemberText fields (some (name, datum)) (key ++ part)
  | other {name : String} {key part : List Char} (hkey : SpelledName name key)
    (hother : fields.lookup name = none) (hvalue : WellFormed part) :
    MemberText fields none (key ++ part)

/-- An object with spaces around it, and what its members say, in the order of the text. -/
inductive ObjectText (fields : List Field) (told : List (Option (String × Datum))) :
    List Char → Prop
  | mk {before body after : List Char} {members : List (List Char)} (hbefore : Blank before)
    (hmembers : List.Forall₂ (MemberText fields) told members)
    (hbody : Enclosed '\x7d' true members body) (hafter : Blank after) :
    ObjectText fields told (before ++ '\x7b' :: (body ++ after))

theorem objectText_bracketed {fields : List Field} {told : List (Option (String × Datum))}
    {members : List (List Char)} (hmembers : List.Forall₂ (MemberText fields) told members) :
    ObjectText fields told (bracketed .compact 0 '\x7b' '\x7d' members) := by
  obtain ⟨body, hbody, henclosed⟩ := enclosed_bracketed .compact 0 '\x7b' '\x7d' members
  have hobject := ObjectText.mk blank_nil hmembers henclosed blank_nil
  rw [List.append_nil] at hobject
  rwa [hbody]

/-! ## Gathering members -/

/-- The members so far and one more, whose field must not be among them. -/
def enlist (before : List (String × Datum)) (entry : String × Datum) :
    Except Fault (List (String × Datum)) :=
  if (before.lookup entry.1).isSome then .error (.mismatch (.duplicateField entry.1))
  else .ok (entry :: before)

/-- Members after those that were read before, the last one first. -/
def gather (before entries : List (String × Datum)) : Except Fault (List (String × Datum)) :=
  entries.foldlM enlist before

theorem gather_append (before front back : List (String × Datum)) :
    gather before (front ++ back) =
      (gather before front).bind fun before => gather before back :=
  List.foldlM_append

/-- The value of a record, from the members that its fields ask for. -/
def settle (fields : List Field) (entries : List (String × Datum)) :
    Except Fault (List (String × Datum)) :=
  (gather [] entries).bind fun members => arrange members fields

theorem members_gap (fields : List Field) (bound : Nat) (before : List (String × Datum))
    (first : Bool) {gap : List Char} (hgap : Blank gap) (text : List Char) :
    members fields bound before first (gap ++ text) = members fields bound before first text := by
  cases bound with
  | zero => rfl
  | succ bound => rw [members, members, nextTurn, nextTurn, skipSpace_append hgap]

section Steps

variable {fields : List Field} (hsteady : ∀ field ∈ fields, field.2.Steady)

include hsteady

/-- A member is passed over, or it joins those that were read before. -/
theorem members_memberText {told : Option (String × Datum)} {member : List Char}
    (hmember : MemberText fields told member) {first : Bool} {parts : List (List Char)}
    {text : List Char} (htext : Enclosed '\x7d' first (member :: parts) text) :
    ∃ tail, Enclosed '\x7d' false parts tail ∧ ∀ bound before rest,
      members fields (bound + 1) before first (text ++ rest) =
        (gather before told.toList).bind fun before =>
          members fields bound before false (tail ++ rest) := by
  cases hmember with
  | @other name key part hkey hother hvalue =>
    obtain ⟨tail, htail, hturn⟩ := htext.nextTurn_cons (.inr rfl)
      ((opens_of_spelledName hkey).append part)
    refine ⟨tail, htail, fun bound before rest => ?_⟩
    have hends := ends_enclosed (.inr rfl) htail rest
    obtain ⟨quoted, inner, outer, hquoted, hinner, houter, rfl⟩ := hkey
    obtain ⟨body, rfl, hread⟩ := readQuoted_spelledString hquoted
    have hname := hread (inner ++ ':' :: (outer ++ (part ++ (tail ++ rest))))
    have hcolon := expectColon_append hinner (outer ++ (part ++ (tail ++ rest)))
    have hskip := skipValue_wellFormed hvalue houter hends
    rw [members, hturn]
    simp only [List.append_assoc, List.cons_append] at hname ⊢
    simp [hname, hother, hcolon, hskip, gather, bind, Except.bind, pure, Except.pure]
  | @field name key part reader datum hkey hfield hvalue =>
    obtain ⟨gap, tail, hgap, htail, hstep⟩ := members_field hkey hfield htext
    refine ⟨tail, htail, fun bound before rest => ?_⟩
    obtain ⟨blank, hblank, hdatum⟩ :=
      (hsteady _ (mem_of_lookup hfield)).read_of_whole hvalue
    have hpart : reader (gap ++ (part ++ (tail ++ rest))) = .ok (datum, blank ++ (tail ++ rest)) :=
      hdatum gap (tail ++ rest) hgap (ends_enclosed (.inr rfl) htail rest)
    have hrest := members_gap fields bound ((name, datum) :: before) false hblank (tail ++ rest)
    rw [hstep, hpart]
    by_cases hagain : (before.lookup name).isSome
    · simp [hagain, gather, enlist, bind, Except.bind]
    · simp [hagain, hrest, gather, enlist, bind, Except.bind, pure, Except.pure]

/-- What the first members of an object say is gathered in the order of the text. -/
theorem members_append {told : List (Option (String × Datum))} {parts : List (List Char)}
    (htold : List.Forall₂ (MemberText fields) told parts) {others : List (List Char)}
    {first : Bool} {text : List Char} (htext : Enclosed '\x7d' first (parts ++ others) text) :
    ∃ later tail, Enclosed '\x7d' later others tail ∧ ∀ bound before rest,
      members fields (parts.length + bound) before first (text ++ rest) =
        (gather before told.reduceOption).bind fun before =>
          members fields bound before later (tail ++ rest) := by
  induction htold generalizing first text with
  | nil =>
    refine ⟨first, text, htext, fun bound before rest => ?_⟩
    rw [List.length_nil, Nat.zero_add]
    rfl
  | @cons member part told parts hmember _ ih =>
    obtain ⟨tail, htail, hstep⟩ := members_memberText hsteady hmember htext
    obtain ⟨later, last, hlast, hrest⟩ := ih htail
    refine ⟨later, last, hlast, fun bound before rest => ?_⟩
    have htold : (member :: told).reduceOption = member.toList ++ told.reduceOption := by
      cases member <;> rfl
    rw [List.length_cons, Nat.add_right_comm, hstep, htold, gather_append]
    cases gather before member.toList with
    | error fault => rfl
    | ok gathered => exact hrest bound gathered rest

/-- What the members of an object say is gathered in the order of the text. -/
theorem members_told {told : List (Option (String × Datum))} {parts : List (List Char)}
    (htold : List.Forall₂ (MemberText fields) told parts) {bound : Nat}
    (hbound : parts.length < bound) (before : List (String × Datum)) {first : Bool}
    {text : List Char} (htext : Enclosed '\x7d' first parts text) (rest : List Char) :
    members fields bound before first (text ++ rest) =
      (gather before told.reduceOption).bind fun members =>
        (arrange members fields).map (·, rest) := by
  obtain ⟨bound, rfl⟩ := Nat.exists_eq_add_of_lt hbound
  rw [← List.append_nil parts] at htext
  obtain ⟨later, tail, htail, hstep⟩ := members_append hsteady htold htext
  rw [Nat.add_assoc, hstep]
  congr 1
  funext members
  rw [Reader.members, htail.nextTurn_nil (.inr rfl)]

end Steps

/-- An object is decoded by what it says about the fields, and by nothing else. -/
theorem whole_record_objectText (name : String) {fields : List Field}
    (hsteady : ∀ field ∈ fields, field.2.Steady) {told : List (Option (String × Datum))}
    {text : List Char} (htext : ObjectText fields told text) :
    (record name fields).whole text = (settle fields told.reduceOption).map .record := by
  cases htext with
  | @mk before body after members hbefore hmembers hbody hafter =>
    have hbound := hbody.length_lt after
    have hspace : skipSpace after = [] := skipSpace_blank hafter
    rw [whole, record, skipSpace_append hbefore, skipSpace_cons (by decide)]
    simp only [members_told hsteady hmembers hbound [] hbody after, settle]
    cases gather [] told.reduceOption with
    | error fault => rfl
    | ok gathered =>
      simp only [Except.bind]
      cases arrange gathered fields with
      | error fault => rfl
      | ok data => simp [hspace, bind, Except.bind, Except.map]

/-! ## What is gathered -/

theorem isSome_lookup_iff {α : Type} {entries : List (String × α)} {name : String} :
    (entries.lookup name).isSome ↔ name ∈ entries.map Prod.fst := by
  simp only [List.lookup_isSome_iff, beq_iff_eq, List.mem_map]
  exact exists_congr fun entry => and_congr_right fun _ => eq_comm

/-- Where every name stands once, the order of the entries makes no difference. -/
theorem lookup_perm {α : Type} {left right : List (String × α)} (hperm : left.Perm right)
    (hnodup : (left.map Prod.fst).Nodup) (name : String) :
    left.lookup name = right.lookup name := by
  cases hlookup : left.lookup name with
  | none =>
    have habsent : ¬(right.lookup name).isSome := by
      rw [isSome_lookup_iff, ← (hperm.map Prod.fst).mem_iff, ← isSome_lookup_iff, hlookup]
      exact Bool.false_ne_true
    exact (Option.not_isSome_iff_eq_none.mp habsent).symm
  | some value =>
    have hright := (hperm.map Prod.fst).nodup_iff.mp hnodup
    exact (lookup_of_mem hright (hperm.mem_iff.mp (mem_of_lookup hlookup))).symm

section Gathering

variable {fields : List Field} {entries front back : List (String × Datum)}

/-- Members of different fields are gathered, the last one first. -/
theorem gather_of_nodup {before : List (String × Datum)}
    (hnodup : ((before.reverse ++ entries).map Prod.fst).Nodup) :
    gather before entries = .ok (entries.reverse ++ before) := by
  induction entries generalizing before with
  | nil => rfl
  | cons entry entries ih =>
    have hfresh : before.lookup entry.1 = none := by
      simpa using lookup_eq_none hnodup
    have henlist : enlist before entry = .ok (entry :: before) := by simp [enlist, hfresh]
    have hrest : gather (entry :: before) entries = .ok (entries.reverse ++ entry :: before) :=
      ih (by simpa using hnodup)
    calc
      gather before (entry :: entries)
      _ = (enlist before entry).bind (gather · entries) := List.foldlM_cons
      _ = .ok ((entry :: entries).reverse ++ before) := by
        rw [henlist, Except.bind, hrest, List.reverse_cons, List.append_assoc,
          List.singleton_append]

theorem gather_nil_of_nodup (hnodup : (entries.map Prod.fst).Nodup) :
    gather [] entries = .ok entries.reverse := by
  rw [gather_of_nodup (by simpa using hnodup), List.append_nil]

/-- Where a name stands twice, there is a first entry whose name stands before it. -/
theorem exists_duplicate {α : Type} {entries : List (String × α)}
    (htwice : ¬(entries.map Prod.fst).Nodup) :
    ∃ front entry back, entries = front ++ entry :: back ∧ (front.map Prod.fst).Nodup ∧
      entry.1 ∈ front.map Prod.fst := by
  induction entries using List.reverseRecOn with
  | nil => exact absurd List.nodup_nil htwice
  | append_singleton entries last ih =>
    by_cases hnodup : (entries.map Prod.fst).Nodup
    · refine ⟨entries, last, [], rfl, hnodup, ?_⟩
      by_contra hfresh
      apply htwice
      rw [List.map_append, List.map_singleton, List.nodup_append]
      refine ⟨hnodup, List.nodup_singleton _, ?_⟩
      rintro name hmem other hother rfl
      rw [List.mem_singleton] at hother
      exact hfresh (hother ▸ hmem)
    · obtain ⟨front, entry, back, rfl, hfront, hagain⟩ := ih hnodup
      exact ⟨front, entry, back ++ [last], by simp, hfront, hagain⟩

/-- The first member whose field was read before is the one that is named. -/
theorem settle_duplicate {entry : String × Datum} (hnodup : (front.map Prod.fst).Nodup)
    (hagain : entry.1 ∈ front.map Prod.fst) :
    settle fields (front ++ entry :: back) = .error (.mismatch (.duplicateField entry.1)) := by
  have hlookup : (front.reverse.lookup entry.1).isSome = true := by
    rw [isSome_lookup_iff, List.map_reverse, List.mem_reverse]
    exact hagain
  have henlist : enlist front.reverse entry = .error (.mismatch (.duplicateField entry.1)) := by
    rw [enlist, if_pos hlookup]
  have hback : gather front.reverse (entry :: back) =
      (enlist front.reverse entry).bind (gather · back) := List.foldlM_cons
  rw [settle, gather_append, gather_nil_of_nodup hnodup, Except.bind, hback, henlist]
  rfl

/-- Where a field is missing, there is a first one. -/
theorem exists_missing {names : List String} (hmissing : ¬∀ field ∈ fields, field.1 ∈ names) :
    ∃ present field absent, fields = present ++ field :: absent ∧
      (∀ other ∈ present, other.1 ∈ names) ∧ field.1 ∉ names := by
  induction fields with
  | nil => exact absurd (fun field hmem => absurd hmem List.not_mem_nil) hmissing
  | cons field fields ih =>
    by_cases hfirst : field.1 ∈ names
    · rw [List.forall_mem_cons, not_and] at hmissing
      obtain ⟨present, other, absent, rfl, hpresent, habsent⟩ := ih (hmissing hfirst)
      exact ⟨field :: present, other, absent, rfl,
        List.forall_mem_cons.mpr ⟨hfirst, hpresent⟩, habsent⟩
    · exact ⟨[], field, fields, rfl, fun other hmem => absurd hmem List.not_mem_nil, hfirst⟩

/-- The first field that no member gives a value is the one that is named. -/
theorem arrange_missing {members : List (String × Datum)} {present absent : List Field}
    {field : Field} (hpresent : ∀ other ∈ present, other.1 ∈ members.map Prod.fst)
    (habsent : field.1 ∉ members.map Prod.fst) :
    arrange members (present ++ field :: absent) = .error (.mismatch (.missingField field.1)) := by
  induction present with
  | nil =>
    have hlookup : members.lookup field.1 = none := by
      rwa [← isSome_lookup_iff, Option.not_isSome_iff_eq_none] at habsent
    rw [List.nil_append, arrange, hlookup]
  | cons other present ih =>
    obtain ⟨hfirst, hothers⟩ := List.forall_mem_cons.mp hpresent
    obtain ⟨datum, hlookup⟩ := Option.isSome_iff_exists.mp (isSome_lookup_iff.mpr hfirst)
    rw [List.cons_append, arrange, hlookup]
    simp only [ih hothers, Except.map]

theorem exists_arrange {members : List (String × Datum)}
    (hpresent : ∀ field ∈ fields, field.1 ∈ members.map Prod.fst) :
    ∃ data, arrange members fields = .ok data ∧ data.map Prod.fst = fields.map Prod.fst ∧
      data ⊆ members := by
  induction fields with
  | nil => exact ⟨[], rfl, rfl, List.nil_subset _⟩
  | cons field fields ih =>
    obtain ⟨hfirst, hothers⟩ := List.forall_mem_cons.mp hpresent
    obtain ⟨datum, hlookup⟩ := Option.isSome_iff_exists.mp (isSome_lookup_iff.mpr hfirst)
    obtain ⟨data, harrange, hnames, hsubset⟩ := ih hothers
    refine ⟨(field.1, datum) :: data, ?_, ?_, ?_⟩
    · rw [arrange, hlookup]
      simp only [harrange, Except.map]
    · rw [List.map_cons, List.map_cons, hnames]
    · exact List.cons_subset.mpr ⟨mem_of_lookup hlookup, hsubset⟩

theorem arrange_congr {left right : List (String × Datum)}
    (hlookup : ∀ name, left.lookup name = right.lookup name) :
    arrange left fields = arrange right fields := by
  induction fields with
  | nil => rfl
  | cons field fields ih => rw [arrange, arrange, hlookup, ih]

/-- Where no field is named twice, the order of the members makes no difference. -/
theorem settle_perm {other : List (String × Datum)} (hperm : entries.Perm other)
    (hnodup : (entries.map Prod.fst).Nodup) : settle fields entries = settle fields other := by
  have hother := (hperm.map Prod.fst).nodup_iff.mp hnodup
  have hreverse : entries.reverse.Perm other.reverse :=
    (List.reverse_perm entries).trans (hperm.trans (List.reverse_perm other).symm)
  rw [settle, settle, gather_nil_of_nodup hnodup, gather_nil_of_nodup hother]
  apply arrange_congr
  apply lookup_perm hreverse
  rwa [List.map_reverse, List.nodup_reverse]

theorem settle_missing {present absent : List Field} {field : Field}
    (hnodup : (entries.map Prod.fst).Nodup)
    (hpresent : ∀ other ∈ present, other.1 ∈ entries.map Prod.fst)
    (habsent : field.1 ∉ entries.map Prod.fst) :
    settle (present ++ field :: absent) entries =
      .error (.mismatch (.missingField field.1)) := by
  rw [settle, gather_nil_of_nodup hnodup, Except.bind]
  apply arrange_missing
  · simpa using hpresent
  · simpa using habsent

theorem exists_settle (hnodup : (entries.map Prod.fst).Nodup)
    (hpresent : ∀ field ∈ fields, field.1 ∈ entries.map Prod.fst) :
    ∃ data, settle fields entries = .ok data ∧ data.map Prod.fst = fields.map Prod.fst ∧
      data ⊆ entries := by
  obtain ⟨data, harrange, hnames, hsubset⟩ :=
    exists_arrange (by simpa using hpresent : ∀ field ∈ fields, field.1 ∈ entries.reverse.map _)
  refine ⟨data, ?_, hnames, fun item hmem => List.mem_reverse.mp (hsubset hmem)⟩
  rw [settle, gather_nil_of_nodup hnodup, Except.bind, harrange]

end Gathering

end Reader

/-! ## Decoding objects -/

namespace Form

variable {α : Type}

/-- How a form decodes the objects of its fields. -/
structure ReadsObjects (form : Form α) (fields : List Reader.Field) : Prop where
  /-- If a field is named twice, the first member whose field was read before is reported. -/
  duplicate : ∀ {told text}, Reader.ObjectText fields told text →
    ¬(told.reduceOption.map Prod.fst).Nodup →
      ∃ front entry back, told.reduceOption = front ++ entry :: back ∧
        (front.map Prod.fst).Nodup ∧ entry.1 ∈ front.map Prod.fst ∧
          form.decode (String.ofList text) = .error (.mismatch (.duplicateField entry.1))
  /-- If not, and fields are missing, the first of them is reported. -/
  missing : ∀ {told text}, Reader.ObjectText fields told text →
    (told.reduceOption.map Prod.fst).Nodup →
      (¬∀ field ∈ fields, field.1 ∈ told.reduceOption.map Prod.fst) →
        ∃ present field absent, fields = present ++ field :: absent ∧
          (∀ other ∈ present, other.1 ∈ told.reduceOption.map Prod.fst) ∧
            field.1 ∉ told.reduceOption.map Prod.fst ∧
              form.decode (String.ofList text) = .error (.mismatch (.missingField field.1))
  /-- If neither, there is a value, and it is that of the fields in their order. -/
  complete : ∀ {told text}, Reader.ObjectText fields told text →
    (told.reduceOption.map Prod.fst).Nodup →
      (∀ field ∈ fields, field.1 ∈ told.reduceOption.map Prod.fst) →
        ∃ data value, data.map Prod.fst = fields.map Prod.fst ∧ data ⊆ told.reduceOption ∧
          form.ofDatum? (.record data) = some value ∧
            form.decode (String.ofList text) = .ok value
  /-- Neither the order of the members nor those under other names make a difference. -/
  agrees : ∀ {told other text rival}, Reader.ObjectText fields told text →
    Reader.ObjectText fields other rival → (told.reduceOption.map Prod.fst).Nodup →
      told.reduceOption.Perm other.reduceOption →
        form.decode (String.ofList text) = form.decode (String.ofList rival)

theorem IsRecord.decode_objectText {form : Form α} {name : String} {fields : List Reader.Field}
    (hrecord : form.IsRecord name fields) {told : List (Option (String × Datum))}
    {text : List Char} (htext : Reader.ObjectText fields told text) :
    form.decode (String.ofList text) =
      (Reader.settle fields told.reduceOption).bind fun data => form.ofDatum (.record data) := by
  rw [decode, String.toList_ofList, hrecord.reader_eq,
    Reader.whole_record_objectText name hrecord.steady htext]
  cases Reader.settle fields told.reduceOption with
  | error fault => rfl
  | ok data => rfl

theorem IsRecord.readsObjects {form : Form α} {name : String} {fields : List Reader.Field}
    (hrecord : form.IsRecord name fields) : form.ReadsObjects fields where
  duplicate htext htwice := by
    obtain ⟨front, entry, back, hentries, hnodup, hagain⟩ := Reader.exists_duplicate htwice
    refine ⟨front, entry, back, hentries, hnodup, hagain, ?_⟩
    rw [hrecord.decode_objectText htext, hentries, Reader.settle_duplicate hnodup hagain]
    rfl
  missing htext hnodup hmissing := by
    obtain ⟨present, field, absent, hfields, hpresent, habsent⟩ := Reader.exists_missing hmissing
    refine ⟨present, field, absent, hfields, hpresent, habsent, ?_⟩
    rw [hrecord.decode_objectText htext, hfields,
      Reader.settle_missing hnodup hpresent habsent]
    rfl
  complete htext hnodup hpresent := by
    obtain ⟨data, hsettle, hnames, hsubset⟩ := Reader.exists_settle hnodup hpresent
    have hanswers : form.reader.Answers (.record data) := by
      have hwhole := Reader.whole_record_objectText name hrecord.steady htext
      rw [hsettle] at hwhole
      rw [hrecord.reader_eq]
      exact Reader.answers_of_whole hwhole
    obtain ⟨value, hvalue, _⟩ := hrecord.total _ hanswers
    refine ⟨data, value, hnames, hsubset, hvalue, ?_⟩
    rw [hrecord.decode_objectText htext, hsettle, Except.bind, ofDatum, hvalue]
  agrees htext hrival hnodup hperm := by
    rw [hrecord.decode_objectText htext, hrecord.decode_objectText hrival,
      Reader.settle_perm hperm hnodup]

end Form

end Json

/-- Members may come in any order, and others may stand among them: an object is decoded by
the values of its fields alone, and what is wrong with it is always the same. -/
theorem objects_of_members :
    CellRef.form.ReadsObjects CellRef.fields ∧ Census.form.ReadsObjects Census.fields ∧
      Link.edgeForm.ReadsObjects Link.fields ∧ Link.oneWayForm.ReadsObjects Link.fields ∧
        Graph.form.ReadsObjects Graph.fields :=
  ⟨CellRef.isRecord_form.readsObjects, Census.isRecord_form.readsObjects,
    (Link.isRecord_form "EdgeStatement").readsObjects,
    (Link.isRecord_form "OneWayLink").readsObjects, Graph.isRecord_form.readsObjects⟩

/-- References whose number comes first, twice or alone, beside a member nobody asks for. -/
theorem objects_of_members_of_references :
    CellRef.form.decode "\x7b\"index\":7,\"note\":null,\"index\":8\x7d" =
        .error (.mismatch (.duplicateField "index")) ∧
      CellRef.form.decode "\x7b\"index\":7,\"note\":null\x7d" =
        .error (.mismatch (.missingField "kind")) ∧
      CellRef.form.decode "\x7b\"index\":7,\"note\":null,\"kind\":\"tile\"\x7d" =
        CellRef.form.decode "\x7b\"kind\":\"tile\",\"index\":7\x7d" ∧
      ∃ ref, CellRef.form.decode "\x7b\"kind\":\"tile\",\"index\":7\x7d" = .ok ref := by
  have hobjects := objects_of_members.1
  have hindex : Reader.MemberText CellRef.fields (some ("index", .count 7))
      (quoted "index" ++ [':'] ++ ['7']) :=
    .field (spelledName_write .compact "index") rfl rfl
  have hagain : Reader.MemberText CellRef.fields (some ("index", .count 8))
      (quoted "index" ++ [':'] ++ ['8']) :=
    .field (spelledName_write .compact "index") rfl rfl
  have htile : Kind.form.reader.whole (quoted "tile") = .ok (.choice "tile") := by
    have hspelled := (Kind.readsBack_form .tile).reads.whole_spelled blank_nil
      (.choice (spelledString_quoted "tile")) blank_nil
    rwa [List.nil_append, List.append_nil] at hspelled
  have hkind : Reader.MemberText CellRef.fields (some ("kind", .choice "tile"))
      (quoted "kind" ++ [':'] ++ quoted "tile") :=
    .field (spelledName_write .compact "kind") rfl htile
  have hnote : Reader.MemberText CellRef.fields none
      (quoted "note" ++ [':'] ++ ['n', 'u', 'l', 'l']) :=
    .other (spelledName_write .compact "note") rfl .null
  have htwice := Reader.objectText_bracketed (.cons hindex (.cons hnote (.cons hagain .nil)))
  have halone := Reader.objectText_bracketed (.cons hindex (.cons hnote .nil))
  have hboth := Reader.objectText_bracketed (.cons hindex (.cons hnote (.cons hkind .nil)))
  have hplain := Reader.objectText_bracketed (.cons hkind (.cons hindex .nil))
  refine ⟨?_, ?_, ?_, ?_⟩
  · obtain ⟨front, entry, back, hentries, _, _, hdecode⟩ :=
      hobjects.duplicate htwice (by decide)
    have hmem : entry ∈ front ++ entry :: back := List.mem_append_right front List.mem_cons_self
    have hname : entry.1 = "index" := by
      rw [← hentries] at hmem
      simp only [List.reduceOption_cons_of_some, List.reduceOption_cons_of_none,
        List.reduceOption_nil, List.mem_cons, List.not_mem_nil, or_false] at hmem
      rcases hmem with rfl | rfl <;> rfl
    rw [hname] at hdecode
    exact hdecode
  · obtain ⟨present, field, absent, hfields, _, habsent, hdecode⟩ :=
      hobjects.missing halone (by decide) (by decide)
    have hmem : field ∈ CellRef.fields := by
      rw [hfields]
      exact List.mem_append_right present List.mem_cons_self
    have hname : field.1 = "kind" := by
      rcases List.mem_pair.mp hmem with rfl | rfl
      · rfl
      · exact absurd (by decide) habsent
    rw [hname] at hdecode
    exact hdecode
  · exact hobjects.agrees hboth hplain (by decide) (.swap _ _ _)
  · obtain ⟨_, ref, _, _, _, hdecode⟩ := hobjects.complete hplain (by decide) (by decide)
    exact ⟨ref, hdecode⟩

end HexChart
