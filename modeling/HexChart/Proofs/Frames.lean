import HexChart.Proofs.Members

/-!
# The place of a number

What stands around one number inside a text (`Frame`): the items before and behind it in a
list, the other fields of a record, which may be an array of its fields or an object with
its members in any order, and the same around that list or record, to whatever depth.  All
other parts can be decoded, so it is the number alone that decides: the outcome of the
whole text is that of the number, put into its place (`Frame.takes`).
-/

namespace HexChart.Json

/-- What stands around one of several parts between brackets. -/
def Around (closing : Char) (left right : List (List Char)) (opening ending : List Char) : Prop :=
  ∀ part, Enclosed closing true (left ++ part :: right) (opening ++ (part ++ ending))

namespace Reader

/-- A text that says a datum, and that begins with a token. -/
structure Tells (reader : Reader Datum) (datum : Datum) (text : List Char) : Prop where
  opens : Opens text
  whole_eq : reader.whole text = .ok datum

theorem Reads.tells {reader : Reader Datum} {datum : Datum} {text : List Char}
    (hreads : Reads reader datum) (htext : datum.Spelled text) : Tells reader datum text where
  opens := opens_of_spelled htext
  whole_eq := by simpa using hreads.whole_spelled blank_nil htext blank_nil

/-- The outcome of reading a text, wherever it stands. -/
def Takes (reader : Reader Datum) (text : List Char) (outcome : Except Fault Datum) : Prop :=
  ∀ gap rest, Blank gap → Ends rest → reader (gap ++ (text ++ rest)) = outcome.map (·, rest)

/-! ## Items of a list -/

theorem items_gap (item : Reader Datum) (bound : Nat) (first : Bool) {gap : List Char}
    (hgap : Blank gap) (text : List Char) :
    items item bound first (gap ++ text) = items item bound first text := by
  cases bound with
  | zero => rfl
  | succ bound => rw [items, items, nextTurn, nextTurn, skipSpace_append hgap]

section Items

variable {item : Reader Datum} {first : Bool} {text : List Char}

/-- The first items of a list are read, whatever the others are read to. -/
theorem items_append (hsteady : Steady item) {data : List Datum} {parts : List (List Char)}
    (hparts : List.Forall₂ (Tells item) data parts) {others : List (List Char)}
    (htext : Enclosed ']' first (parts ++ others) text) :
    ∃ later tail, Enclosed ']' later others tail ∧ ∀ bound rest,
      items item (parts.length + bound) first (text ++ rest) =
        (items item bound later (tail ++ rest)).map (prepend data) := by
  induction hparts generalizing first text with
  | nil =>
    refine ⟨first, text, htext, fun bound rest => ?_⟩
    rw [List.length_nil, Nat.zero_add, map_prepend_nil]
  | @cons datum part data parts hpart _ ih =>
    obtain ⟨tail, htail, hstep⟩ := items_cons hpart.opens htext
    obtain ⟨later, last, hlast, hrest⟩ := ih htail
    refine ⟨later, last, hlast, fun bound rest => ?_⟩
    obtain ⟨blank, hblank, hdatum⟩ := hsteady.read_of_whole hpart.whole_eq
    have hitem : item (part ++ (tail ++ rest)) = .ok (datum, blank ++ (tail ++ rest)) :=
      hdatum [] (tail ++ rest) blank_nil (ends_enclosed (.inl rfl) htail rest)
    rw [List.length_cons, Nat.add_right_comm, hstep, hitem, ← map_prepend_cons, ← hrest,
      ← items_gap item _ false hblank]
    rfl

/-- Where all other items can be read, one of them decides. -/
theorem items_around (hsteady : Steady item) {before after : List Datum}
    {left right : List (List Char)} (hleft : List.Forall₂ (Tells item) before left)
    (hright : List.Forall₂ (Tells item) after right) {part : List Char}
    {outcome : Except Fault Datum} (hopens : Opens part) (htakes : Takes item part outcome)
    (htext : Enclosed ']' first (left ++ part :: right) text) {bound : Nat}
    (hbound : (left ++ part :: right).length < bound) (rest : List Char) :
    items item bound first (text ++ rest) =
      outcome.map fun datum => (before ++ datum :: after, rest) := by
  obtain ⟨more, rfl⟩ : ∃ more, bound = left.length + (right.length + (more + 1) + 1) := by
    rw [List.length_append, List.length_cons] at hbound
    exact ⟨bound - left.length - right.length - 2, by omega⟩
  obtain ⟨later, tail, htail, hfront⟩ := items_append hsteady hleft htext
  obtain ⟨last, hlast, hstep⟩ := items_cons hopens htail
  have hend := hlast
  rw [← List.append_nil right] at hend
  obtain ⟨final, close, hclose, hback⟩ := items_append hsteady hright hend
  have hitem := htakes [] (last ++ rest) blank_nil (ends_enclosed (.inl rfl) hlast rest)
  have hnil : items item (more + 1) final (close ++ rest) = .ok ([], rest) := by
    rw [items, hclose.nextTurn_nil (.inl rfl)]
  rw [hfront, hstep, ← List.nil_append (part ++ _), hitem]
  cases outcome with
  | error fault => rfl
  | ok datum =>
    simp only [Except.map, Except.bind, hback, hnil, prepend_mk, List.append_nil,
      List.singleton_append]

end Items

/-! ## Fields of a record in order -/

theorem elements_gap (wanted : String) (fields : List Field) (index : Nat) {gap : List Char}
    (hgap : Blank gap) (text : List Char) :
    elements wanted fields index (gap ++ text) = elements wanted fields index text := by
  cases fields with
  | nil => rw [elements, elements, skipSpace_append hgap]
  | cons field fields =>
    obtain ⟨name, reader⟩ := field
    rw [elements, elements, nextTurn, nextTurn, skipSpace_append hgap]

/-- Texts that say what the fields of a record have for values, in their order. -/
inductive InOrder : List Field → List (String × Datum) → List (List Char) → Prop
  | nil : InOrder [] [] []
  | cons {name : String} {reader : Reader Datum} {datum : Datum} {part : List Char}
    {fields : List Field} {data : List (String × Datum)} {parts : List (List Char)}
    (hpart : Tells reader datum part) (hothers : InOrder fields data parts) :
    InOrder ((name, reader) :: fields) ((name, datum) :: data) (part :: parts)

section Elements

variable {text : List Char}

/-- The first fields of a record are read, whatever the others are read to. -/
theorem elements_append (index : Nat) {fields : List Field}
    (hsteady : ∀ field ∈ fields, field.2.Steady) {data : List (String × Datum)}
    {parts : List (List Char)} (hparts : InOrder fields data parts) {more : List (List Char)}
    (htext : Enclosed ']' (index == 0) (parts ++ more) text) :
    ∃ tail, Enclosed ']' (index + parts.length == 0) more tail ∧ ∀ wanted others rest,
      elements wanted (fields ++ others) index (text ++ rest) =
        (elements wanted others (index + parts.length) (tail ++ rest)).map (prepend data) := by
  induction hparts generalizing index text with
  | nil =>
    refine ⟨text, htext, fun wanted others rest => ?_⟩
    rw [map_prepend_nil]
    rfl
  | @cons name reader datum part fields data parts hpart _ ih =>
    obtain ⟨hreader, hfields⟩ := List.forall_mem_cons.mp hsteady
    obtain ⟨tail, htail, hstep⟩ := elements_cons hpart.opens htext
    obtain ⟨last, hlast, hrest⟩ := ih (index + 1) hfields htail
    have hindex : index + 1 + parts.length = index + (part :: parts).length := by
      rw [List.length_cons]
      omega
    rw [hindex] at hlast hrest
    refine ⟨last, hlast, fun wanted others rest => ?_⟩
    obtain ⟨blank, hblank, hdatum⟩ := hreader.read_of_whole hpart.whole_eq
    have hitem : reader (part ++ (tail ++ rest)) = .ok (datum, blank ++ (tail ++ rest)) :=
      hdatum [] (tail ++ rest) blank_nil (ends_enclosed (.inl rfl) htail rest)
    rw [List.cons_append, hstep, hitem, ← map_prepend_cons, ← hrest,
      ← elements_gap wanted _ (index + 1) hblank]
    rfl

/-- Where all other fields can be read, one of them decides. -/
theorem elements_around {leftFields rightFields : List Field} {field : Field}
    (hsteady : ∀ other ∈ leftFields ++ field :: rightFields, other.2.Steady)
    {before after : List (String × Datum)} {left right : List (List Char)}
    (hleft : InOrder leftFields before left) (hright : InOrder rightFields after right)
    {part : List Char} {outcome : Except Fault Datum} (hopens : Opens part)
    (htakes : Takes field.2 part outcome)
    (htext : Enclosed ']' true (left ++ part :: right) text) (wanted : String) (rest : List Char) :
    elements wanted (leftFields ++ field :: rightFields) 0 (text ++ rest) =
      outcome.map fun datum => (before ++ (field.1, datum) :: after, rest) := by
  obtain ⟨hleftSteady, hrightSteady⟩ := List.forall_mem_append.mp hsteady
  obtain ⟨tail, htail, hfront⟩ := elements_append 0 hleftSteady hleft htext
  obtain ⟨last, hlast, hstep⟩ := elements_cons hopens htail
  have hend := hlast
  rw [← List.append_nil right] at hend
  obtain ⟨close, hclose, hback⟩ :=
    elements_append (0 + left.length + 1) (List.forall_mem_cons.mp hrightSteady).2 hright
      hend
  have hitem := htakes [] (last ++ rest) blank_nil (ends_enclosed (.inl rfl) hlast rest)
  have hothers := hback wanted [] rest
  rw [List.append_nil, elements_close wanted _ hclose] at hothers
  rw [hfront, hstep, ← List.nil_append (part ++ _), hitem]
  cases outcome with
  | error fault => rfl
  | ok datum =>
    simp only [Except.map, Except.bind, hothers, prepend_mk, List.append_nil,
      List.singleton_append]

end Elements

/-! ## Members of an object -/

/-- The members of an object around one of a field: they give values to all other fields. -/
structure Complements (fields : List Field) (field : String)
    (left right : List (Option (String × Datum))) (before after : List (String × Datum)) :
    Prop where
  order : before.map Prod.fst ++ field :: after.map Prod.fst = fields.map Prod.fst
  perm : (left.reduceOption ++ right.reduceOption).Perm (before ++ after)

namespace Complements

variable {fields : List Field} {field : String} {left right : List (Option (String × Datum))}
  {before after : List (String × Datum)}
  (hcomplements : Complements fields field left right before after)

include hcomplements

theorem perm_entry (datum : Datum) :
    (left.reduceOption ++ (field, datum) :: right.reduceOption).Perm
      (before ++ (field, datum) :: after) :=
  List.perm_middle.trans ((hcomplements.perm.cons _).trans List.perm_middle.symm)

theorem map_fst_eq (datum : Datum) :
    (before ++ (field, datum) :: after).map Prod.fst = fields.map Prod.fst := by
  rw [List.map_append, List.map_cons, hcomplements.order]

variable (hnames : (fields.map Prod.fst).Nodup)

include hnames

theorem nodup (datum : Datum) :
    ((left.reduceOption ++ (field, datum) :: right.reduceOption).map Prod.fst).Nodup := by
  rw [((hcomplements.perm_entry datum).map Prod.fst).nodup_iff, hcomplements.map_fst_eq]
  exact hnames

theorem nodup_left : (left.reduceOption.reverse.map Prod.fst).Nodup := by
  have hnodup := hcomplements.nodup hnames (.count 0)
  rw [List.map_append] at hnodup
  rw [List.map_reverse, List.nodup_reverse]
  exact hnodup.of_append_left

/-- The members before the one of the field are gathered, and the field is not among them. -/
theorem gather_left : gather [] left.reduceOption = .ok left.reduceOption.reverse ∧
    left.reduceOption.reverse.lookup field = none := by
  have hnodup := hcomplements.nodup_left hnames
  constructor
  · rw [List.map_reverse, List.nodup_reverse] at hnodup
    exact gather_nil_of_nodup hnodup
  · rw [lookup_perm (List.reverse_perm _) hnodup]
    exact lookup_eq_none (hcomplements.nodup hnames (.count 0))

/-- With the member of the field, all members are put into the order of the fields. -/
theorem arrange_all (datum : Datum) :
    (gather ((field, datum) :: left.reduceOption.reverse) right.reduceOption).bind
        (arrange · fields) = .ok (before ++ (field, datum) :: after) := by
  have hnodup := hcomplements.nodup hnames datum
  have hperm := hcomplements.perm_entry datum
  rw [gather_of_nodup (by simpa using hnodup), Except.bind]
  apply arrange_of_lookup (hcomplements.map_fst_eq datum)
  intro item hmem
  have hreverse : right.reduceOption.reverse ++ (field, datum) :: left.reduceOption.reverse =
      (left.reduceOption ++ (field, datum) :: right.reduceOption).reverse := by simp
  rw [hreverse]
  apply lookup_of_mem
  · rwa [List.map_reverse, List.nodup_reverse]
  · exact List.mem_reverse.mpr (hperm.mem_iff.mpr hmem)

end Complements

/-- Where all other members can be read, that of one field decides. -/
theorem members_around {fields : List Field} (hnames : (fields.map Prod.fst).Nodup)
    (hsteady : ∀ field ∈ fields, field.2.Steady) {field : String}
    {leftTold rightTold : List (Option (String × Datum))} {before after : List (String × Datum)}
    (hcomplements : Complements fields field leftTold rightTold before after)
    {left right : List (List Char)} (hleft : List.Forall₂ (MemberText fields) leftTold left)
    (hright : List.Forall₂ (MemberText fields) rightTold right) {key part : List Char}
    (hkey : SpelledName field key) {reader : Reader Datum}
    (hfield : fields.lookup field = some reader) {outcome : Except Fault Datum}
    (htakes : Takes reader part outcome) {text : List Char}
    (htext : Enclosed '\x7d' true (left ++ (key ++ part) :: right) text) {bound : Nat}
    (hbound : (left ++ (key ++ part) :: right).length < bound) (rest : List Char) :
    members fields bound [] true (text ++ rest) =
      outcome.map fun datum => (before ++ (field, datum) :: after, rest) := by
  obtain ⟨more, rfl, hmore⟩ :
      ∃ more, bound = left.length + (more + 1) ∧ right.length < more := by
    rw [List.length_append, List.length_cons] at hbound
    exact ⟨bound - left.length - 1, by omega, by omega⟩
  obtain ⟨later, tail, htail, hfront⟩ := members_append hsteady hleft htext
  obtain ⟨gap, last, hgap, hlast, hstep⟩ := members_field hkey hfield htail
  have hpart := htakes gap (last ++ rest) hgap (ends_enclosed (.inr rfl) hlast rest)
  obtain ⟨hgather, hlookup⟩ := hcomplements.gather_left hnames
  rw [hfront, hgather, Except.bind, hstep, hlookup, hpart]
  cases outcome with
  | error fault => rfl
  | ok datum =>
    have hback := members_told hsteady hright hmore
      ((field, datum) :: leftTold.reduceOption.reverse) hlast rest
    obtain ⟨gathered, hgathered, harrange⟩ :=
      bind_eq_ok (hcomplements.arrange_all hnames datum)
    rw [hgathered] at hback
    simp only [Except.bind, harrange, Except.map] at hback
    exact hback

/-! ## Lists and records -/

theorem takes_list {item : Reader Datum} (hsteady : Steady item) {before after : List Datum}
    {left right : List (List Char)} (hleft : List.Forall₂ (Tells item) before left)
    (hright : List.Forall₂ (Tells item) after right) {opening ending : List Char}
    (haround : Around ']' left right opening ending) {part : List Char}
    {outcome : Except Fault Datum} (hopens : Opens part) (htakes : Takes item part outcome) :
    Takes (list item) ('[' :: (opening ++ (part ++ ending)))
      (outcome.map fun datum => .list (before ++ datum :: after)) := by
  intro gap rest hgap _
  have henclosed := haround part
  rw [list, skipSpace_append hgap, List.cons_append, skipSpace_cons (by decide)]
  simp only [items_around hsteady hleft hright hopens htakes henclosed (henclosed.length_lt rest)]
  cases outcome <;> rfl

theorem takes_array (name : String) {leftFields rightFields : List Field} {field : Field}
    (hsteady : ∀ other ∈ leftFields ++ field :: rightFields, other.2.Steady)
    {before after : List (String × Datum)} {left right : List (List Char)}
    (hleft : InOrder leftFields before left) (hright : InOrder rightFields after right)
    {opening ending : List Char} (haround : Around ']' left right opening ending)
    {part : List Char} {outcome : Except Fault Datum} (hopens : Opens part)
    (htakes : Takes field.2 part outcome) :
    Takes (record name (leftFields ++ field :: rightFields)) ('[' :: (opening ++ (part ++ ending)))
      (outcome.map fun datum => .record (before ++ (field.1, datum) :: after)) := by
  intro gap rest hgap _
  rw [record, skipSpace_append hgap, List.cons_append, skipSpace_cons (by decide)]
  simp only [elements_around hsteady hleft hright hopens htakes (haround part)]
  cases outcome <;> rfl

theorem takes_object (name : String) {fields : List Field} (hnames : (fields.map Prod.fst).Nodup)
    (hsteady : ∀ field ∈ fields, field.2.Steady) {field : String}
    {leftTold rightTold : List (Option (String × Datum))} {before after : List (String × Datum)}
    (hcomplements : Complements fields field leftTold rightTold before after)
    {left right : List (List Char)} (hleft : List.Forall₂ (MemberText fields) leftTold left)
    (hright : List.Forall₂ (MemberText fields) rightTold right) {opening ending : List Char}
    (haround : Around '\x7d' left right opening ending) {key part : List Char}
    (hkey : SpelledName field key) {reader : Reader Datum}
    (hfield : fields.lookup field = some reader) {outcome : Except Fault Datum}
    (htakes : Takes reader part outcome) :
    Takes (record name fields) ('\x7b' :: (opening ++ ((key ++ part) ++ ending)))
      (outcome.map fun datum => .record (before ++ (field, datum) :: after)) := by
  intro gap rest hgap _
  have henclosed := haround (key ++ part)
  rw [record, skipSpace_append hgap, List.cons_append, skipSpace_cons (by decide)]
  simp only [members_around hnames hsteady hcomplements hleft hright hkey hfield htakes henclosed
    (henclosed.length_lt rest)]
  cases outcome <;> rfl

/-! ## Frames -/

/-- The fields of a record have different names, and what reads them looks no further. -/
structure Regular (fields : List Field) : Prop where
  nodup : (fields.map Prod.fst).Nodup
  steady : ∀ field ∈ fields, field.2.Steady

/-- What stands around a number in a text, and the datum with the number in its place. -/
inductive Frame : Reader Datum → (Nat → Datum) → List Char → List Char → Prop
  /-- The number stands alone. -/
  | count : Frame .count .count [] []
  /-- The number is in an item of a list. -/
  | item {item : Reader Datum} {fill : Nat → Datum} {front back opening ending : List Char}
    {before after : List Datum} {left right : List (List Char)} (hsteady : Steady item)
    (hframe : Frame item fill front back) (hleft : List.Forall₂ (Tells item) before left)
    (hright : List.Forall₂ (Tells item) after right)
    (haround : Around ']' left right opening ending) :
    Frame (list item) (fun value => .list (before ++ fill value :: after))
      ('[' :: (opening ++ front)) (back ++ ending)
  /-- The number is in a field of a record that is an array. -/
  | element {name : String} {leftFields rightFields : List Field} {field : Field}
    {fill : Nat → Datum} {front back opening ending : List Char}
    {before after : List (String × Datum)} {left right : List (List Char)}
    (hregular : Regular (leftFields ++ field :: rightFields))
    (hframe : Frame field.2 fill front back) (hleft : InOrder leftFields before left)
    (hright : InOrder rightFields after right) (haround : Around ']' left right opening ending) :
    Frame (record name (leftFields ++ field :: rightFields))
      (fun value => .record (before ++ (field.1, fill value) :: after))
      ('[' :: (opening ++ front)) (back ++ ending)
  /-- The number is in a member of a record that is an object. -/
  | member {name : String} {fields : List Field} {field : String} {reader : Reader Datum}
    {fill : Nat → Datum} {key front back opening ending : List Char}
    {leftTold rightTold : List (Option (String × Datum))} {before after : List (String × Datum)}
    {left right : List (List Char)} (hregular : Regular fields)
    (hframe : Frame reader fill front back) (hkey : SpelledName field key)
    (hfield : fields.lookup field = some reader)
    (hcomplements : Complements fields field leftTold rightTold before after)
    (hleft : List.Forall₂ (MemberText fields) leftTold left)
    (hright : List.Forall₂ (MemberText fields) rightTold right)
    (haround : Around '\x7d' left right opening ending) :
    Frame (record name fields) (fun value => .record (before ++ (field, fill value) :: after))
      ('\x7b' :: (opening ++ (key ++ front))) (back ++ ending)

theorem map_map {α β γ : Type} (outcome : Except Fault α) (first : α → β) (second : β → γ) :
    (outcome.map first).map second = outcome.map fun value => second (first value) := by
  cases outcome <;> rfl

namespace Frame

variable {reader : Reader Datum} {fill : Nat → Datum} {front back text : List Char}

theorem opens (hframe : Frame reader fill front back) (htext : Opens text) :
    Opens (front ++ (text ++ back)) := by
  cases hframe with
  | count => simpa using htext
  | item => exact ⟨'[', _, rfl, rfl, by decide, by decide⟩
  | element => exact ⟨'[', _, rfl, rfl, by decide, by decide⟩
  | member => exact ⟨'\x7b', _, rfl, rfl, by decide, by decide⟩

/-- The outcome of a text is that of the number in it, put into its place. -/
theorem takes (hframe : Frame reader fill front back) (htext : Opens text)
    {outcome : Except Fault Nat} (htakes : Takes Reader.count text (outcome.map .count)) :
    Takes reader (front ++ (text ++ back)) (outcome.map fill) := by
  induction hframe with
  | count => simpa using htakes
  | @item item fill front back opening ending _ _ _ _ hsteady hframe hleft hright haround ih =>
    have hlist := takes_list hsteady hleft hright haround (hframe.opens htext) ih
    rw [map_map] at hlist
    simpa using hlist
  | @element name _ _ field fill front back opening ending _ _ _ _ hregular hframe hleft hright
      haround ih =>
    have harray := takes_array name hregular.steady hleft hright haround (hframe.opens htext) ih
    rw [map_map] at harray
    simpa using harray
  | @member name fields field reader fill key front back opening ending _ _ _ _ _ _ hregular hframe
      hkey hfield hcomplements hleft hright haround ih =>
    have hobject := takes_object name hregular.nodup hregular.steady hcomplements hleft hright
      haround hkey hfield ih
    rw [map_map] at hobject
    simpa using hobject

end Frame

end Reader

end HexChart.Json
