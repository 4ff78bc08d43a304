import HexChart.Proofs.Carrying
import HexChart.Proofs.Roundtrip

/-!
# Readers answer data of their own form

Whatever text a reader is given, the datum that it answers has the shape that it wants: a
name is one of the names that are known, and a record has a value for each field, in the
order of the fields (`Reader.answersFields_of_record`).  So every datum that the reader of
a form answers is that of a value of the form (`Form.Total`).
-/

namespace HexChart

open HexChart.Json

namespace Json

namespace Reader

/-- A reader answers a datum on some text. -/
def Answers (reader : Reader Datum) (datum : Datum) : Prop :=
  ∃ text rest, reader text = .ok (datum, rest)

theorem answers_of_whole {reader : Reader Datum} {text : List Char} {datum : Datum}
    (hwhole : reader.whole text = .ok datum) : reader.Answers datum := by
  obtain ⟨⟨found, rest⟩, hread, hend⟩ := bind_eq_ok hwhole
  dsimp only at hend
  split at hend
  · cases hend
    exact ⟨text, rest, hread⟩
  · cases hend

theorem exists_of_answers_text {datum : Datum} (hanswers : Answers text datum) :
    ∃ value, datum = .text value := by
  obtain ⟨input, rest, hread⟩ := hanswers
  unfold text at hread
  split at hread
  · cases hread
  · obtain ⟨_, _, heq⟩ := map_eq_ok hread
    cases heq
    exact ⟨_, rfl⟩
  · exact absurd hread (refuse_ne_ok _ _ _)

theorem exists_of_answers_count {datum : Datum} (hanswers : Answers count datum) :
    ∃ value, datum = .count value := by
  obtain ⟨input, rest, hread⟩ := hanswers
  unfold count at hread
  split at hread
  · cases hread
  · split at hread
    · split at hread
      · cases hread
        exact ⟨_, rfl⟩
      · cases hread
      · cases hread
      · cases hread
    · exact absurd hread (refuse_ne_ok _ _ _)

theorem mem_of_known {names : List String} {characters : List Char} {datum : Datum}
    (hknown : known names characters = .ok datum) : ∃ name ∈ names, datum = .choice name := by
  rw [known] at hknown
  split at hknown
  · next hmem =>
    cases hknown
    exact ⟨_, by simpa using hmem, rfl⟩
  · cases hknown

theorem mem_of_answers_choice {names : List String} {datum : Datum}
    (hanswers : Answers (choice names) datum) : ∃ name ∈ names, datum = .choice name := by
  obtain ⟨input, rest, hread⟩ := hanswers
  unfold choice at hread
  split at hread
  · cases hread
  · obtain ⟨_, _, hread⟩ := bind_eq_ok hread
    obtain ⟨_, hknown, hread⟩ := bind_eq_ok hread
    cases hread
    exact mem_of_known hknown
  · split at hread
    · cases hread
    · obtain ⟨_, _, hread⟩ := bind_eq_ok hread
      obtain ⟨_, hknown, hread⟩ := bind_eq_ok hread
      obtain ⟨_, _, hread⟩ := bind_eq_ok hread
      obtain ⟨_, _, hread⟩ := bind_eq_ok hread
      cases hread
      exact mem_of_known hknown
    · cases hread
  · cases hread

theorem answers_of_items {item : Reader Datum} {bound : Nat} {first : Bool} {input rest : List Char}
    {data : List Datum} (hread : items item bound first input = .ok (data, rest)) :
    ∀ datum ∈ data, Answers item datum := by
  induction bound generalizing first input data with
  | zero => cases hread
  | succ bound ih =>
    cases items_eq_ok_iff.mp hread with
    | close => exact fun datum hmem => absurd hmem List.not_mem_nil
    | item _ hdatum hothers => exact List.forall_mem_cons.mpr ⟨⟨_, _, hdatum⟩, ih hothers⟩

theorem exists_of_answers_list {item : Reader Datum} {datum : Datum}
    (hanswers : Answers (list item) datum) :
    ∃ data, datum = .list data ∧ ∀ datum ∈ data, Answers item datum := by
  obtain ⟨input, rest, hread⟩ := hanswers
  unfold list at hread
  split at hread
  · cases hread
  · obtain ⟨⟨data, final⟩, hdata, heq⟩ := map_eq_ok hread
    cases heq
    exact ⟨data, rfl, answers_of_items hdata⟩
  · exact absurd hread (refuse_ne_ok _ _ _)

/-! ## Records -/

/-- A record has what the readers of its fields answer, field by field. -/
def AnswersFields (fields : List Field) (data : List (String × Datum)) : Prop :=
  List.Forall₂ (fun field item => item.1 = field.1 ∧ Answers field.2 item.2) fields data

theorem AnswersFields.eq_nil {data : List (String × Datum)} (hdata : AnswersFields [] data) :
    data = [] := by
  cases hdata
  rfl

theorem AnswersFields.exists_cons {name : String} {reader : Reader Datum} {fields : List Field}
    {data : List (String × Datum)} (hdata : AnswersFields ((name, reader) :: fields) data) :
    ∃ datum others, data = (name, datum) :: others ∧ Answers reader datum ∧
      AnswersFields fields others := by
  cases hdata with
  | @cons _ item _ others hitem hothers =>
    obtain ⟨_, datum⟩ := item
    obtain ⟨rfl, hanswers⟩ := hitem
    exact ⟨datum, others, rfl, hanswers, hothers⟩

theorem answersFields_of_elements {wanted : String} {fields : List Field} {index : Nat}
    {input rest : List Char} {data : List (String × Datum)}
    (hread : elements wanted fields index input = .ok (data, rest)) :
    AnswersFields fields data := by
  induction fields generalizing index input data with
  | nil =>
    unfold elements at hread
    split at hread
    · cases hread
    · cases hread
      exact .nil
    · cases hread
  | cons field fields ih =>
    obtain ⟨name, reader⟩ := field
    obtain ⟨part, behind, datum, others, _, hdatum, hothers, rfl⟩ := elements_eq_ok_iff.mp hread
    exact .cons ⟨rfl, part, behind, hdatum⟩ (ih hothers)

/-- A member is what the reader of its field answers. -/
def AnswersMember (fields : List Field) (entry : String × Datum) : Prop :=
  ∃ reader, fields.lookup entry.1 = some reader ∧ Answers reader entry.2

theorem answersFields_of_arrange {fields part : List Field} (hnames : (fields.map Prod.fst).Nodup)
    (hpart : part ⊆ fields) {members data : List (String × Datum)}
    (hmembers : ∀ entry ∈ members, AnswersMember fields entry)
    (harrange : arrange members part = .ok data) : AnswersFields part data := by
  induction part generalizing data with
  | nil =>
    cases harrange
    exact .nil
  | cons field part ih =>
    obtain ⟨name, reader⟩ := field
    obtain ⟨hmem, hpart⟩ := List.cons_subset.mp hpart
    rw [arrange] at harrange
    split at harrange
    · cases harrange
    · next datum hlookup =>
      obtain ⟨others, hothers, rfl⟩ := map_eq_ok harrange
      obtain ⟨found, hfound, hanswers⟩ := hmembers _ (mem_of_lookup hlookup)
      have hreader : found = reader :=
        Option.some.inj (hfound.symm.trans (lookup_of_mem hnames hmem))
      rw [hreader] at hanswers
      exact .cons ⟨rfl, hanswers⟩ (ih hpart hothers)

theorem answersFields_of_members {fields : List Field} (hnames : (fields.map Prod.fst).Nodup)
    {bound : Nat} {before : List (String × Datum)}
    (hbefore : ∀ entry ∈ before, AnswersMember fields entry) {first : Bool}
    {input rest : List Char} {data : List (String × Datum)}
    (hread : members fields bound before first input = .ok (data, rest)) :
    AnswersFields fields data := by
  induction bound generalizing before first input with
  | zero => cases hread
  | succ bound ih =>
    cases members_eq_ok_iff.mp hread with
    | close _ harrange =>
      exact answersFields_of_arrange hnames (List.Subset.refl fields) hbefore harrange
    | other _ _ _ _ _ hothers => exact ih hbefore hothers
    | @field _ name _ _ _ reader datum _ _ hfield _ _ hdatum hothers =>
      have hentry : AnswersMember fields (String.ofList name, datum) :=
        ⟨reader, hfield, _, _, hdatum⟩
      exact ih (List.forall_mem_cons.mpr ⟨hentry, hbefore⟩) hothers

theorem answersFields_of_record {name : String} {fields : List Field}
    (hnames : (fields.map Prod.fst).Nodup) {datum : Datum}
    (hanswers : Answers (record name fields) datum) :
    ∃ data, datum = .record data ∧ AnswersFields fields data := by
  obtain ⟨input, rest, hread⟩ := hanswers
  unfold record at hread
  split at hread
  · cases hread
  · obtain ⟨⟨data, final⟩, hdata, heq⟩ := map_eq_ok hread
    cases heq
    exact ⟨data, rfl, answersFields_of_elements hdata⟩
  · obtain ⟨⟨data, final⟩, hdata, heq⟩ := map_eq_ok hread
    cases heq
    refine ⟨data, rfl, answersFields_of_members hnames ?_ hdata⟩
    exact fun entry hmem => absurd hmem List.not_mem_nil
  · exact absurd hread (refuse_ne_ok _ _ _)

end Reader

namespace Form

variable {α : Type}

/-- Every datum that the reader of a form answers leads to a value, and is its datum. -/
def Total (form : Form α) : Prop :=
  ∀ datum, form.reader.Answers datum →
    ∃ value, form.ofDatum? datum = some value ∧ form.toDatum value = datum

/-- The reader of a form reads a record of these fields, and every record that they answer
leads to a value and is its datum. -/
structure IsRecord (form : Form α) (name : String) (fields : List Reader.Field) : Prop where
  reader_eq : form.reader = .record name fields
  nodup : (fields.map Prod.fst).Nodup
  steady : ∀ field ∈ fields, field.2.Steady
  exists_value : ∀ {data}, Reader.AnswersFields fields data →
    ∃ value, form.ofDatum? (.record data) = some value ∧ form.toDatum value = .record data

namespace IsRecord

variable {form : Form α} {name : String} {fields : List Reader.Field}
  (hrecord : form.IsRecord name fields)

include hrecord

theorem total : form.Total := by
  intro datum hanswers
  rw [hrecord.reader_eq] at hanswers
  obtain ⟨data, rfl, hdata⟩ := Reader.answersFields_of_record hrecord.nodup hanswers
  exact hrecord.exists_value hdata

theorem steady_reader : form.reader.Steady := by
  rw [hrecord.reader_eq]
  exact Reader.steady_record name hrecord.steady

end IsRecord

end Form

end Json

/-! ## The forms of the library -/

theorem Direction.total_form : form.Total := by
  intro datum hanswers
  obtain ⟨name, hmem, rfl⟩ := Reader.mem_of_answers_choice hanswers
  obtain ⟨direction, _, rfl⟩ := List.mem_map.mp hmem
  exact ⟨direction, ofName?_name direction, rfl⟩

theorem Kind.total_form : form.Total := by
  intro datum hanswers
  obtain ⟨name, hmem, rfl⟩ := Reader.mem_of_answers_choice hanswers
  obtain ⟨kind, _, rfl⟩ := List.mem_map.mp hmem
  exact ⟨kind, ofName?_name kind, rfl⟩

/-- The fields of a reference, in their order. -/
def CellRef.fields : List Reader.Field :=
  [("kind", Kind.form.reader), ("index", .count)]

theorem CellRef.isRecord_form : form.IsRecord "CellRef" fields where
  reader_eq := rfl
  nodup := by decide
  steady := by
    simp [fields, Reader.steady_count, Kind.form, Form.ofNames, Reader.steady_choice]
  exists_value := by
    intro data hdata
    obtain ⟨_, _, rfl, hkind, hdata⟩ := hdata.exists_cons
    obtain ⟨_, _, rfl, hindex, hdata⟩ := hdata.exists_cons
    obtain rfl := hdata.eq_nil
    obtain ⟨kind, hkind, rfl⟩ := Kind.total_form _ hkind
    obtain ⟨index, rfl⟩ := Reader.exists_of_answers_count hindex
    exact ⟨⟨kind, index⟩, by simp [form, hkind], rfl⟩

/-- The fields of counts, in their order. -/
def Census.fields : List Reader.Field :=
  [("roads", .count), ("junctions", .count), ("tiles", .count), ("flippables", .count),
    ("oceans", .count)]

theorem Census.isRecord_form : form.IsRecord "KindCounts" fields where
  reader_eq := rfl
  nodup := by decide
  steady := by simp [fields, Reader.steady_count]
  exists_value := by
    intro data hdata
    obtain ⟨_, _, rfl, hroad, hdata⟩ := hdata.exists_cons
    obtain ⟨_, _, rfl, hjunction, hdata⟩ := hdata.exists_cons
    obtain ⟨_, _, rfl, htile, hdata⟩ := hdata.exists_cons
    obtain ⟨_, _, rfl, hflippable, hdata⟩ := hdata.exists_cons
    obtain ⟨_, _, rfl, hocean, hdata⟩ := hdata.exists_cons
    obtain rfl := hdata.eq_nil
    obtain ⟨road, rfl⟩ := Reader.exists_of_answers_count hroad
    obtain ⟨junction, rfl⟩ := Reader.exists_of_answers_count hjunction
    obtain ⟨tile, rfl⟩ := Reader.exists_of_answers_count htile
    obtain ⟨flippable, rfl⟩ := Reader.exists_of_answers_count hflippable
    obtain ⟨ocean, rfl⟩ := Reader.exists_of_answers_count hocean
    exact ⟨⟨road, junction, tile, flippable, ocean⟩, rfl, rfl⟩

/-- The fields of a link, in their order. -/
def Link.fields : List Reader.Field :=
  [("from", CellRef.form.reader), ("direction", Direction.form.reader),
    ("to", CellRef.form.reader)]

theorem Link.isRecord_form (name : String) : (form name).IsRecord name fields where
  reader_eq := rfl
  nodup := by decide
  steady := by
    have hends := CellRef.isRecord_form.steady_reader
    simp [fields, hends, Direction.form, Form.ofNames, Reader.steady_choice]
  exists_value := by
    intro data hdata
    obtain ⟨_, _, rfl, hsource, hdata⟩ := hdata.exists_cons
    obtain ⟨_, _, rfl, hdirection, hdata⟩ := hdata.exists_cons
    obtain ⟨_, _, rfl, htarget, hdata⟩ := hdata.exists_cons
    obtain rfl := hdata.eq_nil
    obtain ⟨source, hsource, rfl⟩ := CellRef.isRecord_form.total _ hsource
    obtain ⟨direction, hdirection, rfl⟩ := Direction.total_form _ hdirection
    obtain ⟨target, htarget, rfl⟩ := CellRef.isRecord_form.total _ htarget
    exact ⟨⟨source, direction, target⟩, by simp [form, hsource, hdirection, htarget], rfl⟩

/-- The fields of a graph, in their order. -/
def Graph.fields : List Reader.Field :=
  [("name", .text), ("counts", Census.form.reader), ("edges", .list Link.edgeForm.reader)]

theorem Graph.exists_links {edges : List Datum}
    (hedges : ∀ datum ∈ edges, Link.edgeForm.reader.Answers datum) :
    ∃ links, edges.mapM Link.edgeForm.ofDatum? = some links ∧
      links.map Link.edgeForm.toDatum = edges := by
  induction edges with
  | nil => exact ⟨[], rfl, rfl⟩
  | cons edge edges ih =>
    obtain ⟨hedge, hothers⟩ := List.forall_mem_cons.mp hedges
    obtain ⟨link, hlink, hedge⟩ := (Link.isRecord_form "EdgeStatement").total edge hedge
    obtain ⟨links, hlinks, rfl⟩ := ih hothers
    have hlink : Link.edgeForm.ofDatum? edge = some link := hlink
    refine ⟨link :: links, by simp [List.mapM_cons, hlink, hlinks], ?_⟩
    rw [List.map_cons, ← hedge]
    rfl

theorem Graph.isRecord_form : form.IsRecord "BoardGraph" fields where
  reader_eq := rfl
  nodup := by decide
  steady := by
    have hcounts := Census.isRecord_form.steady_reader
    have hedge : Link.edgeForm.reader.Steady :=
      (Link.isRecord_form "EdgeStatement").steady_reader
    simp [fields, Reader.steady_text, hcounts, Reader.steady_list hedge]
  exists_value := by
    intro data hdata
    obtain ⟨_, _, rfl, hname, hdata⟩ := hdata.exists_cons
    obtain ⟨_, _, rfl, hcounts, hdata⟩ := hdata.exists_cons
    obtain ⟨_, _, rfl, hedges, hdata⟩ := hdata.exists_cons
    obtain rfl := hdata.eq_nil
    obtain ⟨name, rfl⟩ := Reader.exists_of_answers_text hname
    obtain ⟨census, hcensus, rfl⟩ := Census.isRecord_form.total _ hcounts
    obtain ⟨edges, rfl, hanswers⟩ := Reader.exists_of_answers_list hedges
    obtain ⟨links, hlinks, rfl⟩ := exists_links hanswers
    exact ⟨⟨name, census, links⟩, by simp [form, hcensus, hlinks], rfl⟩

end HexChart
