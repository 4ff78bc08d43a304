import HexChart.Graph.Header
import HexChart.Proofs.Delivery
import HexChart.Proofs.Roundtrip
import HexChart.Proofs.Telling

/-!
# What the outputs say

A header and a document are written from the same graph, and each of them tells it: two
graphs with the same document are the same, and so are two graphs with the same header as
long as their names hold no line break.  A document tells its datum (`Datum.Told`).  A
header falls into its lines; those around the links have fixed places and tell the name
and the counts, and each of the others tells its link.
-/

namespace HexChart

open HexChart.Json

/-! ## Documents -/

theorem CellRef.told_toDatum (left right : CellRef) :
    (form.toDatum left).Told (form.toDatum right) :=
  Datum.told_record
    (.cons ⟨rfl, Datum.told_choice _ _⟩ (.cons ⟨rfl, Datum.told_count _ _⟩ .nil))

theorem Census.told_toDatum (left right : Census) :
    (form.toDatum left).Told (form.toDatum right) :=
  Datum.told_record
    (.cons ⟨rfl, Datum.told_count _ _⟩ (.cons ⟨rfl, Datum.told_count _ _⟩
      (.cons ⟨rfl, Datum.told_count _ _⟩ (.cons ⟨rfl, Datum.told_count _ _⟩
        (.cons ⟨rfl, Datum.told_count _ _⟩ .nil)))))

theorem Link.told_toDatum (name : String) (left right : Link) :
    ((form name).toDatum left).Told ((form name).toDatum right) :=
  Datum.told_record
    (.cons ⟨rfl, CellRef.told_toDatum _ _⟩ (.cons ⟨rfl, Datum.told_choice _ _⟩
      (.cons ⟨rfl, CellRef.told_toDatum _ _⟩ .nil)))

namespace Graph

theorem told_toDatum (left right : Graph) : (form.toDatum left).Told (form.toDatum right) := by
  have hedges : Datum.Told (.list (left.links.map Link.edgeForm.toDatum))
      (.list (right.links.map Link.edgeForm.toDatum)) := by
    apply Datum.told_list
    intro item hitem other hother
    obtain ⟨leftLink, _, rfl⟩ := List.mem_map.mp hitem
    obtain ⟨rightLink, _, rfl⟩ := List.mem_map.mp hother
    exact Link.told_toDatum _ leftLink rightLink
  exact Datum.told_record (.cons ⟨rfl, Datum.told_text _ _⟩
    (.cons ⟨rfl, Census.told_toDatum _ _⟩ (.cons ⟨rfl, hedges⟩ .nil)))

theorem document_injective : Function.Injective document := by
  intro left right heq
  have htext := congrArg String.toList heq
  simp only [document, Form.encode, String.toList_append, String.toList_ofList] at htext
  have hbreak : Ends "\n".toList := ends_cons.mpr (by decide)
  have hdatum := (told_toDatum left right .pretty 0 _ _ hbreak hbreak htext).1
  have hvalue := congrArg form.ofDatum? hdatum
  rw [ofDatum?_toDatum, ofDatum?_toDatum, Option.some.injEq] at hvalue
  exact hvalue

end Graph

/-! ## Statements -/

/-- A text up to the first of its delimiters, and what comes after that, can be cut apart. -/
theorem delimited_injective {delimiter : Char} {left right rest other : List Char}
    (hleft : delimiter ∉ left) (hright : delimiter ∉ right)
    (heq : left ++ delimiter :: rest = right ++ delimiter :: other) :
    left = right ∧ rest = other := by
  rcases List.append_eq_append_iff.mp heq with ⟨middle, rfl, hrest⟩ | ⟨middle, rfl, hrest⟩
  · cases middle with
    | nil => simpa using hrest
    | cons character middle =>
      rw [List.cons_append, List.cons.injEq] at hrest
      simp [hrest.1] at hright
  · cases middle with
    | nil => simpa using hrest.symm
    | cons character middle =>
      rw [List.cons_append, List.cons.injEq] at hrest
      simp [hrest.1] at hleft

theorem toList_toString (value : Nat) : (toString value).toList = Nat.toDigits 10 value := by
  rw [Nat.toString_eq_repr, Nat.toList_repr]

theorem toString_injective {left right : Nat} (heq : toString left = toString right) :
    left = right := by
  have hdigits := congrArg String.toList heq
  rw [toList_toString, toList_toString] at hdigits
  exact (toDigits_append_injective ends_nil ends_nil (congrArg (· ++ []) hdigits)).1

theorem Kind.accessor_injective {left right : Kind} (heq : left.accessor = right.accessor) :
    left = right := by
  cases left <;> cases right <;> first | rfl | exact absurd heq (by decide)

theorem Direction.constant_injective {left right : Direction}
    (heq : left.constant = right.constant) : left = right := by
  have hname : left.name = right.name := (String.append_right_inj _).mp heq
  have hvalue := congrArg ofName? hname
  rw [ofName?_name, ofName?_name, Option.some.injEq] at hvalue
  exact hvalue

theorem CellRef.toList_label (ref : CellRef) :
    ref.label.toList =
      ref.kind.accessor.toList ++ '(' :: (Nat.toDigits 10 ref.index ++ [')']) := by
  simp [label]

theorem CellRef.label_append_injective {left right : CellRef} {rest other : List Char}
    (heq : left.label.toList ++ rest = right.label.toList ++ other) :
    left = right ∧ rest = other := by
  have hparen : ∀ kind : Kind, '(' ∉ kind.accessor.toList := by
    intro kind
    cases kind <;> decide
  rw [toList_label, toList_label] at heq
  simp only [List.append_assoc, List.cons_append, List.nil_append] at heq
  obtain ⟨hkind, hindex⟩ := delimited_injective (hparen _) (hparen _) heq
  obtain ⟨hindex, hrest⟩ := toDigits_append_injective (ends_cons.mpr (by decide))
    (ends_cons.mpr (by decide)) hindex
  have hkind := Kind.accessor_injective (String.toList_inj.mp hkind)
  cases left
  cases right
  rw [CellRef.mk.injEq]
  exact ⟨⟨hkind, hindex⟩, (List.cons.inj hrest).2⟩

theorem Link.statement_injective : Function.Injective statement := by
  intro left right heq
  have hcomma : ∀ direction : Direction, ',' ∉ direction.constant.toList := by
    intro direction
    cases direction <;> decide
  have htext := congrArg String.toList heq
  simp only [statement, String.toList_append, List.append_assoc,
    List.append_cancel_left_eq] at htext
  obtain ⟨hsource, htext⟩ := CellRef.label_append_injective htext
  obtain ⟨hdirection, htext⟩ := delimited_injective (hcomma left.direction)
    (hcomma right.direction) (List.append_cancel_left htext)
  have htarget := (CellRef.label_append_injective (List.append_cancel_left htext)).1
  have hdirection := Direction.constant_injective (String.toList_inj.mp hdirection)
  cases left
  cases right
  rw [Link.mk.injEq]
  exact ⟨hsource, hdirection, htarget⟩

/-! ## Headers -/

namespace Graph

theorem name_census_eq_of_headerOpening {left right : Graph}
    (heq : left.headerOpening = right.headerOpening) :
    left.name = right.name ∧ left.census = right.census := by
  simp only [headerOpening, List.cons.injEq, String.append_left_inj, String.append_right_inj,
    true_and, and_true] at heq
  obtain ⟨hname, _, hroad, hjunction, htile, hflippable, hocean⟩ := heq
  refine ⟨hname, PerKind.ext_get fun kind => ?_⟩
  cases kind with
  | road => exact toString_injective hroad
  | junction => exact toString_injective hjunction
  | tile => exact toString_injective htile
  | flippable => exact toString_injective hflippable
  | ocean => exact toString_injective hocean

/-- The lines around the links are as many in every header. -/
theorem headerLines_injective : Function.Injective headerLines := by
  intro left right heq
  obtain ⟨hopening, hlinks⟩ := List.append_inj (List.append_cancel_right heq) rfl
  obtain ⟨hname, hcensus⟩ := name_census_eq_of_headerOpening hopening
  have hlinks : left.links = right.links := by
    apply List.map_injective_iff.mpr _ hlinks
    intro leftLink rightLink hline
    exact Link.statement_injective ((String.append_right_inj _).mp hline)
  cases left
  cases right
  rw [Graph.mk.injEq]
  exact ⟨hname, hcensus, hlinks⟩

/-- The two characters that divide headers: the break that ends a line, and the hyphen in
front of a member.  No name, number or direction holds one. -/
def dividers : List Char :=
  ['\n', '-']

theorem forall_mem_dividers {property : Char → Prop} :
    (∀ divider ∈ dividers, property divider) ↔ property '\n' ∧ property '-' := by
  simp [dividers]

theorem not_mem_toDigits {divider : Char} (hdivider : divider ∈ dividers) (value : Nat) :
    divider ∉ Nat.toDigits 10 value := by
  have hdigit : ∀ divider ∈ dividers, divider.isDigit = false :=
    forall_mem_dividers.mpr (by decide)
  intro hmem
  simpa [hdigit divider hdivider] using isDigit_of_mem_toDigits divider hmem

theorem not_mem_label {divider : Char} (hdivider : divider ∈ dividers) (ref : CellRef) :
    divider ∉ ref.label.toList := by
  have hkind : ∀ divider ∈ dividers, ∀ kind ∈ Kind.all, divider ∉ kind.accessor.toList :=
    forall_mem_dividers.mpr (by decide)
  have hparens : ∀ divider ∈ dividers, divider ≠ '(' ∧ divider ≠ ')' :=
    forall_mem_dividers.mpr (by decide)
  simp [CellRef.toList_label, hkind divider hdivider _ (Kind.mem_all ref.kind),
    hparens divider hdivider, not_mem_toDigits hdivider]

theorem not_mem_constant {divider : Char} (hdivider : divider ∈ dividers)
    (direction : Direction) : divider ∉ direction.constant.toList := by
  have hconstant : ∀ divider ∈ dividers, ∀ direction ∈ Direction.all,
      divider ∉ direction.constant.toList :=
    forall_mem_dividers.mpr (by decide)
  exact hconstant divider hdivider direction (Direction.mem_all direction)

theorem break_not_mem_statement (link : Link) : '\n' ∉ link.statement.toList := by
  have hbreak : '\n' ∈ dividers := by decide
  simp [Link.statement, not_mem_label hbreak, not_mem_constant hbreak]

/-- Only the statements of the links divide a line of a header, if its name does not. -/
theorem not_mem_headerOpening {divider : Char} (hdivider : divider ∈ dividers) {graph : Graph}
    (hname : divider ∉ graph.name.toList) :
    ∀ line ∈ graph.headerOpening, divider ∉ line.toList := by
  simp only [headerOpening, List.forall_mem_cons, String.toList_append, List.mem_append, hname,
    toList_toString, not_mem_toDigits hdivider, List.not_mem_nil, false_imp_iff, implies_true]
  rcases List.mem_pair.mp hdivider with rfl | rfl <;> (and_intros <;> decide)

theorem not_mem_headerClosing {divider : Char} (hdivider : divider ∈ dividers) :
    ∀ line ∈ headerClosing, divider ∉ line.toList := by
  have hclosing : ∀ divider ∈ dividers, ∀ line ∈ headerClosing, divider ∉ line.toList :=
    forall_mem_dividers.mpr (by decide)
  exact hclosing divider hdivider

/-- A name without line breaks leaves every line of the header on one line. -/
theorem break_not_mem_of_mem_headerLines {graph : Graph} (hname : '\n' ∉ graph.name.toList) :
    ∀ line ∈ graph.headerLines, '\n' ∉ line.toList := by
  have hbreak : '\n' ∈ dividers := by decide
  intro line hmem
  simp only [headerLines, List.mem_append, List.mem_map] at hmem
  rcases hmem with (hmem | ⟨link, _, rfl⟩) | hmem
  · exact not_mem_headerOpening hbreak hname line hmem
  · rw [String.toList_append, List.mem_append, not_or]
    exact ⟨by decide, break_not_mem_statement link⟩
  · exact not_mem_headerClosing hbreak line hmem

theorem lines_header {graph : Graph} (hname : '\n' ∉ graph.name.toList) :
    Chart.lines graph.header.toList =
      graph.headerLines.map fun line => line.toList ++ ['\n'] := by
  have hrows : ∀ row ∈ graph.headerLines.map String.toList, '\n' ∉ row := by
    intro row hmem
    obtain ⟨line, hline, rfl⟩ := List.mem_map.mp hmem
    exact break_not_mem_of_mem_headerLines hname line hline
  have hlines := Chart.lines_flatMap_break hrows
  rw [List.flatMap_map, List.map_map] at hlines
  rw [header, String.toList_join, List.flatMap_map]
  simpa [Function.comp_def] using hlines

theorem eq_of_header_eq {left right : Graph} (hleft : '\n' ∉ left.name.toList)
    (hright : '\n' ∉ right.name.toList) (heq : left.header = right.header) : left = right := by
  have hlines := congrArg (fun text => Chart.lines text.toList) heq
  simp only [lines_header hleft, lines_header hright] at hlines
  apply headerLines_injective
  apply List.map_injective_iff.mpr _ hlines
  intro leftLine rightLine hline
  exact String.toList_inj.mp (List.append_cancel_right hline)

end Graph

/-! ## Boards -/

namespace Board

theorem not_mem_of_isIdentifier {divider : Char} (hdivider : divider ∈ Graph.dividers)
    {name : String} (hname : isIdentifier name) : divider ∉ name.toList := by
  obtain ⟨first, rest, htext, hfirst, hrest⟩ := (isIdentifier_iff name).mp hname
  have hplain : ∀ divider ∈ Graph.dividers,
      ¬IsLetter divider ∧ ¬IsDigit divider ∧ divider ≠ '_' := by
    rw [Graph.forall_mem_dividers]
    unfold IsLetter IsDigit
    decide
  have houtside := hplain divider hdivider
  rw [htext]
  intro hmem
  rcases List.mem_cons.mp hmem with rfl | hmem
  · simp [houtside] at hfirst
  · simpa [houtside] using hrest divider hmem

theorem break_not_mem_of_isIdentifier {name : String} (hname : isIdentifier name) :
    '\n' ∉ name.toList :=
  not_mem_of_isIdentifier (by decide) hname

variable (left right : Board) (name other : String)

theorem graph_eq_iff :
    left.graph name = right.graph other ↔
      name = other ∧ left.census = right.census ∧ left.links = right.links := by
  rw [graph, graph, Graph.mk.injEq]

/-- Two documents are the same exactly if the names, the counts and the links are.  Under
identifiers as names, so are two headers: neither output merges two graphs. -/
theorem outputs_agree :
    ((left.graph name).document = (right.graph other).document ↔
      name = other ∧ left.census = right.census ∧ left.links = right.links) ∧
    (isIdentifier name → isIdentifier other →
      ((left.graph name).header = (right.graph other).header ↔
        (left.graph name).document = (right.graph other).document)) := by
  constructor
  · rw [Graph.document_injective.eq_iff, graph_eq_iff]
  · intro hname hother
    rw [Graph.document_injective.eq_iff]
    constructor
    · exact Graph.eq_of_header_eq (break_not_mem_of_isIdentifier hname)
        (break_not_mem_of_isIdentifier hother)
    · exact congrArg Graph.header

/-- A road that is moved leaves the header as it is, and another name does not, though the
one ends as the class of the other does. -/
theorem outputs_agree_of_moved_road :
    ∃ left right, parse ['|'] = .ok left ∧ parse ['\n', ' ', '|'] = .ok right ∧
      (left.graph "Road").header = (right.graph "Road").header ∧
      (left.graph "Road").header ≠ (right.graph "RoadBoard").header := by
  refine ⟨_, _, rfl, rfl, ?_, ?_⟩
  · obtain ⟨hdocument, hheader⟩ := outputs_agree _ _ "Road" "Road"
    exact (hheader (by decide) (by decide)).mpr (hdocument.mpr (by decide))
  · obtain ⟨hdocument, hheader⟩ := outputs_agree _ _ "Road" "RoadBoard"
    rw [Ne, hheader (by decide) (by decide), hdocument]
    decide

end Board

end HexChart
