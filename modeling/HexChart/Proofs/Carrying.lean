import HexChart.Proofs.Continuation

/-!
# Readers of data look no further

What a reader takes from a text it takes from every longer one (`Reader.Carries`).  The
bounds of lists and objects only grow with the text, and whatever is read inside a bracket
is followed by something, at least by the bracket that closes it.
-/

namespace HexChart.Json

theorem refuse_ne_ok {α : Type} (wanted : String) (text : List Char) (value : α) :
    refuse wanted text ≠ .ok value := by
  unfold refuse
  split <;> simp

namespace Reader

variable {α : Type}

/-- What the one reader takes from a text, the other takes with more text behind it. -/
def Carries (small large : Reader α) : Prop :=
  ∀ ⦃text value rest⦄, small text = .ok (value, rest) →
    ∀ ⦃more⦄, Apart rest more → large (text ++ more) = .ok (value, rest ++ more)

theorem carries_text : Carries text text := by
  intro input datum rest hread more _
  unfold text at hread
  split at hread
  · cases hread
  · next hspace =>
    obtain ⟨⟨characters, behind⟩, hquoted, heq⟩ := map_eq_ok hread
    cases heq
    rw [text, skipSpace_more hspace]
    simp [readQuoted_more hquoted, Except.map]
  · exact absurd hread (refuse_ne_ok _ _ _)

theorem carries_count : Carries count count := by
  intro input datum rest hread more hapart
  unfold count at hread
  split at hread
  · cases hread
  · next hspace =>
    rw [count, skipSpace_more hspace]
    split at hread
    · next hstarts =>
      split at hread
      · next hnumber =>
        cases hread
        have hmore := readNumber_more hnumber hapart
        rw [List.cons_append] at hmore
        simp only [hstarts, if_true, hmore]
      · cases hread
      · cases hread
      · cases hread
    · exact absurd hread (refuse_ne_ok _ _ _)

theorem nullMember_more {input rest : List Char} (hread : nullMember input = .ok rest)
    (more : List Char) : nullMember (input ++ more) = .ok (rest ++ more) := by
  unfold nullMember at hread
  split at hread
  · cases hread
  · next hspace =>
    split at hread
    · cases hread
    · next hword =>
      split at hread
      · cases hread
      · next hbrace =>
        cases hread
        rw [nullMember, skipSpace_more hspace]
        simp [expectWord_more hword, skipSpace_more hbrace]
      · cases hread
  · exact absurd hread (refuse_ne_ok _ _ _)

theorem carries_choice (names : List String) : Carries (choice names) (choice names) := by
  intro input datum rest hread more _
  unfold choice at hread
  split at hread
  · cases hread
  · next hspace =>
    obtain ⟨⟨characters, behind⟩, hquoted, hread⟩ := bind_eq_ok hread
    obtain ⟨found, hknown, hread⟩ := bind_eq_ok hread
    cases hread
    rw [choice, skipSpace_more hspace]
    simp [readQuoted_more hquoted, hknown, bind, Except.bind, pure, Except.pure]
  · next hspace =>
    split at hread
    · cases hread
    · next hname =>
      obtain ⟨⟨characters, behind⟩, hquoted, hread⟩ := bind_eq_ok hread
      obtain ⟨found, hknown, hread⟩ := bind_eq_ok hread
      obtain ⟨value, hcolon, hread⟩ := bind_eq_ok hread
      obtain ⟨final, hnull, hread⟩ := bind_eq_ok hread
      cases hread
      rw [choice, skipSpace_more hspace]
      simp [skipSpace_more hname, readQuoted_more hquoted, hknown, expectColon_more hcolon,
        nullMember_more hnull, bind, Except.bind, pure, Except.pure]
    · cases hread
  · cases hread

/-! ## Items of a list -/

/-- How the items of a list are read: the bracket closes them, or one more is read. -/
inductive ItemsStep (item : Reader Datum) (bound : Nat) (first : Bool) (input rest : List Char) :
    List Datum → Prop
  | close (hturn : nextTurn ']' first input = .ok (.close rest)) :
    ItemsStep item bound first input rest []
  | item {part behind : List Char} {datum : Datum} {others : List Datum}
    (hturn : nextTurn ']' first input = .ok (.item part)) (hdatum : item part = .ok (datum, behind))
    (hothers : items item bound false behind = .ok (others, rest)) :
    ItemsStep item bound first input rest (datum :: others)

theorem items_eq_ok_iff {item : Reader Datum} {bound : Nat} {first : Bool}
    {input rest : List Char} {data : List Datum} :
    items item (bound + 1) first input = .ok (data, rest) ↔
      ItemsStep item bound first input rest data := by
  constructor
  · intro hread
    rw [items] at hread
    split at hread
    · cases hread
    · next hturn =>
      cases hread
      exact .close hturn
    · next hturn =>
      obtain ⟨⟨datum, behind⟩, hdatum, hread⟩ := bind_eq_ok hread
      obtain ⟨⟨others, final⟩, hothers, hread⟩ := bind_eq_ok hread
      cases hread
      exact .item hturn hdatum hothers
  · intro hstep
    cases hstep with
    | close hturn => rw [items, hturn]
    | item hturn hdatum hothers =>
      rw [items, hturn]
      simp [hdatum, hothers, bind, Except.bind, pure, Except.pure]

theorem carries_items {item : Reader Datum} (hitem : Carries item item) {bound larger : Nat}
    (hle : bound ≤ larger) (first : Bool) :
    Carries (items item bound first) (items item larger first) := by
  induction bound generalizing larger first with
  | zero =>
    intro input data rest hread
    cases hread
  | succ bound ih =>
    intro input data rest hread more hapart
    obtain ⟨larger, rfl⟩ := Nat.exists_eq_add_one.mpr (Nat.lt_of_lt_of_le bound.succ_pos hle)
    rw [items_eq_ok_iff] at hread ⊢
    cases hread with
    | close hturn => exact .close (nextTurn_more hturn more)
    | @item part behind datum others hturn hdatum hothers =>
      have hbehind : behind ≠ [] := by
        rintro rfl
        rw [items_nil] at hothers
        cases hothers
      exact .item (nextTurn_more hturn more) (hitem hdatum (apart_of_ne_nil hbehind more))
        (ih (Nat.le_of_succ_le_succ hle) false hothers hapart)

theorem carries_list {item : Reader Datum} (hitem : Carries item item) :
    Carries (list item) (list item) := by
  intro input datum rest hread more hapart
  unfold list at hread
  split at hread
  · cases hread
  · next behind hspace =>
    obtain ⟨⟨data, final⟩, hdata, heq⟩ := map_eq_ok hread
    cases heq
    have hle : behind.length + 1 ≤ (behind ++ more).length + 1 := by
      rw [List.length_append]
      omega
    have hmore := carries_items hitem hle true hdata hapart
    rw [list, skipSpace_more hspace]
    simp only [hmore, Except.map]
  · exact absurd hread (refuse_ne_ok _ _ _)

/-! ## Fields of a record in order -/

theorem elements_eq_ok_iff {wanted name : String} {reader : Reader Datum} {fields : List Field}
    {index : Nat} {input rest : List Char} {data : List (String × Datum)} :
    elements wanted ((name, reader) :: fields) index input = .ok (data, rest) ↔
      ∃ part behind datum others, nextTurn ']' (index == 0) input = .ok (.item part) ∧
        reader part = .ok (datum, behind) ∧
        elements wanted fields (index + 1) behind = .ok (others, rest) ∧
        data = (name, datum) :: others := by
  constructor
  · intro hread
    rw [elements] at hread
    split at hread
    · cases hread
    · cases hread
    · next part hturn =>
      obtain ⟨⟨datum, behind⟩, hdatum, hread⟩ := bind_eq_ok hread
      obtain ⟨⟨others, final⟩, hothers, hread⟩ := bind_eq_ok hread
      cases hread
      exact ⟨part, behind, datum, others, hturn, hdatum, hothers, rfl⟩
  · rintro ⟨part, behind, datum, others, hturn, hdatum, hothers, rfl⟩
    rw [elements, hturn]
    simp [hdatum, hothers, bind, Except.bind, pure, Except.pure]

theorem carries_elements (wanted : String) {fields : List Field}
    (hfields : ∀ field ∈ fields, Carries field.2 field.2) (index : Nat) :
    Carries (elements wanted fields index) (elements wanted fields index) := by
  induction fields generalizing index with
  | nil =>
    intro input data rest hread more _
    unfold elements at hread
    split at hread
    · cases hread
    · next hspace =>
      cases hread
      rw [elements, skipSpace_more hspace]
      rfl
    · cases hread
  | cons field fields ih =>
    obtain ⟨name, reader⟩ := field
    intro input data rest hread more hapart
    rw [elements_eq_ok_iff] at hread ⊢
    obtain ⟨part, behind, datum, others, hturn, hdatum, hothers, rfl⟩ := hread
    have hbehind : behind ≠ [] := by
      rintro rfl
      rw [elements_nil] at hothers
      cases hothers
    have hfirst : Carries reader reader := hfields _ List.mem_cons_self
    have hrest := ih (fun field hmem => hfields field (List.mem_cons_of_mem _ hmem)) (index + 1)
    exact ⟨part ++ more, behind ++ more, datum, others, nextTurn_more hturn more,
      hfirst hdatum (apart_of_ne_nil hbehind more), hrest hothers hapart, rfl⟩

/-! ## Members of an object -/

theorem mem_of_lookup {entries : List (String × α)} {name : String} {value : α}
    (hlookup : entries.lookup name = some value) : (name, value) ∈ entries := by
  obtain ⟨front, back, rfl, _⟩ := List.lookup_eq_some_iff.mp hlookup
  exact List.mem_append_right front List.mem_cons_self

/-- How the members of an object are read: the brace closes them, a member that no field
asks for is passed over, or the value of a field joins those that were read before. -/
inductive MembersStep (fields : List Field) (bound : Nat) (before : List (String × Datum))
    (first : Bool) (input : List Char) (data : List (String × Datum)) (rest : List Char) : Prop
  | close (hturn : nextTurn '\x7d' first input = .ok (.close rest))
    (harrange : arrange before fields = .ok data)
  | other {body name behind value final : List Char}
    (hturn : nextTurn '\x7d' first input = .ok (.item ('"' :: body)))
    (hquoted : readQuoted body = .ok (name, behind))
    (hother : fields.lookup (String.ofList name) = none)
    (hcolon : expectColon behind = .ok value) (hskip : skipValue value = .ok final)
    (hothers : members fields bound before false final = .ok (data, rest))
  | field {body name behind value final : List Char} {reader : Reader Datum} {datum : Datum}
    (hturn : nextTurn '\x7d' first input = .ok (.item ('"' :: body)))
    (hquoted : readQuoted body = .ok (name, behind))
    (hfield : fields.lookup (String.ofList name) = some reader)
    (hfresh : before.lookup (String.ofList name) = none)
    (hcolon : expectColon behind = .ok value) (hdatum : reader value = .ok (datum, final))
    (hothers : members fields bound ((String.ofList name, datum) :: before) false final =
      .ok (data, rest))

theorem members_eq_ok_iff {fields : List Field} {bound : Nat} {before : List (String × Datum)}
    {first : Bool} {input rest : List Char} {data : List (String × Datum)} :
    members fields (bound + 1) before first input = .ok (data, rest) ↔
      MembersStep fields bound before first input data rest := by
  constructor
  · intro hread
    rw [members] at hread
    split at hread
    · cases hread
    · next hturn =>
      obtain ⟨arranged, harrange, heq⟩ := map_eq_ok hread
      cases heq
      exact .close hturn harrange
    · next hturn =>
      obtain ⟨⟨name, behind⟩, hquoted, hread⟩ := bind_eq_ok hread
      dsimp only at hread
      split at hread
      · next hother =>
        obtain ⟨value, hcolon, hread⟩ := bind_eq_ok hread
        obtain ⟨final, hskip, hothers⟩ := bind_eq_ok hread
        exact .other hturn hquoted hother hcolon hskip hothers
      · next hfield =>
        split at hread
        · cases hread
        · next hfresh =>
          obtain ⟨value, hcolon, hread⟩ := bind_eq_ok hread
          obtain ⟨⟨datum, final⟩, hdatum, hothers⟩ := bind_eq_ok hread
          rw [Option.not_isSome_iff_eq_none] at hfresh
          exact .field hturn hquoted hfield hfresh hcolon hdatum hothers
    · cases hread
  · intro hstep
    cases hstep with
    | close hturn harrange =>
      rw [members, hturn]
      simp [harrange, Except.map]
    | other hturn hquoted hother hcolon hskip hothers =>
      rw [members, hturn]
      simp [hquoted, hother, hcolon, hskip, hothers, bind, Except.bind]
    | field hturn hquoted hfield hfresh hcolon hdatum hothers =>
      rw [members, hturn]
      simp [hquoted, hfield, hfresh, hcolon, hdatum, hothers, bind, Except.bind]

theorem carries_members {fields : List Field}
    (hfields : ∀ field ∈ fields, Carries field.2 field.2) {bound larger : Nat}
    (hle : bound ≤ larger) (before : List (String × Datum)) (first : Bool) :
    Carries (members fields bound before first) (members fields larger before first) := by
  induction bound generalizing larger before first with
  | zero =>
    intro input data rest hread
    cases hread
  | succ bound ih =>
    intro input data rest hread more hapart
    obtain ⟨larger, rfl⟩ := Nat.exists_eq_add_one.mpr (Nat.lt_of_lt_of_le bound.succ_pos hle)
    have hlater := Nat.le_of_succ_le_succ hle
    have hcloses : ∀ {others later},
        members fields bound later false others = .ok (data, rest) → Apart others more := by
      intro others later hothers
      apply apart_of_ne_nil
      rintro rfl
      rw [members_nil] at hothers
      cases hothers
    rw [members_eq_ok_iff] at hread ⊢
    cases hread with
    | close hturn harrange => exact .close (nextTurn_more hturn more) harrange
    | other hturn hquoted hother hcolon hskip hothers =>
      exact .other (nextTurn_more hturn more) (readQuoted_more hquoted more) hother
        (expectColon_more hcolon more) (skipValue_more hskip (hcloses hothers))
        (ih hlater before false hothers hapart)
    | field hturn hquoted hfield hfresh hcolon hdatum hothers =>
      exact .field (nextTurn_more hturn more) (readQuoted_more hquoted more) hfield hfresh
        (expectColon_more hcolon more)
        (hfields _ (mem_of_lookup hfield) hdatum (hcloses hothers))
        (ih hlater _ false hothers hapart)

theorem carries_record (name : String) {fields : List Field}
    (hfields : ∀ field ∈ fields, Carries field.2 field.2) :
    Carries (record name fields) (record name fields) := by
  intro input datum rest hread more hapart
  unfold record at hread
  split at hread
  · cases hread
  · next hspace =>
    obtain ⟨⟨data, final⟩, hdata, heq⟩ := map_eq_ok hread
    cases heq
    rw [record, skipSpace_more hspace]
    simp only [carries_elements _ hfields 0 hdata hapart, Except.map]
  · next behind hspace =>
    obtain ⟨⟨data, final⟩, hdata, heq⟩ := map_eq_ok hread
    cases heq
    have hle : behind.length + 1 ≤ (behind ++ more).length + 1 := by
      rw [List.length_append]
      omega
    rw [record, skipSpace_more hspace]
    simp only [carries_members hfields hle [] true hdata hapart, Except.map]
  · exact absurd hread (refuse_ne_ok _ _ _)

/-- A reader passes over spaces before its value, and looks at nothing behind it. -/
structure Steady (reader : Reader α) : Prop where
  skips : ∀ {gap : List Char}, Blank gap → ∀ text, reader (gap ++ text) = reader text
  carries : Carries reader reader

theorem steady_text : Steady text where
  skips hgap input := by rw [text, text, skipSpace_append hgap]
  carries := carries_text

theorem steady_count : Steady count where
  skips hgap input := by rw [count, count, skipSpace_append hgap]
  carries := carries_count

theorem steady_choice (names : List String) : Steady (choice names) where
  skips hgap input := by rw [choice, choice, skipSpace_append hgap]
  carries := carries_choice names

theorem steady_list {item : Reader Datum} (hitem : Steady item) : Steady (list item) where
  skips hgap input := by rw [list, list, skipSpace_append hgap]
  carries := carries_list hitem.carries

theorem steady_record (name : String) {fields : List Field}
    (hfields : ∀ field ∈ fields, Steady field.2) : Steady (record name fields) where
  skips hgap input := by rw [record, record, skipSpace_append hgap]
  carries := carries_record name fun field hmem => (hfields field hmem).carries

/-- A value that a whole text says is read wherever its text stands. -/
theorem Steady.read_of_whole {reader : Reader α} (hsteady : Steady reader)
    {text : List Char} {value : α} (hwhole : reader.whole text = .ok value) :
    ∃ blank, Blank blank ∧ ∀ gap more, Blank gap → Ends more →
      reader (gap ++ (text ++ more)) = .ok (value, blank ++ more) := by
  obtain ⟨⟨found, blank⟩, hread, hend⟩ := bind_eq_ok hwhole
  dsimp only at hend
  split at hend
  · next hblank =>
    cases hend
    refine ⟨blank, ?_, fun gap more hgap hmore => ?_⟩
    · intro character hmem
      rw [List.isEmpty_iff, skipSpace, List.dropWhile_eq_nil_iff] at hblank
      exact hblank character hmem
    · rw [hsteady.skips hgap]
      exact hsteady.carries hread fun _ => hmore
  · cases hend

end Reader

end HexChart.Json
