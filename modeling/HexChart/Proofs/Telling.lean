import HexChart.Proofs.Deciphering

/-!
# Texts that tell their data

Data of one form are told apart by their texts, and so is where each text ends: if the
texts of two data, with anything after them, are the same, so are the data and what comes
after them (`Datum.Told`).  Reading says less, since it refuses counts that do not fit
into 64 bits.  The parts between two brackets are compared one by one, and the search for
the next part is the one of the readers, which answers the same on the same text.
-/

namespace HexChart.Json

/-- Two values that are the same if they are written alike at the front of a text, and
then end at the same place. -/
def ToldBy {α : Type} (write : α → List Char) (left right : α) : Prop :=
  ∀ rest other : List Char, Ends rest → Ends other →
    write left ++ rest = write right ++ other → left = right ∧ rest = other

/-- Two data are told apart by their texts in every style and at every depth. -/
def Datum.Told (left right : Datum) : Prop :=
  ∀ style depth, ToldBy (Datum.write style depth) left right

/-! ## Parts between brackets -/

section Brackets

variable {α : Type} {write : α → List Char} (hopens : ∀ value, Opens (write value))
variable {closing : Char} (hclosing : closing = ']' ∨ closing = '\x7d')

include hopens hclosing

theorem eq_of_enclosed {left right : List α}
    (htold : ∀ pair ∈ left.zip right, ToldBy write pair.1 pair.2) {first : Bool}
    {text after rest other : List Char} (hleft : Enclosed closing first (left.map write) text)
    (hright : Enclosed closing first (right.map write) after)
    (heq : text ++ rest = after ++ other) : left = right ∧ rest = other := by
  have hturn := congrArg (nextTurn closing first) heq
  induction left generalizing right first text after with
  | nil =>
    rw [hleft.nextTurn_nil hclosing] at hturn
    cases right with
    | nil =>
      rw [hright.nextTurn_nil hclosing] at hturn
      simpa using hturn
    | cons value right =>
      obtain ⟨_, _, hitem⟩ := hright.nextTurn_cons hclosing (hopens value)
      rw [hitem] at hturn
      simp at hturn
  | cons value left ih =>
    obtain ⟨text, htext, hitem⟩ := hleft.nextTurn_cons hclosing (hopens value)
    rw [hitem] at hturn
    cases right with
    | nil =>
      rw [hright.nextTurn_nil hclosing] at hturn
      simp at hturn
    | cons entry right =>
      obtain ⟨after, hafter, hitem⟩ := hright.nextTurn_cons hclosing (hopens entry)
      rw [hitem, Except.ok.injEq, Turn.item.injEq] at hturn
      have hfirst : ToldBy write value entry := htold _ List.mem_cons_self
      obtain ⟨rfl, hrest⟩ := hfirst _ _ (ends_enclosed hclosing htext rest)
        (ends_enclosed hclosing hafter other) hturn
      obtain ⟨rfl, hrest⟩ := ih (fun pair hmem => htold pair (List.mem_cons_of_mem _ hmem))
        htext hafter hrest (congrArg (nextTurn closing false) hrest)
      exact ⟨rfl, hrest⟩

theorem told_bracketed (style : Style) (depth : Nat) (opening : Char) {left right : List α}
    (htold : ∀ pair ∈ left.zip right, ToldBy write pair.1 pair.2) {rest other : List Char}
    (heq : bracketed style depth opening closing (left.map write) ++ rest =
      bracketed style depth opening closing (right.map write) ++ other) :
    left = right ∧ rest = other := by
  obtain ⟨text, htext, hleft⟩ := enclosed_bracketed style depth opening closing (left.map write)
  obtain ⟨after, hafter, hright⟩ :=
    enclosed_bracketed style depth opening closing (right.map write)
  rw [htext, hafter, List.cons_append, List.cons_append, List.cons.injEq] at heq
  exact eq_of_enclosed hopens hclosing htold hleft hright heq.2

end Brackets

/-! ## Data -/

namespace Datum

theorem told_count (left right : Nat) : Told (.count left) (.count right) := by
  intro style depth rest other hrest hother heq
  rw [write, write] at heq
  obtain ⟨rfl, hrest⟩ := toDigits_append_injective hrest hother heq
  exact ⟨rfl, hrest⟩

/-- A string between quotes tells its characters, since they are read back. -/
theorem quoted_append_injective {left right : String} {rest other : List Char}
    (heq : quoted left ++ rest = quoted right ++ other) : left = right ∧ rest = other := by
  obtain ⟨text, htext, hleft⟩ := readQuoted_spelledString (spelledString_quoted left)
  obtain ⟨after, hafter, hright⟩ := readQuoted_spelledString (spelledString_quoted right)
  rw [htext, hafter, List.cons_append, List.cons_append, List.cons.injEq] at heq
  have hread := hleft rest
  rw [heq.2, hright, Except.ok.injEq, Prod.mk.injEq] at hread
  exact ⟨String.toList_inj.mp hread.1.symm, hread.2.symm⟩

theorem told_text (left right : String) : Told (.text left) (.text right) := by
  intro style depth rest other _ _ heq
  rw [write, write] at heq
  obtain ⟨rfl, hrest⟩ := quoted_append_injective heq
  exact ⟨rfl, hrest⟩

theorem told_choice (left right : String) : Told (.choice left) (.choice right) := by
  intro style depth rest other _ _ heq
  rw [write, write] at heq
  obtain ⟨rfl, hrest⟩ := quoted_append_injective heq
  exact ⟨rfl, hrest⟩

theorem writeItems_eq_map (style : Style) (depth : Nat) (items : List Datum) :
    writeItems style depth items = items.map (write style depth) := by
  induction items with
  | nil => rfl
  | cons item items ih => rw [writeItems, ih, List.map_cons]

theorem told_list {left right : List Datum}
    (htold : ∀ item ∈ left, ∀ other ∈ right, Told item other) :
    Told (.list left) (.list right) := by
  intro style depth rest other _ _ heq
  rw [write, write, writeItems_eq_map, writeItems_eq_map] at heq
  obtain ⟨rfl, hrest⟩ := told_bracketed (fun item => opens_of_spelled (spelled_write _ _ item))
    (.inl rfl) style depth '[' (fun pair hmem =>
      htold pair.1 (List.of_mem_zip hmem).1 pair.2 (List.of_mem_zip hmem).2 style _) heq
  exact ⟨rfl, hrest⟩

theorem opens_writeField (style : Style) (depth : Nat) (field : String × Datum) :
    Opens (writeField style depth field) :=
  (opens_of_spelledName (spelledName_write style field.1)).append _

theorem told_record {left right : List (String × Datum)}
    (htold : List.Forall₂ (fun field other => field.1 = other.1 ∧ Told field.2 other.2) left
      right) :
    Told (.record left) (.record right) := by
  intro style depth rest other _ _ heq
  have hfields : ∀ pair ∈ left.zip right,
      ToldBy (writeField style (depth + 1)) pair.1 pair.2 := by
    rintro ⟨⟨name, value⟩, ⟨_, entry⟩⟩ hmem rest other hrest hother heq
    obtain ⟨rfl, hvalue⟩ := List.forall₂_zip htold hmem
    simp only [writeField, List.append_assoc, List.append_cancel_left_eq] at heq
    obtain ⟨rfl, hrest⟩ := hvalue style _ rest other hrest hother heq
    exact ⟨rfl, hrest⟩
  rw [write, write, writeFields_eq_map, writeFields_eq_map] at heq
  obtain ⟨rfl, hrest⟩ := told_bracketed (opens_writeField style (depth + 1)) (.inr rfl) style
    depth '\x7b' hfields heq
  exact ⟨rfl, hrest⟩

end Datum

end HexChart.Json
