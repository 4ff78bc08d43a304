/-!
# Splitting a text at a separator

The parts of a text between its separators; two separators in a row have an
empty part between them, and a text without separators is one part.  Putting the
separators back between the parts gives the text again
(`intercalate_splitAt`).
-/

namespace HexChart.Text

/-- The parts of a text between its separators. -/
def splitAt (separator : Char) : List Char → List (List Char)
  | [] => [[]]
  | character :: rest =>
    if character = separator then
      [] :: splitAt separator rest
    else
      match splitAt separator rest with
      | [] => [[character]]
      | part :: others => (character :: part) :: others

theorem splitAt_ne_nil (separator : Char) (text : List Char) :
    splitAt separator text ≠ [] := by
  cases text with
  | nil => simp [splitAt]
  | cons character rest =>
    unfold splitAt
    split
    · simp
    · split <;> simp

/-- The separators between the parts are all that splitting takes away. -/
theorem intercalate_splitAt (separator : Char) (text : List Char) :
    List.intercalate [separator] (splitAt separator text) = text := by
  induction text with
  | nil => rfl
  | cons character rest ih =>
    obtain ⟨part, others, hparts⟩ :=
      List.exists_cons_of_ne_nil (splitAt_ne_nil separator rest)
    rw [hparts] at ih
    unfold splitAt
    by_cases hseparator : character = separator
    · subst hseparator
      rw [if_pos rfl, hparts, ← ih]
      rfl
    · rw [if_neg hseparator, hparts, ← ih]
      cases others <;> rfl

/-- A separator splits off what stands before it. -/
theorem splitAt_append_separator (separator : Char) (front back : List Char) :
    splitAt separator (front ++ separator :: back) =
      splitAt separator front ++ splitAt separator back := by
  induction front with
  | nil => simp [splitAt]
  | cons character rest ih =>
    obtain ⟨part, others, hparts⟩ :=
      List.exists_cons_of_ne_nil (splitAt_ne_nil separator rest)
    rw [List.cons_append, splitAt, splitAt, ih, hparts]
    by_cases hseparator : character = separator
    · rw [if_pos hseparator, if_pos hseparator]
      rfl
    · rw [if_neg hseparator, if_neg hseparator]
      rfl

theorem splitAt_of_not_mem {separator : Char} {text : List Char} (htext : separator ∉ text) :
    splitAt separator text = [text] := by
  induction text with
  | nil => rfl
  | cons character rest ih =>
    rw [List.mem_cons, not_or] at htext
    have hseparator : character ≠ separator := fun heq => htext.1 heq.symm
    rw [splitAt, if_neg hseparator, ih htext.2]

end HexChart.Text
