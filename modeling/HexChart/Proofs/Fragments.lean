import HexChart.Proofs.Roundtrip

/-!
# Documents that are broken off

A document ends with the closing brace of its graph and a line break.  Where it is broken
off before that brace, the text ends too early and is reported so; where it is broken off
behind it, nothing but the line break is missing and the whole graph is read
(`Board.decode_front_of_document`).
-/

namespace HexChart

open HexChart.Json

/-- The text of a record ends with its closing brace. -/
theorem Json.getLast?_write_record (style : Style) (depth : Nat)
    (fields : List (String × Datum)) :
    ((Datum.record fields).write style depth).getLast? = some '\x7d' := by
  rw [Datum.write, bracketed]
  split
  · rfl
  · rw [List.cons_append, List.cons_append, ← List.cons_append, List.getLast?_append]
    rfl

namespace Graph

variable {graph : Graph} {front back : List Char}

theorem toList_document (graph : Graph) :
    graph.document.toList = (form.toDatum graph).write .pretty 0 ++ ['\n'] := by
  simp [document, Form.encode]

/-- A text that ends before the closing brace of a document is not read to its end. -/
theorem decode_of_brace_mem (hfits : graph.Fits) (hdocument : graph.document.toList = front ++ back)
    (hbrace : '\x7d' ∈ back) : form.decode (String.ofList front) = .error .truncated := by
  rw [toList_document] at hdocument
  have hcut : Cut front ((form.toDatum graph).write .pretty 0) := by
    rcases List.append_eq_append_iff.mp hdocument with ⟨more, _, hback⟩ | ⟨more, hfront, hback⟩
    · have hmem : '\x7d' ∈ ['\n'] := by
        rw [hback]
        exact List.mem_append_right more hbrace
      exact absurd hmem (by decide)
    · refine ⟨more, ?_, hfront⟩
      rintro rfl
      rw [hback] at hbrace
      exact absurd hbrace (by decide)
  have hread := demands_form hfits [] _ front blank_nil
    (spelled_write .pretty 0 (form.toDatum graph)) hcut
  rw [List.nil_append] at hread
  rw [Form.decode, String.toList_ofList, Reader.whole, hread]
  rfl

/-- Behind the closing brace of a document there is nothing that says more. -/
theorem decode_of_brace_not_mem (hfits : graph.Fits)
    (hdocument : graph.document.toList = front ++ back) (hbrace : '\x7d' ∉ back) :
    form.decode (String.ofList front) = .ok graph := by
  rw [toList_document] at hdocument
  have hfront : ∃ gap, Blank gap ∧ front = (form.toDatum graph).write .pretty 0 ++ gap := by
    rcases List.append_eq_append_iff.mp hdocument with ⟨more, hfront, hback⟩ | ⟨more, hwrite, hback⟩
    · refine ⟨more, ?_, hfront⟩
      intro character hmem
      have hbreak : character ∈ ['\n'] := by
        rw [hback]
        exact List.mem_append_left back hmem
      rw [List.mem_singleton.mp hbreak]
      rfl
    · cases more with
      | nil => exact ⟨[], blank_nil, by simpa using hwrite.symm⟩
      | cons first more =>
        have hlast : (first :: more).getLast? = some '\x7d' := by
          calc
            (first :: more).getLast? = (front ++ first :: more).getLast? :=
              (List.getLast?_append_of_ne_nil front (List.cons_ne_nil first more)).symm
            _ = ((form.toDatum graph).write .pretty 0).getLast? := by rw [hwrite]
            _ = some '\x7d' := getLast?_write_record .pretty 0 _
        rw [hback] at hbrace
        exact absurd (List.mem_append_left _ (List.mem_of_getLast? hlast)) hbrace
  obtain ⟨gap, hgap, rfl⟩ := hfront
  have hspelled := (readsBack_form hfits).decode_spelled blank_nil
    (spelled_write .pretty 0 (form.toDatum graph)) hgap
  rwa [List.nil_append] at hspelled

end Graph

namespace Board

/-- What a front part of the document of an accepted chart is taken for: one that stops
before the last closing brace is a text that ends too early, and every other one says the
graph of the board. -/
theorem decode_front_of_document {text : List Char} {board : Board}
    (hparse : parse text = .ok board) :
    (text.length < Number.limit → board.census.Fits) ∧
      (board.census.Fits → ∀ (name : String) (front back : List Char),
        (board.graph name).document.toList = front ++ back →
          ('\x7d' ∈ back → Graph.form.decode (String.ofList front) = .error .truncated) ∧
            ('\x7d' ∉ back →
              Graph.form.decode (String.ofList front) = .ok (board.graph name))) := by
  refine ⟨fits_census hparse, fun hcensus name front back hdocument => ?_⟩
  have hfits := fits_graph hparse hcensus name
  exact ⟨Graph.decode_of_brace_mem hfits hdocument, Graph.decode_of_brace_not_mem hfits hdocument⟩

/-- A road below a hex, and a name whose escape is broken off. -/
theorem decode_front_of_document_inside_escape :
    ∃ board, parse ['h', '\n', '\n', '|'] = .ok board ∧
      Graph.form.decode (String.ofList ((board.graph "\x01").document.toList.take 17)) =
        .error .truncated := by
  refine ⟨_, rfl, ?_⟩
  obtain ⟨hfits, hfront⟩ := decode_front_of_document
    (rfl : parse ['h', '\n', '\n', '|'] = .ok _)
  apply (hfront (hfits (by decide)) "\x01" _ _ (List.take_append_drop 17 _).symm).1
  decide +kernel

end Board

end HexChart
