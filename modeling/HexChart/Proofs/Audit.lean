import HexChart.Proofs.Links

/-!
# The audit and the list of links

The audit looks up the target of a link by its reference and searches the links of
that one cell, while outputs are made from the list of all links.  Since a reference
finds exactly the cell that bears it, both say the same: a link is one-way when its
reverse is not in the list (`answers_iff_reverse_mem`).
-/

namespace HexChart

namespace Link

theorem mem_outgoing_iff (cell : Cell) (link : Link) :
    link ∈ cell.outgoing ↔
      link.source = cell.ref ∧ (link.direction, link.target) ∈ cell.links := by
  rw [Cell.outgoing, List.mem_map]
  constructor
  · rintro ⟨⟨direction, target⟩, hmem, rfl⟩
    exact ⟨rfl, hmem⟩
  · rintro ⟨hsource, hmem⟩
    exact ⟨(link.direction, link.target), hmem, by rw [← hsource]⟩

end Link

namespace Board

variable {text : List Char} {board : Board}

/-- The target of a link answers it exactly when the reverse is a link of the board. -/
theorem answers_iff_reverse_mem (hparse : parse text = .ok board) (link : Link) :
    board.answers link = true ↔ link.reverse ∈ board.links := by
  have hreverse : link.reverse ∈ board.links ↔
      ∃ cell, board.cell? link.target = some cell ∧
        (link.direction.opposite, link.source) ∈ cell.links := by
    simp only [links, List.mem_flatMap, Link.mem_outgoing_iff, cell?_eq_some_iff hparse]
    apply exists_congr
    intro cell
    rw [and_assoc]
    exact and_congr_right fun _ => and_congr_left' eq_comm
  rw [hreverse, answers]
  cases board.cell? link.target <;> simp

theorem oneWayLinks_eq_filter (hparse : parse text = .ok board) :
    board.oneWayLinks = board.links.filter fun link => link.reverse ∉ board.links := by
  apply List.filter_congr
  intro link _
  rw [Bool.eq_iff_iff, Bool.not_eq_true', ← Bool.not_eq_true,
    answers_iff_reverse_mem hparse, decide_eq_true_eq]

/-- The audit is empty exactly when the links are closed under reversal. -/
theorem oneWayLinks_eq_nil_iff (hparse : parse text = .ok board) :
    board.oneWayLinks = [] ↔ ∀ link ∈ board.links, link.reverse ∈ board.links := by
  rw [oneWayLinks_eq_filter hparse, List.filter_eq_nil_iff]
  simp

/-- The audit lists exactly the links whose reverse is missing, in the order of the
links, so it depends on nothing but the links. -/
theorem oneWayLinks_eq_unreversed (hparse : parse text = .ok board) :
    board.oneWayLinks = board.links.filter (fun link => link.reverse ∉ board.links) ∧
      (board.oneWayLinks = [] ↔ ∀ link ∈ board.links, link.reverse ∈ board.links) ∧
      ∀ (otherText : List Char) (other : Board), parse otherText = .ok other →
        other.links = board.links → other.oneWayLinks = board.oneWayLinks := by
  refine ⟨oneWayLinks_eq_filter hparse, oneWayLinks_eq_nil_iff hparse, ?_⟩
  intro otherText other hother hlinks
  rw [oneWayLinks_eq_filter hother, oneWayLinks_eq_filter hparse, hlinks]

/-- The junction sees the road above it, but a slanted road does not look down. -/
theorem oneWayLinks_of_slanted_road :
    ∃ board other, parse ['/', '\n', '.'] = .ok board ∧
      parse ['/', ' ', '\n', '.', '\n'] = .ok other ∧
        board.oneWayLinks = [⟨⟨.junction, 0⟩, .clock12, ⟨.road, 0⟩⟩] ∧
          other.links = board.links ∧ other.oneWayLinks = board.oneWayLinks := by
  have hboard : ∃ board, parse ['/', '\n', '.'] = .ok board := ⟨_, rfl⟩
  have hother : ∃ other, parse ['/', ' ', '\n', '.', '\n'] = .ok other := ⟨_, rfl⟩
  obtain ⟨board, hparse⟩ := hboard
  obtain ⟨other, hparseOther⟩ := hother
  have hlinks : board.links = [⟨⟨.junction, 0⟩, .clock12, ⟨.road, 0⟩⟩] :=
    (links_eq_linksDrawn hparse).trans (by decide)
  have hsame : other.links = board.links :=
    (links_eq_linksDrawn hparseOther).trans (hlinks.symm ▸ by decide)
  obtain ⟨haudit, _, hdetermined⟩ := oneWayLinks_eq_unreversed hparse
  refine ⟨board, other, hparse, hparseOther, ?_, hsame, ?_⟩
  · rw [haudit, hlinks]
    decide
  · exact hdetermined _ other hparseOther hsame

end Board

end HexChart
