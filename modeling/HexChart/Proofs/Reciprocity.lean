import HexChart.Proofs.Lattice

/-!
# Which links are answered

A cell that has found another one is found from there by the opposite displacement and
by no other.  Whether the target of a link answers it is therefore decided by the offset
at which the link was found and the shape of the target alone, wherever the two cells
stand and whatever is drawn around them (`oneWay_iff_offset_and_shape`).
-/

namespace HexChart

/-- Whether a road of a slant runs along a direction. -/
def Slant.runsAlong (slant : Slant) (direction : Direction) : Bool :=
  slant.offsets.any fun offset => offset.direction = direction

/-- A cell has found the cell of a reference at one of its offsets. -/
def Cell.Finds (cell : Cell) (offset : Offset) (target : CellRef) : Prop :=
  (offset, some target) ∈ cell.shape.offsets.zip cell.neighbors

instance (cell : Cell) (offset : Offset) (target : CellRef) :
    Decidable (cell.Finds offset target) :=
  inferInstanceAs (Decidable (_ ∈ _))

/-! ## Offsets that lead back -/

namespace Offset

theorem not_near_of_far : ∀ offset ∈ far, offset ∉ near := by
  decide

theorem back_of_far : ∀ offset ∈ far, offset.back ∈ far ∧ offset.back ∉ near := by
  decide

theorem back_of_near : ∀ offset ∈ near, offset.back ∈ near ∧ offset.back ∉ far := by
  decide

theorem slant_offsets_subset_near (slant : Slant) : slant.offsets ⊆ near := by
  cases slant <;> decide

/-- What is near a road is found from it exactly when the road runs along the link. -/
theorem back_mem_slant_offsets_iff (slant : Slant) :
    ∀ offset ∈ near, offset.back ∈ slant.offsets ↔ slant.runsAlong offset.direction := by
  cases slant <;> decide

end Offset

namespace Shape

theorem far_or_near :
    ∀ shape ∈ all, ∀ offset ∈ shape.offsets, offset ∈ Offset.far ∨ offset ∈ Offset.near := by
  decide

/-- A far offset is undone by all shapes but roads. -/
theorem back_mem_offsets_of_far {offset : Offset} (hfar : offset ∈ Offset.far) (target : Shape) :
    offset.back ∈ target.offsets ↔ target.kind ≠ .road := by
  obtain ⟨hback, hnotNear⟩ := Offset.back_of_far offset hfar
  cases target with
  | road slant =>
    have hnotSlant : offset.back ∉ slant.offsets :=
      fun hmem => hnotNear (Offset.slant_offsets_subset_near slant hmem)
    simp [offsets, kind, hnotSlant]
  | _ => simp [offsets, kind, hback]

/-- A near offset is undone by junctions and by the roads that run along it. -/
theorem back_mem_offsets_of_near {offset : Offset} (hnear : offset ∈ Offset.near)
    (target : Shape) :
    offset.back ∈ target.offsets ↔
      target = .junction ∨ ∃ slant, target = .road slant ∧ slant.runsAlong offset.direction := by
  obtain ⟨hback, hnotFar⟩ := Offset.back_of_near offset hnear
  cases target with
  | road slant => simp [offsets, Offset.back_mem_slant_offsets_iff slant offset hnear]
  | _ => simp [offsets, hback, hnotFar]

/-- The ways in which a shape can be found without looking back. -/
theorem back_not_mem_offsets_iff {source : Shape} {offset : Offset}
    (hoffset : offset ∈ source.offsets) (target : Shape) :
    offset.back ∉ target.offsets ↔
      (offset ∈ Offset.far ∧ target.kind = .road) ∨
      (offset ∈ Offset.near ∧ target.kind.isHex) ∨
      (offset ∈ Offset.near ∧
        ∃ slant, target = .road slant ∧ ¬slant.runsAlong offset.direction) := by
  rcases far_or_near source (mem_all source) offset hoffset with hfar | hnear
  · have hnotNear := Offset.not_near_of_far offset hfar
    simp [back_mem_offsets_of_far hfar, hfar, hnotNear]
  · have hnotFar : offset ∉ Offset.far := fun hfar => Offset.not_near_of_far offset hfar hnear
    rw [back_mem_offsets_of_near hnear]
    cases target <;> simp [kind, Kind.isHex, hnear, hnotFar]

/-- The ways in which a shape can be found and look back. -/
theorem back_mem_offsets_iff {source : Shape} {offset : Offset}
    (hoffset : offset ∈ source.offsets) (target : Shape) :
    offset.back ∈ target.offsets ↔
      target.kind = .junction ∨
      (offset ∈ Offset.far ∧ target.kind.isHex) ∨
      (offset ∈ Offset.near ∧
        ∃ slant, target = .road slant ∧ slant.runsAlong offset.direction) := by
  rcases far_or_near source (mem_all source) offset hoffset with hfar | hnear
  · have hnotNear := Offset.not_near_of_far offset hfar
    rw [back_mem_offsets_of_far hfar]
    cases target <;> simp [kind, Kind.isHex, hfar, hnotNear]
  · have hnotFar : offset ∉ Offset.far := fun hfar => Offset.not_near_of_far offset hfar hnear
    simp [back_mem_offsets_of_near hnear, kind_eq_junction_iff, hnear, hnotFar]

end Shape

/-! ## Links and the ways back -/

namespace Chart

variable {text : List Char} {source target : Mark} {offset : Offset}

/-- A link is answered exactly when the offset that leads back is one of its target. -/
theorem reverse_mem_linksDrawn_iff (hsource : source ∈ drawn text)
    (hseen : seen text source offset = some target) :
    ⟨target.ref, offset.direction.opposite, source.ref⟩ ∈ linksDrawn text ↔
      offset.back ∈ target.shape.offsets := by
  have htarget : target ∈ drawn text := ((seen_eq_some_iff ..).mp hseen).1
  rw [mem_linksDrawn_iff]
  constructor
  · rintro ⟨from_, hfrom, other, hother, to_, hback, hlink⟩
    obtain ⟨hfromRef, hdirection, htoRef⟩ := Link.mk.inj hlink
    obtain rfl := eq_of_ref_eq htarget hfrom hfromRef
    obtain rfl := eq_of_ref_eq hsource ((seen_eq_some_iff ..).mp hback).1 htoRef
    obtain ⟨hdown, hright⟩ := (seen_back_iff hsource hseen other).mp hback
    have hsame : other = offset.back := by
      rw [Offset.back, hdirection, ← hdown, ← hright]
    exact hsame ▸ hother
  · intro hmem
    have hback := (seen_back_iff hsource hseen offset.back).mpr ⟨rfl, rfl⟩
    exact ⟨target, htarget, offset.back, hmem, source, hback, rfl⟩

/-- The cell of a mark finds exactly what the mark sees. -/
theorem finds_cellDrawn_iff (mark : Mark) (ref : CellRef) :
    (cellDrawn text mark).Finds offset ref ↔
      offset ∈ mark.shape.offsets ∧ ∃ target, seen text mark offset = some target ∧
        target.ref = ref := by
  rw [Cell.Finds, zip_neighbors_cellDrawn, List.mem_map]
  constructor
  · rintro ⟨found, hmem, hpair⟩
    obtain ⟨rfl, hlook⟩ := Prod.mk.inj hpair
    exact ⟨hmem, Option.map_eq_some_iff.mp hlook⟩
  · rintro ⟨hmem, hsees⟩
    exact ⟨offset, hmem, Prod.ext rfl (Option.map_eq_some_iff.mpr hsees)⟩

end Chart

namespace Board

open Chart

variable {text : List Char} {board : Board}

/-- What a cell has found is what its mark sees. -/
theorem exists_seen_of_finds (hparse : parse text = .ok board) {source target : Cell}
    (hsource : source ∈ board.allCells) (htarget : target ∈ board.allCells) {offset : Offset}
    (hfinds : source.Finds offset target.ref) :
    ∃ sourceMark ∈ drawn text, ∃ targetMark, source = cellDrawn text sourceMark ∧
      target = cellDrawn text targetMark ∧ offset ∈ sourceMark.shape.offsets ∧
        seen text sourceMark offset = some targetMark := by
  obtain ⟨sourceMark, hsourceMark, rfl⟩ := (mem_allCells_iff hparse _).mp hsource
  obtain ⟨targetMark, htargetMark, rfl⟩ := (mem_allCells_iff hparse _).mp htarget
  obtain ⟨hoffset, found, hseen, hfound⟩ := (finds_cellDrawn_iff sourceMark _).mp hfinds
  obtain rfl := eq_of_ref_eq ((seen_eq_some_iff ..).mp hseen).1 htargetMark hfound
  exact ⟨sourceMark, hsourceMark, found, rfl, rfl, hoffset, hseen⟩

/-- The links of a board are what its cells have found. -/
theorem mem_links_iff_finds (hparse : parse text = .ok board) (link : Link) :
    link ∈ board.links ↔
      ∃ source ∈ board.allCells, ∃ target ∈ board.allCells, ∃ offset,
        source.Finds offset target.ref ∧
          link = ⟨source.ref, offset.direction, target.ref⟩ := by
  rw [links_eq_linksDrawn hparse, mem_linksDrawn_iff]
  constructor
  · rintro ⟨source, hsource, offset, hoffset, target, hseen, rfl⟩
    have htarget := ((seen_eq_some_iff ..).mp hseen).1
    exact ⟨cellDrawn text source, (mem_allCells_iff hparse _).mpr ⟨source, hsource, rfl⟩,
      cellDrawn text target, (mem_allCells_iff hparse _).mpr ⟨target, htarget, rfl⟩, offset,
      (finds_cellDrawn_iff source _).mpr ⟨hoffset, target, hseen, rfl⟩, rfl⟩
  · rintro ⟨sourceCell, hsourceCell, targetCell, htargetCell, offset, hfinds, rfl⟩
    obtain ⟨source, hsource, target, rfl, rfl, hoffset, hseen⟩ :=
      exists_seen_of_finds hparse hsourceCell htargetCell hfinds
    exact ⟨source, hsource, offset, hoffset, target, hseen, rfl⟩

end Board

end HexChart
