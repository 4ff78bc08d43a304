import HexChart.Proofs.Canvas
import Mathlib.Data.List.Perm.Basic

/-!
# Drawn boards are fully linked

On the text of a drawing both ends of every side and all corners of every land hex
are present, so roads and land hexes find a junction at each of their offsets.  A
junction is a corner of some land hex: it finds that hex and the two sides that meet
in it, and the lattice has room for no more than three of either.
-/

namespace HexChart

open Chart Drawing

/-- How many links of a cell lead to cells of the kinds that pass a test. -/
def Cell.linksTo (cell : Cell) (test : Kind → Bool) : Nat :=
  cell.links.countP fun link => test link.2.kind

namespace Shape

theorem length_offsets_of_road {shape : Shape} (hkind : shape.kind = .road) :
    shape.offsets.length = 2 := by
  rcases shape with ⟨_ | _ | _⟩ | _ | _ | _ | _ <;> first | rfl | cases hkind

theorem length_offsets_of_isHex {shape : Shape} (hkind : shape.kind.isHex) :
    shape.offsets.length = 6 := by
  rcases shape with ⟨_ | _ | _⟩ | _ | _ | _ | _ <;> first | rfl | cases hkind

end Shape

namespace Chart

theorem linksTo_cellDrawn (text : List Char) (mark : Mark) (test : Kind → Bool) :
    (cellDrawn text mark).linksTo test = mark.shape.offsets.countP fun offset =>
      (seen text mark offset).any fun target => test target.shape.kind := by
  rw [Cell.linksTo, links_cellDrawn, List.countP_filterMap]
  apply List.countP_congr
  intro offset _
  cases seen text mark offset <;> simp [Mark.ref]

/-- A mark that sees a junction at each of its offsets has as many links as offsets. -/
theorem links_of_forall_seen {text : List Char} {mark : Mark}
    (hseen : ∀ offset ∈ mark.shape.offsets,
      ∃ target, seen text mark offset = some target ∧ target.shape = .junction) :
    (cellDrawn text mark).links.length = mark.shape.offsets.length ∧
      ∀ link ∈ (cellDrawn text mark).links, link.2.kind = .junction := by
  rw [links_cellDrawn]
  constructor
  · rw [List.length_filterMap_eq_countP, List.countP_eq_length]
    intro offset hoffset
    obtain ⟨target, htarget, _⟩ := hseen offset hoffset
    rw [htarget]
    rfl
  · intro link hlink
    obtain ⟨offset, hoffset, hlink⟩ := List.mem_filterMap.mp hlink
    obtain ⟨target, htarget, hjunction⟩ := hseen offset hoffset
    rw [htarget, Option.map_some, Option.some.injEq] at hlink
    rw [← hlink, Mark.ref, hjunction]
    rfl

end Chart

namespace Drawing

variable {hexes : Layout Hex}

/-! ## What the hexes put around a mark -/

theorem exists_around_of_mem {mark : Mark} (hmem : mark ∈ drawn (draw hexes)) :
    ∃ position hex, hexes[position]? = some hex ∧ ∃ down right,
      (mark.shape, down, right) ∈ around hex ∧
        (mark.row : Int) = (centre position).1 + down ∧
          (mark.col : Int) = (centre position).2 + right := by
  obtain ⟨position, hex, hhex, hstroke⟩ :=
    (exists_mem_drawn_draw_iff hexes mark.shape mark.row mark.col).mp ⟨mark, hmem, rfl, rfl, rfl⟩
  exact ⟨position, hex, hhex, (mem_strokesOf_iff ..).mp hstroke⟩

/-- A mark sees whatever the same hex puts at one of its offsets. -/
theorem exists_seen_of_around {position : Nat × Nat} {hex : Hex}
    (hhex : hexes[position]? = some hex) {mark : Mark} {down right : Int}
    (hrow : (mark.row : Int) = (centre position).1 + down)
    (hcol : (mark.col : Int) = (centre position).2 + right) {offset : Offset} {shape : Shape}
    (htarget : (shape, down + offset.down, right + offset.right) ∈ around hex) :
    ∃ target, seen (draw hexes) mark offset = some target ∧ target.shape = shape := by
  obtain ⟨_, hdown, hright, _⟩ := mem_around hex (Hex.mem_all hex) _ htarget
  obtain ⟨hcentreRow, hcentreCol⟩ := le_centre position
  simp only at hdown hright
  obtain ⟨target, hmem, hshape, htargetRow, htargetCol⟩ :=
    (exists_mem_drawn_draw_iff hexes shape
      ((centre position).1 + (down + offset.down)).toNat
      ((centre position).2 + (right + offset.right)).toNat).mpr
      ⟨position, hex, hhex, (mem_strokesOf_iff ..).mpr
        ⟨_, _, htarget, by omega, by omega⟩⟩
  exact ⟨target, (seen_eq_some_iff ..).mpr ⟨hmem, by omega, by omega⟩, hshape⟩

/-- Whether a hex puts a cell of the tested kinds at an offset from one of its spots. -/
def meets (hex : Hex) (spot : Shape × Int × Int) (test : Kind → Bool) (offset : Offset) :
    Bool :=
  (around hex).any fun other =>
    test other.1.kind && other.2 = (spot.2.1 + offset.down, spot.2.2 + offset.right)

/-- Roads and land hexes have a junction at each of their offsets. -/
theorem junction_mem_around :
    ∀ hex ∈ Hex.all, ∀ spot ∈ around hex, ∀ offset ∈ spot.1.offsets,
      spot.1.kind = .junction ∨ spot.1.kind = .ocean ∨
        (.junction, spot.2.1 + offset.down, spot.2.2 + offset.right) ∈ around hex := by
  decide

/-- A corner has its hex and two of its sides at its offsets. -/
theorem corner_meets :
    ∀ hex ∈ Hex.all, ∀ spot ∈ around hex, spot.1 = .junction →
      2 ≤ spot.1.offsets.countP (meets hex spot (· = .road)) ∧
        1 ≤ spot.1.offsets.countP (meets hex spot Kind.isHex) := by
  decide

/-- The lattice has room for three roads and three hexes at a junction. -/
theorem junction_leads :
    ∀ start ∈ Lattice.phases .junction,
      (Shape.junction.offsets.countP fun offset => Shape.all.any fun target =>
          target.kind = .road && Lattice.leads start offset target) ≤ 3 ∧
        (Shape.junction.offsets.countP fun offset => Shape.all.any fun target =>
          target.kind.isHex && Lattice.leads start offset target) ≤ 3 := by
  decide

/-! ## Links of drawn boards -/

theorem links_to_junctions {mark : Mark} (hmem : mark ∈ drawn (draw hexes))
    (hjunction : mark.shape.kind ≠ .junction) (hocean : mark.shape.kind ≠ .ocean) :
    (cellDrawn (draw hexes) mark).links.length = mark.shape.offsets.length ∧
      ∀ link ∈ (cellDrawn (draw hexes) mark).links, link.2.kind = .junction := by
  obtain ⟨position, hex, hhex, down, right, hspot, hrow, hcol⟩ := exists_around_of_mem hmem
  apply links_of_forall_seen
  intro offset hoffset
  rcases junction_mem_around hex (Hex.mem_all hex) _ hspot offset hoffset with hkind | hkind | htarget
  · exact absurd hkind hjunction
  · exact absurd hkind hocean
  · exact exists_seen_of_around hhex hrow hcol htarget

/-- A mark sees at least what its hex puts around it. -/
theorem countP_meets_le {position : Nat × Nat} {hex : Hex}
    (hhex : hexes[position]? = some hex) {mark : Mark} {down right : Int}
    (hrow : (mark.row : Int) = (centre position).1 + down)
    (hcol : (mark.col : Int) = (centre position).2 + right) (test : Kind → Bool) :
    mark.shape.offsets.countP (meets hex (mark.shape, down, right) test) ≤
      mark.shape.offsets.countP fun offset =>
        (seen (draw hexes) mark offset).any fun target => test target.shape.kind := by
  apply List.countP_mono_left
  intro offset _ hmeets
  obtain ⟨⟨shape, place⟩, hmem, hplace⟩ := List.any_eq_true.mp hmeets
  rw [Bool.and_eq_true, decide_eq_true_eq] at hplace
  obtain ⟨htest, rfl⟩ := hplace
  obtain ⟨target, htarget, hshape⟩ := exists_seen_of_around hhex hrow hcol hmem
  rw [htarget, Option.any_some, hshape]
  exact htest

/-- A mark sees at most what the lattice has room for. -/
theorem countP_seen_le {mark : Mark} (test : Kind → Bool) :
    (mark.shape.offsets.countP fun offset =>
        (seen (draw hexes) mark offset).any fun target => test target.shape.kind) ≤
      mark.shape.offsets.countP fun offset => Shape.all.any fun target =>
        test target.kind && Lattice.leads (Lattice.phase 4 6 mark.row mark.col) offset target := by
  apply List.countP_mono_left
  intro offset _ hseen
  obtain ⟨target, htarget, htest⟩ := (Option.any_eq_true ..).mp hseen
  have hleads := leads_of_seen (fun mark hmem => fits_of_mem_drawn_draw hmem) htarget
  exact List.any_eq_true.mpr ⟨target.shape, Shape.mem_all _, by rw [htest, hleads]; rfl⟩

theorem linksTo_junction {mark : Mark} (hmem : mark ∈ drawn (draw hexes))
    (hjunction : mark.shape = .junction) :
    let cell := cellDrawn (draw hexes) mark
    (2 ≤ cell.linksTo (· = .road) ∧ cell.linksTo (· = .road) ≤ 3) ∧
      (1 ≤ cell.linksTo Kind.isHex ∧ cell.linksTo Kind.isHex ≤ 3) ∧
        cell.linksTo (· = .junction) = 0 := by
  intro cell
  obtain ⟨position, hex, hhex, down, right, hspot, hrow, hcol⟩ := exists_around_of_mem hmem
  obtain ⟨hroads, hhexes⟩ := corner_meets hex (Hex.mem_all hex) _ hspot hjunction
  have hphase := Lattice.phase_mem_of_fits (fits_of_mem_drawn_draw hmem)
  have hroom := junction_leads _ (hjunction ▸ hphase)
  simp only [cell, linksTo_cellDrawn]
  rw [← hjunction] at hroom
  refine ⟨⟨?_, ?_⟩, ⟨?_, ?_⟩, ?_⟩
  · exact Nat.le_trans hroads (countP_meets_le hhex hrow hcol _)
  · exact Nat.le_trans (countP_seen_le (fun kind => kind = .road)) hroom.1
  · exact Nat.le_trans hhexes (countP_meets_le hhex hrow hcol _)
  · exact Nat.le_trans (countP_seen_le Kind.isHex) hroom.2
  · -- nothing that a junction sees on the lattice is a junction
    rw [List.countP_eq_zero]
    intro offset hoffset hseen
    obtain ⟨target, htarget, htest⟩ := (Option.any_eq_true ..).mp hseen
    have hends := (seen_back (fun mark hmem => fits_of_mem_drawn_draw hmem) hmem hoffset
      htarget).1.mp hjunction
    rw [decide_eq_true_eq, Shape.kind_eq_junction_iff] at htest
    exact hends htest

/-! ## Counts of drawn boards -/

/-- A hex is drawn at the centre of its position and nowhere else. -/
theorem hex_mem_strokesOf_iff (position : Nat × Nat) (hex other : Hex) (row col : Nat) :
    ((row, col), hex.shape) ∈ strokesOf position other ↔
      (row, col) = centre position ∧ other = hex := by
  rw [mem_strokesOf_iff]
  constructor
  · rintro ⟨down, right, hmem, hrow, hcol⟩
    have hspot := (mem_around other (Hex.mem_all other) _ hmem).2.2.2 (Hex.isHex_shape hex)
    simp only [Prod.mk.injEq] at hspot
    obtain ⟨hshape, rfl, rfl⟩ := hspot
    exact ⟨Prod.ext (by omega) (by omega), Hex.shape_injective hshape.symm⟩
  · rintro ⟨hplace, rfl⟩
    have hmem : (other.shape, 0, 0) ∈ around other := List.mem_cons_self
    rw [← hplace]
    exact ⟨0, 0, hmem, by simp, by simp⟩

theorem nodup_places_drawnOf (text : List Char) (kind : Kind) :
    ((drawnOf text kind).map fun mark => (mark.row, mark.col)).Nodup := by
  apply List.Pairwise.map _ _ ((pairwise_precedes_drawn text).filter _)
  intro left right hprecedes hplace
  rw [Prod.mk.injEq] at hplace
  rw [Mark.Precedes] at hprecedes
  omega

theorem nodup_centres (hexes : Layout Hex) (hex : Hex) :
    ((hexes.toList.filter fun entry => entry.2 = hex).map fun entry => centre entry.1).Nodup := by
  have hkeys : hexes.toList.Pairwise fun left right => left.1 ≠ right.1 := by
    apply Std.TreeMap.distinct_keys_toList.imp
    intro left right hcompare hkey
    exact hcompare (hkey ▸ Std.ReflCmp.compare_self)
  apply List.Pairwise.map _ _ (hkeys.filter _)
  intro left right hkey hcentre
  exact hkey (centre_injective hcentre)

/-- A drawing has as many cells of a hex as its map has entries. -/
theorem tally_draw (hexes : Layout Hex) (hex : Hex) :
    tally (draw hexes) hex.shape.kind = hexes.toList.countP fun entry => entry.2 = hex := by
  have hmembers : ∀ place,
      place ∈ (drawnOf (draw hexes) hex.shape.kind).map (fun mark => (mark.row, mark.col)) ↔
        place ∈ (hexes.toList.filter fun entry => entry.2 = hex).map
          fun entry => centre entry.1 := by
    rintro ⟨row, col⟩
    have hmarks : (row, col) ∈ (drawnOf (draw hexes) hex.shape.kind).map
        (fun mark => (mark.row, mark.col)) ↔
          ∃ mark ∈ drawn (draw hexes), mark.shape = hex.shape ∧ mark.row = row ∧
            mark.col = col := by
      simp only [List.mem_map, mem_drawnOf_iff, Hex.kind_eq_iff, Prod.mk.injEq, and_assoc]
    rw [hmarks, exists_mem_drawn_draw_iff]
    simp only [hex_mem_strokesOf_iff, List.mem_map, List.mem_filter, Prod.exists,
      Std.TreeMap.mem_toList_iff_getElem?_eq_some, decide_eq_true_eq]
    constructor
    · rintro ⟨hexRow, hexCol, other, hhex, hplace, rfl⟩
      exact ⟨hexRow, hexCol, other, ⟨hhex, rfl⟩, hplace.symm⟩
    · rintro ⟨hexRow, hexCol, other, ⟨hhex, rfl⟩, hplace⟩
      exact ⟨hexRow, hexCol, other, hhex, hplace.symm, rfl⟩
  have hperm := (List.perm_ext_iff_of_nodup (nodup_places_drawnOf (draw hexes) hex.shape.kind)
    (nodup_centres hexes hex)).mpr hmembers
  calc tally (draw hexes) hex.shape.kind
      = ((drawnOf (draw hexes) hex.shape.kind).map fun mark => (mark.row, mark.col)).length := by
        rw [List.length_map, length_drawnOf]
    _ = ((hexes.toList.filter fun entry => entry.2 = hex).map fun entry => centre entry.1).length :=
        hperm.length_eq
    _ = hexes.toList.countP fun entry => entry.2 = hex := by
        rw [List.length_map, List.countP_eq_length_filter]

end Drawing

end HexChart
