import HexChart.Proofs.Alphabet
import HexChart.Proofs.Insertion
import HexChart.Proofs.Lattice
import HexChart.Proofs.Translation

/-!
# Symmetries of charts

The tables of offsets look the same in a mirror and after a half turn.  Such a symmetry
moves the points of a chart, redraws its shapes and turns its directions (`Symmetry`).  When
one text is the image of another one, each link of the one board joins the images of the
points that a link of the other joins, whatever numbers its cells have
(`joins_links_image_iff`), and so the audits of both boards are images of each other.
-/

namespace HexChart

open Chart

/-- A row and a column, which need not lie inside any chart. -/
abbrev Point := Int × Int

/-- The point that lies at an offset from another one. -/
def Offset.shift (offset : Offset) (point : Point) : Point :=
  (point.1 + offset.down, point.2 + offset.right)

/-- A way to move, redraw and turn a chart, twice of which changes nothing, and which agrees
with the offsets: what is seen at an offset from a shape is seen, after the move, at the
image of the offset from the image of the shape. -/
structure Symmetry where
  point : Point → Point
  shape : Shape → Shape
  offset : Offset → Offset
  direction : Direction → Direction
  point_point : Function.Involutive point
  shape_shape : Function.Involutive shape
  direction_direction : Function.Involutive direction
  direction_opposite : ∀ turned, direction turned.opposite = (direction turned).opposite
  direction_offset : ∀ moved, (offset moved).direction = direction moved.direction
  point_shift : ∀ moved start, point (moved.shift start) = (offset moved).shift (point start)
  offset_mem : ∀ drawn, ∀ moved ∈ drawn.offsets, offset moved ∈ (shape drawn).offsets

/-! ## The mirror and the half turn -/

/-- The direction that is seen in an upright mirror. -/
def Direction.mirror : Direction → Direction
  | clock12 => clock12
  | clock2 => clock10
  | clock4 => clock8
  | clock6 => clock6
  | clock8 => clock4
  | clock10 => clock2

/-- The slant that is seen in an upright mirror. -/
def Slant.mirror : Slant → Slant
  | vertical => vertical
  | forward => backward
  | backward => forward

/-- The shape that is seen in an upright mirror. -/
def Shape.mirror : Shape → Shape
  | road slant => road slant.mirror
  | shape => shape

/-- The offset that is seen in an upright mirror. -/
def Offset.mirror (offset : Offset) : Offset :=
  ⟨offset.direction.mirror, offset.down, -offset.right⟩

namespace Symmetry

/-- Left and right exchanged in a chart that is so many columns wide. -/
def mirror (width : Int) : Symmetry where
  point point := (point.1, width - 1 - point.2)
  shape := Shape.mirror
  offset := Offset.mirror
  direction := Direction.mirror
  point_point _ := Prod.ext rfl (Int.sub_sub_self ..)
  shape_shape shape := by rcases shape with ⟨_ | _ | _⟩ | _ | _ | _ | _ <;> rfl
  direction_direction direction := by cases direction <;> rfl
  direction_opposite direction := by cases direction <;> rfl
  direction_offset _ := rfl
  point_shift offset point := by
    simp only [Offset.shift, Offset.mirror, Prod.mk.injEq, true_and]
    omega
  offset_mem shape := by
    have hshape : ∀ shape ∈ Shape.all, ∀ offset ∈ shape.offsets,
        offset.mirror ∈ shape.mirror.offsets := by decide
    exact hshape shape (Shape.mem_all shape)

/-- A chart of so many rows and columns turned upside down. -/
def halfTurn (height width : Int) : Symmetry where
  point point := (height - 1 - point.1, width - 1 - point.2)
  shape shape := shape
  offset := Offset.back
  direction := Direction.opposite
  point_point _ := Prod.ext (Int.sub_sub_self ..) (Int.sub_sub_self ..)
  shape_shape _ := rfl
  direction_direction := Direction.opposite_opposite
  direction_opposite _ := rfl
  direction_offset _ := rfl
  point_shift offset point := by
    simp only [Offset.shift, Offset.back, Prod.mk.injEq]
    omega
  offset_mem shape := by
    have hshape : ∀ shape ∈ Shape.all, ∀ offset ∈ shape.offsets,
        offset.back ∈ shape.offsets := by decide
    exact hshape shape (Shape.mem_all shape)

/-- A text draws exactly the images of the shapes that another one draws, each at the image
of its point. -/
def Takes (symmetry : Symmetry) (text other : List Char) : Prop :=
  ∀ (shape : Shape) (point : Point),
    Draws other (symmetry.shape shape) (symmetry.point point).1 (symmetry.point point).2 ↔
      Draws text shape point.1 point.2

variable {symmetry : Symmetry} {text other : List Char}

theorem Takes.symm (htakes : symmetry.Takes text other) : symmetry.Takes other text := by
  intro shape point
  have himage := htakes (symmetry.shape shape) (symmetry.point point)
  rw [symmetry.shape_shape, symmetry.point_point] at himage
  exact himage.symm

/-- The image of two points and a direction. -/
def trace (symmetry : Symmetry) (traced : Point × Direction × Point) :
    Point × Direction × Point :=
  (symmetry.point traced.1, symmetry.direction traced.2.1, symmetry.point traced.2.2)

theorem trace_trace (symmetry : Symmetry) : Function.Involutive symmetry.trace := by
  rintro ⟨source, direction, target⟩
  simp only [trace, symmetry.point_point source, symmetry.direction_direction direction,
    symmetry.point_point target]

end Symmetry

/-! ## Points that are joined -/

/-- Where a cell is drawn. -/
def Cell.point (cell : Cell) : Point :=
  (cell.row, cell.col)

namespace Board

/-- One of some links leads along a direction from the cell at one point to the cell at
another. -/
def Joins (board : Board) (links : List Link) (source : Point) (direction : Direction)
    (target : Point) : Prop :=
  ∃ sourceCell ∈ board.allCells, ∃ targetCell ∈ board.allCells,
    sourceCell.point = source ∧ targetCell.point = target ∧
      ⟨sourceCell.ref, direction, targetCell.ref⟩ ∈ links

variable {text otherText : List Char} {board other : Board}

theorem eq_of_point_eq (hparse : parse text = .ok board) {left right : Cell}
    (hleft : left ∈ board.allCells) (hright : right ∈ board.allCells)
    (hpoint : left.point = right.point) : left = right := by
  obtain ⟨leftMark, hleftMark, rfl⟩ := (mem_allCells_iff hparse _).mp hleft
  obtain ⟨rightMark, hrightMark, rfl⟩ := (mem_allCells_iff hparse _).mp hright
  obtain ⟨hrow, hcol⟩ := Prod.mk.inj hpoint
  rw [eq_of_place_eq hleftMark hrightMark (Int.ofNat.inj hrow) (Int.ofNat.inj hcol)]

/-- The links of a board join every point at which a shape is drawn to those at its
offsets. -/
theorem joins_links_iff (hparse : parse text = .ok board) (source : Point)
    (direction : Direction) (target : Point) :
    board.Joins board.links source direction target ↔
      ∃ shape, ∃ offset ∈ shape.offsets, ∃ other,
        Draws text shape source.1 source.2 ∧ Draws text other target.1 target.2 ∧
          offset.direction = direction ∧ offset.shift source = target := by
  rw [Joins, links_eq_linksDrawn hparse]
  simp only [mem_allCells_iff hparse, mem_linksDrawn_iff, draws_iff]
  constructor
  · rintro ⟨_, ⟨sourceMark, hsource, rfl⟩, _, ⟨targetMark, htarget, rfl⟩, rfl, rfl, from_, hfrom,
      offset, hoffset, to_, hseen, hlink⟩
    obtain ⟨hfromRef, rfl, htoRef⟩ := Link.mk.inj hlink
    obtain ⟨hto, hrow, hcol⟩ := (seen_eq_some_iff ..).mp hseen
    obtain rfl := eq_of_ref_eq hsource hfrom hfromRef
    obtain rfl := eq_of_ref_eq htarget hto htoRef
    exact ⟨_, offset, hoffset, _, ⟨_, hsource, rfl, rfl, rfl⟩, ⟨_, htarget, rfl, rfl, rfl⟩, rfl,
      Prod.ext hrow.symm hcol.symm⟩
  · rintro ⟨_, offset, hoffset, _, ⟨sourceMark, hsource, rfl, hsourceRow, hsourceCol⟩,
      ⟨targetMark, htarget, rfl, htargetRow, htargetCol⟩, rfl, rfl⟩
    have hseen : seen text sourceMark offset = some targetMark := by
      rw [seen_eq_some_iff, hsourceRow, hsourceCol]
      exact ⟨htarget, htargetRow, htargetCol⟩
    exact ⟨_, ⟨sourceMark, hsource, rfl⟩, _, ⟨targetMark, htarget, rfl⟩,
      Prod.ext hsourceRow hsourceCol, Prod.ext htargetRow htargetCol, sourceMark, hsource, offset,
      hoffset, targetMark, hseen, rfl⟩

/-- A point is joined one way to another one when it is joined to it and not back. -/
theorem joins_oneWayLinks_iff (hparse : parse text = .ok board) (source : Point)
    (direction : Direction) (target : Point) :
    board.Joins board.oneWayLinks source direction target ↔
      board.Joins board.links source direction target ∧
        ¬board.Joins board.links target direction.opposite source := by
  rw [oneWayLinks_eq_filter hparse]
  constructor
  · rintro ⟨sourceCell, hsource, targetCell, htarget, rfl, rfl, hlink⟩
    obtain ⟨hlink, hreverse⟩ := List.mem_filter.mp hlink
    refine ⟨⟨sourceCell, hsource, targetCell, htarget, rfl, rfl, hlink⟩, ?_⟩
    rintro ⟨from_, hfrom, to_, hto, hfromPoint, htoPoint, hback⟩
    rw [eq_of_point_eq hparse hfrom htarget hfromPoint,
      eq_of_point_eq hparse hto hsource htoPoint] at hback
    exact of_decide_eq_true hreverse hback
  · rintro ⟨⟨sourceCell, hsource, targetCell, htarget, rfl, rfl, hlink⟩, hback⟩
    refine ⟨sourceCell, hsource, targetCell, htarget, rfl, rfl, List.mem_filter.mpr ⟨hlink, ?_⟩⟩
    apply decide_eq_true
    intro hreverse
    exact hback ⟨targetCell, htarget, sourceCell, hsource, rfl, rfl, hreverse⟩

/-! ## Images -/

section

variable {symmetry : Symmetry} (hparse : parse text = .ok board)
variable (hother : parse otherText = .ok other) (htakes : symmetry.Takes text otherText)

include hparse hother htakes

theorem joins_image_of_joins {source : Point} {direction : Direction} {target : Point}
    (hjoins : board.Joins board.links source direction target) :
    other.Joins other.links (symmetry.point source) (symmetry.direction direction)
      (symmetry.point target) := by
  obtain ⟨shape, offset, hoffset, targetShape, hsource, htarget, rfl, rfl⟩ :=
    (joins_links_iff hparse ..).mp hjoins
  rw [joins_links_iff hother]
  exact ⟨symmetry.shape shape, symmetry.offset offset, symmetry.offset_mem _ _ hoffset,
    symmetry.shape targetShape, (htakes _ _).mpr hsource, (htakes _ _).mpr htarget,
    symmetry.direction_offset _, (symmetry.point_shift ..).symm⟩

/-- The links of the image join the images of what the links of the chart join. -/
theorem joins_links_image_iff (source : Point) (direction : Direction) (target : Point) :
    other.Joins other.links (symmetry.point source) (symmetry.direction direction)
        (symmetry.point target) ↔
      board.Joins board.links source direction target := by
  constructor
  · intro hjoins
    have himage := joins_image_of_joins hother hparse htakes.symm hjoins
    rwa [symmetry.point_point, symmetry.direction_direction, symmetry.point_point] at himage
  · exact joins_image_of_joins hparse hother htakes

theorem joins_oneWayLinks_image_iff (source : Point) (direction : Direction) (target : Point) :
    other.Joins other.oneWayLinks (symmetry.point source) (symmetry.direction direction)
        (symmetry.point target) ↔
      board.Joins board.oneWayLinks source direction target := by
  rw [joins_oneWayLinks_iff hother, joins_oneWayLinks_iff hparse,
    joins_links_image_iff hparse hother htakes, ← symmetry.direction_opposite,
    joins_links_image_iff hparse hother htakes]

end

/-! ## Counting by points -/

/-- Where the cell of a reference is drawn. -/
def pointOf (board : Board) (ref : CellRef) : Point :=
  match board.cell? ref with
  | some cell => cell.point
  | none => (0, 0)

/-- The points that a link joins, and its direction. -/
def trace (board : Board) (link : Link) : Point × Direction × Point :=
  (board.pointOf link.source, link.direction, board.pointOf link.target)

section

variable (hparse : parse text = .ok board)

include hparse

theorem trace_eq {source target : Cell} (hsource : source ∈ board.allCells)
    (htarget : target ∈ board.allCells) (direction : Direction) :
    board.trace ⟨source.ref, direction, target.ref⟩ = (source.point, direction, target.point) := by
  rw [trace, pointOf, pointOf, (cell?_eq_some_iff hparse ..).mpr ⟨hsource, rfl⟩,
    (cell?_eq_some_iff hparse ..).mpr ⟨htarget, rfl⟩]

theorem exists_cells_of_mem_links {link : Link} (hmem : link ∈ board.links) :
    ∃ source ∈ board.allCells, ∃ target ∈ board.allCells,
      link = ⟨source.ref, link.direction, target.ref⟩ := by
  rw [links_eq_linksDrawn hparse, mem_linksDrawn_iff] at hmem
  obtain ⟨source, hsource, _, _, target, hseen, rfl⟩ := hmem
  exact ⟨_, (mem_allCells_iff hparse _).mpr ⟨source, hsource, rfl⟩, _,
    (mem_allCells_iff hparse _).mpr ⟨target, ((seen_eq_some_iff ..).mp hseen).1, rfl⟩, rfl⟩

theorem mem_map_trace_iff {links : List Link} (hlinks : links ⊆ board.links) (source : Point)
    (direction : Direction) (target : Point) :
    (source, direction, target) ∈ links.map board.trace ↔
      board.Joins links source direction target := by
  rw [List.mem_map]
  constructor
  · rintro ⟨link, hmem, htrace⟩
    obtain ⟨sourceCell, hsource, targetCell, htarget, hlink⟩ :=
      exists_cells_of_mem_links hparse (hlinks hmem)
    rw [hlink, trace_eq hparse hsource htarget] at htrace
    simp only [Prod.mk.injEq] at htrace
    obtain ⟨hsourcePoint, rfl, htargetPoint⟩ := htrace
    exact ⟨sourceCell, hsource, targetCell, htarget, hsourcePoint, htargetPoint, hlink ▸ hmem⟩
  · rintro ⟨sourceCell, hsource, targetCell, htarget, rfl, rfl, hmem⟩
    exact ⟨_, hmem, trace_eq hparse hsource htarget direction⟩

/-- Different links join different points or run along different directions. -/
theorem eq_of_trace_eq {left right : Link} (hleft : left ∈ board.links)
    (hright : right ∈ board.links) (htrace : board.trace left = board.trace right) :
    left = right := by
  obtain ⟨leftSource, hleftSource, leftTarget, hleftTarget, hleftLink⟩ :=
    exists_cells_of_mem_links hparse hleft
  obtain ⟨rightSource, hrightSource, rightTarget, hrightTarget, hrightLink⟩ :=
    exists_cells_of_mem_links hparse hright
  rw [hleftLink, hrightLink, trace_eq hparse hleftSource hleftTarget,
    trace_eq hparse hrightSource hrightTarget] at htrace
  simp only [Prod.mk.injEq] at htrace
  obtain ⟨hsource, hdirection, htarget⟩ := htrace
  calc
    left = ⟨leftSource.ref, left.direction, leftTarget.ref⟩ := hleftLink
    _ = ⟨rightSource.ref, right.direction, rightTarget.ref⟩ := by
        rw [eq_of_point_eq hparse hleftSource hrightSource hsource, hdirection,
          eq_of_point_eq hparse hleftTarget hrightTarget htarget]
    _ = right := hrightLink.symm

theorem nodup_map_trace_oneWayLinks : (board.oneWayLinks.map board.trace).Nodup := by
  have hlinks : board.links.Nodup := (safe_graph hparse "").nodup_ends.of_map
  apply List.Nodup.map_on _ (hlinks.filter _)
  intro left hleft right hright
  exact eq_of_trace_eq hparse (List.mem_of_mem_filter hleft) (List.mem_of_mem_filter hright)

end

theorem oneWayLinks_subset (board : Board) : board.oneWayLinks ⊆ board.links :=
  List.filter_subset_self board.links

/-- An audit and the audit of the image are equally long. -/
theorem length_oneWayLinks_image {symmetry : Symmetry} (hparse : parse text = .ok board)
    (hother : parse otherText = .ok other) (htakes : symmetry.Takes text otherText) :
    other.oneWayLinks.length = board.oneWayLinks.length := by
  have hperm : (other.oneWayLinks.map other.trace).Perm
      ((board.oneWayLinks.map board.trace).map symmetry.trace) := by
    rw [List.perm_ext_iff_of_nodup (nodup_map_trace_oneWayLinks hother)
      ((nodup_map_trace_oneWayLinks hparse).map symmetry.trace_trace.injective)]
    rintro ⟨source, direction, target⟩
    rw [mem_map_trace_iff hother other.oneWayLinks_subset,
      List.mem_map_of_involutive symmetry.trace_trace, Symmetry.trace,
      mem_map_trace_iff hparse board.oneWayLinks_subset]
    exact (joins_oneWayLinks_image_iff hother hparse htakes.symm source direction target).symm
  simpa using hperm.length_eq

/-- The links of one board are the images of the links of another one, and so are the links
that are one-way, of which there are equally many. -/
structure Images (symmetry : Symmetry) (board other : Board) : Prop where
  links : ∀ source direction target,
    board.Joins board.links source direction target ↔
      other.Joins other.links (symmetry.point source) (symmetry.direction direction)
        (symmetry.point target)
  oneWayLinks : ∀ source direction target,
    board.Joins board.oneWayLinks source direction target ↔
      other.Joins other.oneWayLinks (symmetry.point source) (symmetry.direction direction)
        (symmetry.point target)
  length_oneWayLinks : other.oneWayLinks.length = board.oneWayLinks.length

end Board

end HexChart
