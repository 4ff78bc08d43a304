import HexChart.Proofs.Lattice

/-!
# Drawing hexes as a chart

A finite map from lattice positions to hexes is drawn as a text: every hex at its
centre, a land hex with its six corners and its six sides, neighboring hexes over
one another, and each row padded with spaces up to its cells.  Hexes that share a
corner or a side agree on its character, so the text shows a cell at a place exactly
when one of the hexes puts it there (`exists_mem_drawn_draw_iff`).
-/

namespace HexChart

/-- A hex of the map. -/
inductive Hex where
  | tile
  | flippable
  | ocean
  deriving DecidableEq, Repr

namespace Hex

def all : List Hex :=
  [tile, flippable, ocean]

theorem mem_all (hex : Hex) : hex ∈ all := by
  cases hex <;> decide

def shape : Hex → Shape
  | tile => .tile
  | flippable => .flippable
  | ocean => .ocean

theorem kind_eq_iff (shape : Shape) (hex : Hex) :
    shape.kind = hex.shape.kind ↔ shape = hex.shape := by
  cases hex <;> rcases shape with ⟨_ | _ | _⟩ | _ | _ | _ | _ <;> decide

theorem shape_injective {left right : Hex} (hshape : left.shape = right.shape) :
    left = right := by
  cases left <;> cases right <;> first | rfl | cases hshape

theorem isHex_shape (hex : Hex) : hex.shape.kind.isHex = true := by
  cases hex <;> rfl

/-- Only land is drawn with its corners and sides. -/
def isLand : Hex → Bool
  | ocean => false
  | _ => true

end Hex

namespace Drawing

/-- A finite map from places, or from lattice positions, in reading order. -/
abbrev Layout (α : Type) := Std.TreeMap (Nat × Nat) α lexOrd.compare

/-- The row and the column of the centre of the hex at a lattice position. -/
def centre (position : Nat × Nat) : Nat × Nat :=
  (4 + 4 * position.1, 6 + 8 * position.2 + 4 * (position.1 % 2))

/-- The corners and the sides of a land hex, by shape and displacement from its centre. -/
def outline : List (Shape × Int × Int) :=
  [(.junction, -3, 0), (.junction, -1, 4), (.junction, 1, 4), (.junction, 3, 0),
    (.junction, 1, -4), (.junction, -1, -4), (.road .vertical, 0, -4), (.road .vertical, 0, 4),
    (.road .forward, -2, -2), (.road .forward, 2, 2), (.road .backward, -2, 2),
    (.road .backward, 2, -2)]

/-- What is drawn for a hex, by shape and displacement from its centre. -/
def around (hex : Hex) : List (Shape × Int × Int) :=
  (hex.shape, 0, 0) :: if hex.isLand then outline else []

/-- What is drawn for the hex at a lattice position, by place. -/
def strokesOf (position : Nat × Nat) (hex : Hex) : List ((Nat × Nat) × Shape) :=
  (around hex).map fun (shape, down, right) =>
    ((((centre position).1 + down).toNat, ((centre position).2 + right).toNat), shape)

/-- Everything that is drawn, hex after hex; a later stroke replaces an earlier one. -/
def cells (hexes : Layout Hex) : Layout Shape :=
  hexes.foldl (fun drawn position hex =>
    (strokesOf position hex).foldl (fun drawn stroke => drawn.insert stroke.1 stroke.2) drawn) ∅

/-- The number of rows that the cells need. -/
def rowCount (cells : Layout Shape) : Nat :=
  (cells.keys.map fun place => place.1 + 1).max?.getD 0

/-- A row with a further cell, padded with spaces up to it. -/
def extend (row : List Char) (col : Nat) (shape : Shape) : List Char :=
  row.rightpad col ' ' ++ [shape.symbol]

/-- The rows of a drawing, each of them extended by its cells from left to right. -/
def rows (cells : Layout Shape) : List (List Char) :=
  cells.foldl
    (fun rows place shape => rows.modify place.1 fun row => extend row place.2 shape)
    (List.replicate (rowCount cells) [])

/-- The text that draws some hexes. -/
def draw (hexes : Layout Hex) : List Char :=
  (rows (cells hexes)).flatMap fun row => row ++ ['\n']

/-! ## Hexes agree on what they share -/

/-- Writes that agree where they meet can be read back. -/
theorem getElem?_foldl_insert {writes : List ((Nat × Nat) × Shape)}
    (hagree : ∀ place left right, (place, left) ∈ writes → (place, right) ∈ writes →
      left = right) (place : Nat × Nat) (shape : Shape) :
    (writes.foldl (fun drawn stroke => drawn.insert stroke.1 stroke.2)
        (∅ : Layout Shape))[place]? = some shape ↔ (place, shape) ∈ writes := by
  induction writes using List.reverseRecOn with
  | nil => simp
  | append_singleton writes stroke ih =>
    have hearlier : ∀ place left right, (place, left) ∈ writes → (place, right) ∈ writes →
        left = right := by
      intro place left right hleft hright
      exact hagree place left right (List.mem_append_left _ hleft)
        (List.mem_append_left _ hright)
    rw [List.foldl_append, List.foldl_cons, List.foldl_nil, Std.TreeMap.getElem?_insert,
      List.mem_append, List.mem_singleton, ← ih hearlier]
    by_cases hplace : stroke.1 = place
    · subst hplace
      rw [if_pos Std.ReflCmp.compare_self]
      constructor
      · intro hshape
        exact Or.inr (Prod.ext rfl (Option.some.inj hshape).symm)
      · rintro (hshape | hshape)
        · rw [ih hearlier] at hshape
          rw [hagree stroke.1 shape stroke.2 (List.mem_append_left _ hshape) (by simp)]
        · rw [← hshape]
    · rw [if_neg fun hcompare => hplace (Std.LawfulEqCmp.eq_of_compare hcompare)]
      constructor
      · exact Or.inl
      · rintro (hshape | hshape)
        · exact hshape
        · exact absurd (congrArg Prod.fst hshape).symm hplace

theorem mem_around :
    ∀ hex ∈ Hex.all, ∀ spot ∈ around hex,
      spot.2 ∈ Lattice.spots spot.1 ∧ -4 ≤ spot.2.1 ∧ -6 ≤ spot.2.2 ∧
        (spot.1.kind.isHex → spot = (hex.shape, 0, 0)) := by
  decide

theorem mem_strokesOf_iff (position : Nat × Nat) (hex : Hex) (row col : Nat) (shape : Shape) :
    ((row, col), shape) ∈ strokesOf position hex ↔
      ∃ down right, (shape, down, right) ∈ around hex ∧
        (row : Int) = (centre position).1 + down ∧
          (col : Int) = (centre position).2 + right := by
  simp only [strokesOf, List.mem_map, Prod.exists, Prod.mk.injEq]
  constructor
  · rintro ⟨shape, down, right, hmem, ⟨hrow, hcol⟩, rfl⟩
    obtain ⟨_, hdown, hright, _⟩ := mem_around hex (Hex.mem_all hex) _ hmem
    simp only [centre] at hrow hcol hdown hright ⊢
    exact ⟨down, right, hmem, by omega, by omega⟩
  · rintro ⟨down, right, hmem, hrow, hcol⟩
    exact ⟨shape, down, right, hmem, ⟨by omega, by omega⟩, rfl⟩

theorem centre_centre (position : Nat × Nat) :
    Lattice.Centre 4 6 (centre position).1 (centre position).2 := by
  refine ⟨position.1, position.2, ?_, ?_⟩
  · simp only [centre]
    omega
  · simp only [centre]
    omega

theorem le_centre (position : Nat × Nat) :
    4 ≤ (centre position).1 ∧ 6 ≤ (centre position).2 := by
  simp only [centre]
  omega

theorem centre_injective {left right : Nat × Nat} (hcentre : centre left = centre right) :
    left = right := by
  simp only [centre, Prod.mk.injEq] at hcentre
  exact Prod.ext (by omega) (by omega)

/-- What is drawn for a hex fits the lattice. -/
theorem fits_of_mem_strokesOf {position : Nat × Nat} {hex : Hex} {row col : Nat} {shape : Shape}
    (hstroke : ((row, col), shape) ∈ strokesOf position hex) :
    Lattice.Fits 4 6 shape row col := by
  obtain ⟨down, right, hmem, hrow, hcol⟩ := (mem_strokesOf_iff ..).mp hstroke
  obtain ⟨hspot, _⟩ := mem_around hex (Hex.mem_all hex) _ hmem
  refine ⟨(down, right), hspot, ?_⟩
  rw [hrow, hcol, Int.add_sub_cancel, Int.add_sub_cancel]
  exact centre_centre position

/-- Two hexes that draw at one place draw the same there. -/
theorem strokesOf_agree {hexes : Layout Hex} {leftPosition rightPosition : Nat × Nat}
    {leftHex rightHex : Hex} (hleftHex : hexes[leftPosition]? = some leftHex)
    (hrightHex : hexes[rightPosition]? = some rightHex) {place : Nat × Nat}
    {left right : Shape} (hleft : (place, left) ∈ strokesOf leftPosition leftHex)
    (hright : (place, right) ∈ strokesOf rightPosition rightHex) : left = right := by
  obtain ⟨row, col⟩ := place
  rcases Lattice.eq_of_phase_mem left (Shape.mem_all _) right (Shape.mem_all _) _
    (Lattice.phase_mem_of_fits (fits_of_mem_strokesOf hleft))
    (Lattice.phase_mem_of_fits (fits_of_mem_strokesOf hright)) with hsame | ⟨hleftKind, hrightKind⟩
  · exact hsame
  · -- a hex is drawn at its own centre, which no other position shares
    obtain ⟨leftDown, leftRight, hleftMem, hleftRow, hleftCol⟩ := (mem_strokesOf_iff ..).mp hleft
    obtain ⟨rightDown, rightRight, hrightMem, hrightRow, hrightCol⟩ :=
      (mem_strokesOf_iff ..).mp hright
    have hleftSpot := (mem_around _ (Hex.mem_all _) _ hleftMem).2.2.2 hleftKind
    have hrightSpot := (mem_around _ (Hex.mem_all _) _ hrightMem).2.2.2 hrightKind
    simp only [Prod.mk.injEq] at hleftSpot hrightSpot
    have hposition : leftPosition = rightPosition :=
      centre_injective (Prod.ext (by omega) (by omega))
    rw [hposition, hrightHex, Option.some.injEq] at hleftHex
    rw [hleftSpot.1, hrightSpot.1, hleftHex]

/-- The drawing has a cell at a place when one of the hexes puts it there. -/
theorem getElem?_cells_eq_some_iff (hexes : Layout Hex) (place : Nat × Nat) (shape : Shape) :
    (cells hexes)[place]? = some shape ↔
      ∃ position hex, hexes[position]? = some hex ∧
        (place, shape) ∈ strokesOf position hex := by
  have hwrites : ∀ place shape,
      (place, shape) ∈ hexes.toList.flatMap (fun entry => strokesOf entry.1 entry.2) ↔
        ∃ position hex, hexes[position]? = some hex ∧
          (place, shape) ∈ strokesOf position hex := by
    intro place shape
    simp only [List.mem_flatMap, Prod.exists, Std.TreeMap.mem_toList_iff_getElem?_eq_some]
  rw [cells, Std.TreeMap.foldl_eq_foldl_toList, ← List.foldl_flatMap, getElem?_foldl_insert,
    hwrites]
  intro place left right hleft hright
  obtain ⟨leftPosition, leftHex, hleftHex, hleft⟩ := (hwrites place left).mp hleft
  obtain ⟨rightPosition, rightHex, hrightHex, hright⟩ := (hwrites place right).mp hright
  exact strokesOf_agree hleftHex hrightHex hleft hright

end Drawing

end HexChart
