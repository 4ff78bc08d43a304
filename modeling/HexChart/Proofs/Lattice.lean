import HexChart.Proofs.Audit
import Mathlib.Tactic.Common

/-!
# Charts on the hex lattice

Hexes are drawn around centres that lie four rows and eight columns apart, every
other row of them shifted by four columns.  The row modulo 4 and the difference of
column and row modulo 8, both counted from a centre, decide what may stand at a
place: this is the phase of the place.  A step along an offset moves every phase in
the same way, so what a cell can see is a finite question (`target_of_leads`,
`pairwise_direction_ne`), and every link of a chart on the lattice is answered.
-/

namespace HexChart

/-- The offset that leads back. -/
def Offset.back (offset : Offset) : Offset :=
  ⟨offset.direction.opposite, -offset.down, -offset.right⟩

/-- Whether cells of a kind are hexes. -/
def Kind.isHex : Kind → Bool
  | road | junction => false
  | tile | flippable | ocean => true

theorem Shape.kind_eq_junction_iff (shape : Shape) :
    shape.kind = .junction ↔ shape = .junction := by
  cases shape <;> simp [kind]

namespace Lattice

/-- The centres of the hexes, one of which is at `(row₀, col₀)`. -/
def Centre (row₀ col₀ row col : Int) : Prop :=
  ∃ k j : Int, row = row₀ + 4 * k ∧ col = col₀ + 8 * j + 4 * (k % 2)

/-- The rows and columns from the centre of a hex to where cells of a shape are
drawn for it. -/
def spots : Shape → List (Int × Int)
  | .tile | .flippable | .ocean => [(0, 0)]
  | .junction => Offset.far.map fun offset => (offset.down, offset.right)
  | .road .vertical => [(0, -4), (0, 4)]
  | .road .forward => [(-2, -2), (2, 2)]
  | .road .backward => [(-2, 2), (2, -2)]

/-- Whether a cell of a shape belongs at a place of the lattice. -/
def Fits (row₀ col₀ : Int) (shape : Shape) (row col : Int) : Prop :=
  ∃ spot ∈ spots shape, Centre row₀ col₀ (row - spot.1) (col - spot.2)

/-- Every cell of a text stands at a place of one lattice that is meant for it. -/
def Hosts (text : List Char) : Prop :=
  ∃ row₀ col₀ : Int, ∀ mark ∈ Chart.drawn text, Fits row₀ col₀ mark.shape mark.row mark.col

/-! ## Phases -/

def phase (row₀ col₀ row col : Int) : Int × Int :=
  ((row - row₀) % 4, (col - col₀ - (row - row₀)) % 8)

/-- The phases of the places that are meant for a shape. -/
def phases : Shape → List (Int × Int)
  | .tile | .flippable | .ocean => [(0, 0)]
  | .junction => [(1, 3), (3, 5)]
  | .road .vertical => [(0, 4)]
  | .road .forward => [(2, 0)]
  | .road .backward => [(2, 4)]

/-- The phase that lies some rows and columns away. -/
def step (from_ : Int × Int) (down right : Int) : Int × Int :=
  ((from_.1 + down) % 4, (from_.2 + right - down) % 8)

variable {row₀ col₀ : Int}

theorem phase_add (row col down right : Int) :
    phase row₀ col₀ (row + down) (col + right) = step (phase row₀ col₀ row col) down right := by
  simp only [phase, step, Prod.mk.injEq]
  omega

theorem centre_iff_phase (row col : Int) :
    Centre row₀ col₀ row col ↔ phase row₀ col₀ row col = (0, 0) := by
  simp only [Centre, phase, Prod.mk.injEq]
  constructor
  · rintro ⟨k, j, hrow, hcol⟩
    omega
  · rintro ⟨hrow, hcol⟩
    refine ⟨(row - row₀) / 4, (col - col₀ - 4 * ((row - row₀) / 4 % 2)) / 8, ?_, ?_⟩
    · omega
    · omega

theorem step_zero_mem_phases :
    ∀ shape ∈ Shape.all, ∀ spot ∈ spots shape, step (0, 0) spot.1 spot.2 ∈ phases shape := by
  decide

theorem phase_mem_of_fits {shape : Shape} {row col : Int} (hfits : Fits row₀ col₀ shape row col) :
    phase row₀ col₀ row col ∈ phases shape := by
  obtain ⟨spot, hspot, hcentre⟩ := hfits
  rw [centre_iff_phase] at hcentre
  have hphase := @phase_add row₀ col₀ (row - spot.1) (col - spot.2) spot.1 spot.2
  rw [Int.sub_add_cancel, Int.sub_add_cancel, hcentre] at hphase
  rw [hphase]
  exact step_zero_mem_phases shape (Shape.mem_all shape) spot hspot

/-- Whether an offset leads from a phase to places that are meant for a shape. -/
def leads (start : Int × Int) (offset : Offset) (target : Shape) : Bool :=
  step start offset.down offset.right ∈ phases target

/-- On the lattice an offset leads between a junction and something else, and the
offset that leads back is one of the target. -/
theorem target_of_leads :
    ∀ source ∈ Shape.all, ∀ offset ∈ source.offsets, ∀ start ∈ phases source,
      ∀ target ∈ Shape.all, leads start offset target →
        (source = .junction ↔ target ≠ .junction) ∧ offset.back ∈ target.offsets := by
  decide

/-- Only the three sorts of hex share a phase. -/
theorem eq_of_phase_mem :
    ∀ left ∈ Shape.all, ∀ right ∈ Shape.all, ∀ shared ∈ phases left, shared ∈ phases right →
      left = right ∨ left.kind.isHex ∧ right.kind.isHex := by
  decide

/-- Of two offsets of a shape in one direction at most one leads anywhere. -/
theorem pairwise_direction_ne :
    ∀ source ∈ Shape.all, ∀ start ∈ phases source,
      source.offsets.Pairwise fun left right =>
        Shape.all.any (leads start left) → Shape.all.any (leads start right) →
          left.direction ≠ right.direction := by
  decide

end Lattice

namespace Chart

open HexChart.Lattice

/-- What has been seen lies in sight of it, on the opposite side. -/
theorem seen_back_iff {text : List Char} {source target : Mark} {offset : Offset}
    (hsource : source ∈ drawn text) (hseen : seen text source offset = some target)
    (other : Offset) :
    seen text target other = some source ↔
      other.down = -offset.down ∧ other.right = -offset.right := by
  obtain ⟨_, hrow, hcol⟩ := (seen_eq_some_iff ..).mp hseen
  rw [seen_eq_some_iff]
  constructor
  · rintro ⟨_, hbackRow, hbackCol⟩
    omega
  · rintro ⟨hdown, hright⟩
    exact ⟨hsource, by omega, by omega⟩

variable {text : List Char} {row₀ col₀ : Int}
variable (hfits : ∀ mark ∈ drawn text, Fits row₀ col₀ mark.shape mark.row mark.col)

include hfits

/-- Seeing a mark from another one on the lattice is a step between their phases. -/
theorem leads_of_seen {source target : Mark} {offset : Offset}
    (hseen : seen text source offset = some target) :
    leads (phase row₀ col₀ source.row source.col) offset target.shape = true := by
  obtain ⟨htarget, hrow, hcol⟩ := (seen_eq_some_iff ..).mp hseen
  have hphase := phase_mem_of_fits (hfits target htarget)
  rw [hrow, hcol, phase_add] at hphase
  simpa [leads] using hphase

/-- Whatever is seen on the lattice looks back. -/
theorem seen_back {source target : Mark} (hsource : source ∈ drawn text) {offset : Offset}
    (hoffset : offset ∈ source.shape.offsets) (hseen : seen text source offset = some target) :
    (source.shape = .junction ↔ target.shape ≠ .junction) ∧
      offset.back ∈ target.shape.offsets ∧ seen text target offset.back = some source := by
  obtain ⟨hends, hback⟩ := target_of_leads source.shape (Shape.mem_all _) offset hoffset _
    (phase_mem_of_fits (hfits source hsource)) target.shape (Shape.mem_all _)
    (leads_of_seen hfits hseen)
  exact ⟨hends, hback, (seen_back_iff hsource hseen offset.back).mpr ⟨rfl, rfl⟩⟩

/-- Every link on the lattice joins a junction to something else and is answered. -/
theorem answered_of_mem_linksDrawn {link : Link} (hmem : link ∈ linksDrawn text) :
    (link.source.kind = .junction ↔ link.target.kind ≠ .junction) ∧
      link.reverse ∈ linksDrawn text := by
  obtain ⟨source, hsource, offset, hoffset, target, hseen, rfl⟩ :=
    (mem_linksDrawn_iff text link).mp hmem
  obtain ⟨hends, hback, hseenBack⟩ := seen_back hfits hsource hoffset hseen
  have htarget := ((seen_eq_some_iff ..).mp hseen).1
  constructor
  · rw [← Shape.kind_eq_junction_iff, ne_eq, ← Shape.kind_eq_junction_iff] at hends
    exact hends
  · exact (mem_linksDrawn_iff text _).mpr
      ⟨target, htarget, offset.back, hback, source, hseenBack, rfl⟩

theorem pairwise_direction_linksFrom {source : Mark} (hsource : source ∈ drawn text) :
    (linksFrom text source).Pairwise fun left right => left.direction ≠ right.direction := by
  have hoffsets := pairwise_direction_ne source.shape (Shape.mem_all _) _
    (phase_mem_of_fits (hfits source hsource))
  apply hoffsets.filterMap
  intro left right hdirections leftLink hleft rightLink hright
  obtain ⟨leftTarget, hleftSeen, rfl⟩ := Option.map_eq_some_iff.mp hleft
  obtain ⟨rightTarget, hrightSeen, rfl⟩ := Option.map_eq_some_iff.mp hright
  apply hdirections
  · exact List.any_eq_true.mpr ⟨_, Shape.mem_all _, leads_of_seen hfits hleftSeen⟩
  · exact List.any_eq_true.mpr ⟨_, Shape.mem_all _, leads_of_seen hfits hrightSeen⟩

end Chart

namespace Board

open Chart

variable {text : List Char} {board : Board}

end Board

end HexChart
