/-!
# Kinds of cells

A drawn cell is a road, a junction or one of three sorts of hex.  Cells are
numbered and stored per kind, so this module also holds the family of values
indexed by kind on which counts and collections are built.
-/

namespace HexChart

/-- What a drawn cell stands for. -/
inductive Kind where
  /-- An edge between two junctions. -/
  | road
  /-- A corner where hexes meet. -/
  | junction
  /-- A land hex. -/
  | tile
  /-- A hex whose face is revealed during play. -/
  | flippable
  /-- A water hex on the rim. -/
  | ocean
  deriving DecidableEq, Repr, Inhabited

namespace Kind

/-- Every kind, in the order in which links are listed. -/
def all : List Kind :=
  [road, junction, tile, flippable, ocean]

/-- The place of a kind in `all`, which is also its rank in sorting. -/
def rank : Kind → Nat
  | road => 0
  | junction => 1
  | tile => 2
  | flippable => 3
  | ocean => 4

def name : Kind → String
  | road => "road"
  | junction => "junction"
  | tile => "tile"
  | flippable => "flippable"
  | ocean => "ocean"

/-- The accessor of a node of this kind in generated code. -/
def accessor : Kind → String
  | road => "road"
  | junction => "junction"
  | tile => "hex"
  | flippable => "flippable"
  | ocean => "ocean"

def ofName? (text : String) : Option Kind :=
  all.find? fun kind => kind.name = text

theorem mem_all (kind : Kind) : kind ∈ all := by
  cases kind <;> decide

theorem ofName?_name (kind : Kind) : ofName? kind.name = some kind := by
  cases kind <;> rfl

end Kind

/-- One value for each kind. -/
structure PerKind (α : Type) where
  road : α
  junction : α
  tile : α
  flippable : α
  ocean : α
  deriving DecidableEq, Repr

namespace PerKind

variable {α β : Type}

def get (family : PerKind α) : Kind → α
  | .road => family.road
  | .junction => family.junction
  | .tile => family.tile
  | .flippable => family.flippable
  | .ocean => family.ocean

/-- The family with the value `f kind` for each kind. -/
def ofFn (f : Kind → α) : PerKind α :=
  ⟨f .road, f .junction, f .tile, f .flippable, f .ocean⟩

/-- The family with every value replaced by its image. -/
def map (f : α → β) (family : PerKind α) : PerKind β :=
  ofFn fun kind => f (family.get kind)

/-- The family with the value for one kind changed by `f`. -/
def modify (family : PerKind α) (kind : Kind) (f : α → α) : PerKind α :=
  ofFn fun other => if other = kind then f (family.get other) else family.get other

/-- The values in the order of `Kind.all`. -/
def toList (family : PerKind α) : List α :=
  Kind.all.map family.get

@[simp]
theorem get_ofFn (f : Kind → α) (kind : Kind) : (ofFn f).get kind = f kind := by
  cases kind <;> rfl

@[simp]
theorem get_map (f : α → β) (family : PerKind α) (kind : Kind) :
    (family.map f).get kind = f (family.get kind) := by
  simp [map]

theorem get_modify (family : PerKind α) (kind other : Kind) (f : α → α) :
    (family.modify kind f).get other =
      if other = kind then f (family.get other) else family.get other := by
  simp [modify]

/-- Two families with the same values are the same. -/
theorem ext_get {left right : PerKind α}
    (hget : ∀ kind, left.get kind = right.get kind) : left = right := by
  cases left
  cases right
  simp only [mk.injEq]
  exact ⟨hget .road, hget .junction, hget .tile, hget .flippable, hget .ocean⟩

end PerKind

abbrev Census := PerKind Nat

end HexChart
