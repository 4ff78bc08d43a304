import HexChart.Files.Tree

/-!
# Access to files

A run needs three operations on files and does not ask where the files are.  A tree in
memory offers them, and so does a system outside of the library; what a run does with
their answers is the same on both.
-/

namespace HexChart

/-- The operations on files that a run needs.  A failure is an answer like any other. -/
structure Access (m : Type → Type) where
  read : String → m (Except FileError ByteArray)
  /-- Makes a directory and those above it, as far as they are missing. -/
  makeDirectories : String → m (Except FileError Unit)
  write : String → ByteArray → m (Except FileError Unit)

/-- Access to a tree of files in memory. -/
def Files.access : Access (StateM Files) where
  read path := fun files => (files.read path, files)
  makeDirectories path := fun files =>
    match files.makeDirectories path with
    | (files, some cause) => (.error cause, files)
    | (files, none) => (.ok (), files)
  write path bytes := fun files =>
    match files.write path bytes with
    | .error cause => (.error cause, files)
    | .ok files => (.ok (), files)

end HexChart
