import HexChart.Files.Path

/-!
# Files and directories

A tree of files and directories in memory.  Every entry has a place, the names
that lead to it from the root; paths are resolved to places step by step, as a
file system resolves them, and an operation that fails names the cause.
-/

namespace HexChart

/-- The names that lead from the root to an entry. -/
abbrev Place := List String

/-- What can be at a place. -/
inductive Entry where
  | directory
  | file (bytes : ByteArray)

/-- Files are compared by their bytes. -/
instance : DecidableEq Entry
  | .directory, .directory => isTrue rfl
  | .directory, .file _ => isFalse nofun
  | .file _, .directory => isFalse nofun
  | .file left, .file right =>
    decidable_of_iff (left.data = right.data) (by simp [ByteArray.ext_iff])

/-- Why an operation on files fails. -/
inductive FileError where
  | missing
  | alreadyThere
  | notDirectory
  | isDirectory
  | nameTooLong
  | zeroByte
  | notText
  /-- A failure that no tree in memory has. -/
  | other (words : String)
  deriving DecidableEq, Repr

def FileError.message : FileError → String
  | missing => "No such file or directory (os error 2)"
  | alreadyThere => "File exists (os error 17)"
  | notDirectory => "Not a directory (os error 20)"
  | isDirectory => "Is a directory (os error 21)"
  | nameTooLong => "File name too long (os error 36)"
  | zeroByte => "file name contained an unexpected NUL byte"
  | notText => "stream did not contain valid UTF-8"
  | other words => words

/-- A tree of files, and the directory in which relative paths begin. -/
structure Files where
  entries : List (Place × Entry)
  current : Place

namespace Files

/-- The tree in which only the current directory is there. -/
def empty : Files :=
  ⟨[(["work"], .directory)], ["work"]⟩

/-- What is at a place.  The root is always a directory. -/
def get? (files : Files) (place : Place) : Option Entry :=
  if place = [] then some .directory else files.entries.lookup place

/-- The tree with an entry put at a place. -/
def put (files : Files) (place : Place) (entry : Entry) : Files :=
  { files with
    entries := (place, entry) :: files.entries.filter fun other => other.1 != place }

theorem lookup_filter_ne {place other : Place} (entries : List (Place × Entry))
    (hne : other ≠ place) :
    (entries.filter fun entry => entry.1 != place).lookup other = entries.lookup other := by
  induction entries with
  | nil => rfl
  | cons head rest ih =>
    by_cases hhead : head.1 = place
    · have hskip : (other == head.1) = false := by simp [hhead, hne]
      rw [List.filter_cons_of_neg (by simp [hhead]), ih, List.lookup_cons, hskip]
    · rw [List.filter_cons_of_pos (by simp [hhead]), List.lookup_cons, List.lookup_cons, ih]

/-- Putting an entry changes what is at its place and nowhere else. -/
theorem get?_put (files : Files) {place : Place} (hplace : place ≠ []) (entry : Entry)
    (other : Place) :
    (files.put place entry).get? other =
      if other = place then some entry else files.get? other := by
  unfold get? put
  by_cases hroot : other = []
  · subst hroot
    simp [Ne.symm hplace]
  · by_cases hsame : other = place
    · subst hsame
      simp [hroot]
    · rw [if_neg hroot, if_neg hroot, if_neg hsame, List.lookup_cons,
        beq_false_of_ne hsame]
      exact lookup_filter_ne files.entries hsame

/-- Refuses a path that no operation takes: one with a zero byte in it, and one
that takes more room than paths may. -/
def checkPath (path : String) : Except FileError Unit :=
  if path.toList.contains '\x00' then .error .zeroByte
  else if path.utf8ByteSize < 4096 then .ok ()
  else .error .nameTooLong

/-- The place of a name in a directory, at which there need not be an entry.  A
name takes at most 255 bytes. -/
def placeIn (directory : Place) (name : String) : Except FileError Place :=
  if name.utf8ByteSize ≤ 255 then .ok (directory ++ [name]) else .error .nameTooLong

/-- Follows segments from a place; each must lead to a directory. -/
def enter (files : Files) : Place → List String → Except FileError Place
  | place, [] => .ok place
  | place, segment :: rest =>
    if segment = "" ∨ segment = "." then files.enter place rest
    else if segment = ".." then files.enter place.dropLast rest
    else
      match placeIn place segment with
      | .error cause => .error cause
      | .ok inner =>
        match files.get? inner with
        | none => .error .missing
        | some (.file _) => .error .notDirectory
        | some .directory => files.enter inner rest

def start (files : Files) (path : List String) : Place :=
  if Path.isAbsolute path then [] else files.current

def isDirectory (files : Files) (path : List String) : Bool :=
  (files.enter (files.start path) path).isOk

/-- The place of a path, at which there need not be an entry yet. -/
def locate (files : Files) (path : List String) : Except FileError Place :=
  match path.getLast? with
  | some name =>
    if Path.isName name then
      (files.enter (files.start path) path.dropLast).bind (placeIn · name)
    else
      files.enter (files.start path) path
  | none => .ok files.current

def read (files : Files) (path : String) : Except FileError ByteArray := do
  checkPath path
  let place ← files.locate (Path.segments path)
  match files.get? place with
  | none => .error .missing
  | some .directory => .error .isDirectory
  | some (.file bytes) => .ok bytes

/-- The tree with a file of the given bytes at a path. -/
def write (files : Files) (path : String) (bytes : ByteArray) : Except FileError Files := do
  checkPath path
  let place ← files.locate (Path.segments path)
  match files.get? place with
  | some .directory => .error .isDirectory
  | _ => .ok (files.put place (.file bytes))

/-- The segments of a path without the empty ones at its end. -/
def trimmed (path : List String) : List String :=
  (path.reverse.dropWhile (· == "")).reverse

/-- The tree with a new directory at a path, in a directory that is there. -/
def makeDirectory (files : Files) (path : List String) : Except FileError Files :=
  match (trimmed path).getLast? with
  | none => .error .alreadyThere
  | some name => do
    let parent ← files.enter (files.start path) (trimmed path).dropLast
    if Path.isName name then
      let place ← placeIn parent name
      match files.get? place with
      | some _ => .error .alreadyThere
      | none => .ok (files.put place .directory)
    else
      .error .alreadyThere

/-- Makes a directory unless it is there already. -/
def ensureDirectory (files : Files) (path : List String) : Files × Option FileError :=
  match files.makeDirectory path with
  | .ok made => (made, none)
  | .error cause =>
    if cause = .alreadyThere ∧ files.isDirectory path then (files, none)
    else (files, some cause)

/-- Makes the first of some directories, and before it those after it in the
list as far as they are missing. -/
def ensureDirectories (files : Files) : List (List String) → Files × Option FileError
  | [] => (files, none)
  | path :: parents =>
    match files.ensureDirectory path with
    | (_, some .missing) =>
      match files.ensureDirectories parents with
      | (made, none) => made.ensureDirectory path
      | failed => failed
    | outcome => outcome

/-- Makes the directory at a path and those above it, as far as they are
missing.  If that fails, what was made stays. -/
def makeDirectories (files : Files) (path : String) : Files × Option FileError :=
  match checkPath path with
  | .error cause => (files, some cause)
  | .ok () => files.ensureDirectories (Path.ancestors (Path.segments path))

/-- The entries that are new or have changed since another state. -/
def changesSince (files before : Files) : List (Place × Entry) :=
  files.entries.filter fun (place, entry) => before.get? place ≠ some entry

/-- The relative path of a place below the current directory; that of a
directory ends in a slash. -/
def relativePath? (files : Files) (place : Place) (entry : Entry) : Option String :=
  if files.current.isPrefixOf place then
    let path := String.intercalate "/" (place.drop files.current.length)
    some (match entry with
      | .directory => path ++ "/"
      | .file _ => path)
  else
    none

end Files

end HexChart
