import HexChart.Proofs.Growth

/-!
# Files that are named in a directory

A directory and the name of a file are joined to a path.  Whether or not the directory
ends in a slash, is empty or begins at the root, the joined path is that of the file of
this name directly in this directory (`locate_join_eq_ok_iff`).  Reading such a path
and writing it are described through places.
-/

namespace HexChart

namespace Path

theorem segments_append_slash (front back : String) :
    segments (front ++ "/" ++ back) = segments front ++ segments back := by
  have hlist : (front ++ "/" ++ back).toList = front.toList ++ '/' :: back.toList := by
    simp [String.toList_append]
  rw [segments, hlist, Text.splitAt_append_separator, List.map_append]
  rfl

theorem segments_of_not_mem {name : String} (hslash : '/' ∉ name.toList) :
    segments name = [name] := by
  rw [segments, Text.splitAt_of_not_mem hslash, List.map_singleton, String.ofList_toList]

theorem segments_ne_nil (path : String) : segments path ≠ [] := by
  rw [segments, ne_eq, List.map_eq_nil_iff]
  exact Text.splitAt_ne_nil '/' path.toList

theorem eq_empty_of_segments {path : String} (hsegments : segments path = [""]) : path = "" := by
  obtain ⟨part, hparts, hpart⟩ := List.map_eq_singleton_iff.mp hsegments
  have htext := Text.intercalate_splitAt '/' path.toList
  have hempty : part = [] := by simpa using congrArg String.toList hpart
  rw [hparts, hempty] at htext
  simpa using htext.symm

theorem isAbsolute_concat {front : List String} (hfront : front ≠ []) (name : String) :
    isAbsolute (front ++ [name]) = (front.head? == some "") := by
  rw [isAbsolute_eq, List.head?_append_of_ne_nil _ hfront]
  intro hempty
  cases front with
  | nil => exact hfront rfl
  | cons first others => simp at hempty

end Path

namespace Files

theorem locate_concat (files : Files) (front : List String) {name : String}
    (hname : Path.isName name = true) :
    files.locate (front ++ [name]) =
      (files.enter (files.start (front ++ [name])) front).bind (placeIn · name) := by
  rw [locate, List.getLast?_concat, List.dropLast_concat]
  simp only [hname, if_true]

/-- The path of a file in a directory is looked up by following the directory. -/
theorem locate_join (files : Files) (directory : String) {name : String}
    (hname : Path.isName name = true) (hslash : '/' ∉ name.toList) :
    files.locate (Path.segments (Path.join directory name)) =
      (files.enter (files.start (Path.segments directory)) (Path.segments directory)).bind
        (placeIn · name) := by
  have hrelative : name.toList.head? ≠ some '/' := by
    intro hhead
    exact hslash (List.mem_of_mem_head? hhead)
  rw [Path.join]
  by_cases hempty : directory = ""
  · -- an empty directory is the one in which paths begin
    subst hempty
    have hcurrent : Path.segments "" = [""] := rfl
    have hlocate := files.locate_concat [] hname
    rw [if_pos (.inr rfl), Path.segments_of_not_mem hslash, hcurrent]
    rw [List.nil_append] at hlocate
    rw [hlocate]
    simp [start, Path.isAbsolute, enter]
  · rw [if_neg (by simp [hrelative, hempty])]
    by_cases hends : directory.toList.getLast? = some '/'
    · -- the slash at the end leaves an empty segment, which is skipped
      obtain ⟨front, rfl⟩ : ∃ front, directory = front ++ "/" ++ "" := by
        refine ⟨String.ofList directory.toList.dropLast, String.toList_inj.mp ?_⟩
        simpa [String.toList_append] using (List.dropLast_append_getLast? '/' hends).symm
      have hjoined : front ++ "/" ++ "" ++ name = front ++ "/" ++ name := by simp
      have hnil : Path.segments "" = [""] := rfl
      rw [if_pos hends, hjoined, Path.segments_append_slash, Path.segments_append_slash,
        Path.segments_of_not_mem hslash, hnil, locate_concat files _ hname, start, start,
        Path.isAbsolute_concat (Path.segments_ne_nil front),
        Path.isAbsolute_concat (Path.segments_ne_nil front), enter_append]
      cases files.enter _ (Path.segments front) <;> rfl
    · have hsegments : Path.segments directory ≠ [""] :=
        fun heq => hempty (Path.eq_empty_of_segments heq)
      rw [if_neg hends, Path.segments_append_slash, Path.segments_of_not_mem hslash,
        locate_concat files _ hname, start, start,
        Path.isAbsolute_concat (Path.segments_ne_nil directory), Path.isAbsolute_eq hsegments]

theorem locate_join_eq_ok_iff (files : Files) (directory : String) {name : String}
    (hname : Path.isName name = true) (hslash : '/' ∉ name.toList) (place : Place) :
    files.locate (Path.segments (Path.join directory name)) = .ok place ↔
      ∃ parent, files.Leads (Path.segments directory) parent ∧
        name.utf8ByteSize ≤ 255 ∧ place = parent ++ [name] := by
  rw [locate_join files directory hname hslash]
  simp only [← placeIn_eq_ok_iff]
  unfold Leads
  cases files.enter (files.start (Path.segments directory)) (Path.segments directory) <;>
    simp [Except.bind]

theorem Leads.eq_iff {files : Files} {path : List String} {directory : Place}
    (hleads : files.Leads path directory) (other : Place) :
    files.Leads path other ↔ other = directory := by
  rw [Leads] at hleads ⊢
  rw [hleads, Except.ok.injEq, eq_comm]

/-- A file of a directory that is there is looked up at the same place when the tree has
grown. -/
theorem Retains.locate_join_iff {before after : Files} (hretains : Retains before after)
    {directory : String} {parent : Place} (hleads : before.Leads (Path.segments directory) parent)
    {name : String} (hname : Path.isName name = true) (hslash : '/' ∉ name.toList)
    (place : Place) :
    after.locate (Path.segments (Path.join directory name)) = .ok place ↔
      before.locate (Path.segments (Path.join directory name)) = .ok place := by
  rw [locate_join_eq_ok_iff after directory hname hslash,
    locate_join_eq_ok_iff before directory hname hslash]
  simp only [hleads.eq_iff, (hretains.leads hleads).eq_iff]

theorem Retains.locate {before after : Files} (hretains : Retains before after)
    {path : List String} {place : Place} (hlocate : before.locate path = .ok place) :
    after.locate path = .ok place := by
  rw [Files.locate] at hlocate ⊢
  cases hlast : path.getLast? with
  | none =>
    rw [hlast] at hlocate
    simp only [Except.ok.injEq] at hlocate ⊢
    rw [hretains.current, hlocate]
  | some name =>
    simp only [hlast, start_eq_of_retains hretains] at hlocate ⊢
    split at hlocate
    · next hname =>
      rw [if_pos hname]
      cases henter : before.enter (before.start path) path.dropLast with
      | error cause => simp [henter, Except.bind] at hlocate
      | ok parent =>
        rw [henter] at hlocate
        rw [enter_of_retains hretains henter]
        exact hlocate
    · next hname =>
      rw [if_neg hname]
      exact enter_of_retains hretains hlocate

/-! ## Reading and writing through places -/

theorem read_eq_ok_iff (files : Files) (path : String) (bytes : ByteArray) :
    files.read path = .ok bytes ↔
      checkPath path = .ok () ∧ ∃ place, files.locate (Path.segments path) = .ok place ∧
        files.get? place = some (.file bytes) := by
  unfold read
  cases hcheck : checkPath path with
  | error cause => simp [bind, Except.bind]
  | ok _ =>
    cases hlocate : files.locate (Path.segments path) with
    | error cause => simp [bind, Except.bind]
    | ok place =>
      rcases hthere : files.get? place with _ | (_ | found) <;>
        simp [bind, Except.bind, hthere]

/-- What it means that a path is written: it leads to a place that is no directory, and
then the file is put there. -/
theorem write_eq_ok_iff (files after : Files) (path : String) (bytes : ByteArray) :
    files.write path bytes = .ok after ↔
      checkPath path = .ok () ∧ ∃ place, files.locate (Path.segments path) = .ok place ∧
        files.get? place ≠ some .directory ∧ files.put place (.file bytes) = after := by
  unfold write
  cases hcheck : checkPath path with
  | error cause => simp [bind, Except.bind]
  | ok _ =>
    cases hlocate : files.locate (Path.segments path) with
    | error cause => simp [bind, Except.bind]
    | ok place =>
      rcases hthere : files.get? place with _ | (_ | found) <;>
        simp [bind, Except.bind, hthere]

theorem retains_put_file {files : Files} {place : Place}
    (hthere : files.get? place ≠ some .directory) (bytes : ByteArray) :
    Retains files (files.put place (.file bytes)) where
  current := rfl
  directory other hother := by
    have hroot : place ≠ [] := by
      rintro rfl
      exact hthere rfl
    have hne : other ≠ place := by
      rintro rfl
      exact hthere hother
    rw [get?_put files hroot, if_neg hne, hother]

end Files

end HexChart
