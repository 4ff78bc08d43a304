import HexChart.Files.Tree
import Mathlib.Data.List.DropRight
import Mathlib.Data.List.Infix

/-!
# Directories that are made on the way to a path

Making a directory and those above it adds directories to a tree and does nothing
else: every file stays as it is, and each new directory is named by a front part of
the path (`grownAlong_makeDirectories`).  Directories never go away, so a path that
leads to one still does when the tree has grown (`Retains.leads`).
-/

namespace HexChart

namespace Files

/-- A path leads to the place of a directory. -/
def Leads (files : Files) (path : List String) (place : Place) : Prop :=
  files.enter (files.start path) path = .ok place

/-- What was a directory before is one afterwards. -/
structure Retains (before after : Files) : Prop where
  current : after.current = before.current
  directory : ∀ place, before.get? place = some .directory → after.get? place = some .directory

/-- A place is as it was, or it has a new directory that a front part of a path names. -/
def SparedAlong (path : List String) (before after : Files) (place : Place) : Prop :=
  after.get? place = before.get? place ∨
    (before.get? place = none ∧ after.get? place = some .directory ∧
      ∃ stem, stem <+: path ∧ after.Leads stem place)

/-- All that a tree has more than before are directories named by front parts of a path. -/
structure GrownAlong (path : List String) (before after : Files) : Prop where
  current : after.current = before.current
  spared : ∀ place, SparedAlong path before after place

/-! ## Following segments -/

theorem enter_append (files : Files) (place : Place) (front back : List String) :
    files.enter place (front ++ back) = (files.enter place front).bind (files.enter · back) := by
  induction front generalizing place with
  | nil => rfl
  | cons segment rest ih =>
    rw [List.cons_append, enter, enter]
    split
    · exact ih place
    · split
      · exact ih place.dropLast
      · cases placeIn place segment with
        | error cause => rfl
        | ok inner =>
          rcases hinner : files.get? inner with _ | (_ | bytes)
          · simp [hinner, Except.bind]
          · simp only [hinner]
            exact ih inner
          · simp [hinner, Except.bind]

theorem placeIn_eq_ok_iff (directory : Place) (name : String) (place : Place) :
    placeIn directory name = .ok place ↔
      name.utf8ByteSize ≤ 255 ∧ place = directory ++ [name] := by
  unfold placeIn
  split
  · next hfits => simp [hfits, eq_comm]
  · next hlong => simp [hlong]

/-- A name leads on to the directory that bears it. -/
theorem enter_name {files : Files} {directory : Place} {name : String} {place : Place}
    (hname : Path.isName name = true) (hplace : placeIn directory name = .ok place)
    (hthere : files.get? place = some .directory) :
    files.enter directory [name] = .ok place := by
  simp only [Path.isName, Bool.and_eq_true, bne_iff_ne] at hname
  obtain ⟨⟨hempty, hdot⟩, hdots⟩ := hname
  rw [enter, if_neg (by simp [hempty, hdot]), if_neg hdots, hplace]
  simp only [hthere]
  rfl

theorem enter_of_retains {before after : Files} (hretains : Retains before after)
    {place target : Place} {path : List String} (henter : before.enter place path = .ok target) :
    after.enter place path = .ok target := by
  induction path generalizing place with
  | nil => exact henter
  | cons segment rest ih =>
    rw [enter] at henter ⊢
    split at henter
    · next hskip => rw [if_pos hskip]; exact ih henter
    · next hskip =>
      rw [if_neg hskip]
      split at henter
      · next hdots => rw [if_pos hdots]; exact ih henter
      · next hdots =>
        rw [if_neg hdots]
        cases hplace : placeIn place segment with
        | error cause => simp [hplace] at henter
        | ok inner =>
          simp only [hplace] at henter ⊢
          rcases hinner : before.get? inner with _ | (_ | bytes)
          · simp [hinner] at henter
          · simp only [hinner] at henter
            rw [hretains.directory inner hinner]
            exact ih henter
          · simp [hinner] at henter

theorem start_eq_of_retains {before after : Files} (hretains : Retains before after)
    (path : List String) : after.start path = before.start path := by
  rw [start, start, hretains.current]

namespace Retains

variable {before middle after : Files}

theorem refl (files : Files) : Retains files files :=
  ⟨rfl, fun _ hdirectory => hdirectory⟩

theorem trans (hfirst : Retains before middle) (hsecond : Retains middle after) :
    Retains before after where
  current := hsecond.current.trans hfirst.current
  directory place hdirectory := hsecond.directory place (hfirst.directory place hdirectory)

theorem leads (hretains : Retains before after) {path : List String} {place : Place}
    (hleads : before.Leads path place) : after.Leads path place := by
  rw [Leads, start_eq_of_retains hretains]
  exact enter_of_retains hretains hleads

end Retains

/-! ## Growing -/

namespace SparedAlong

variable {path : List String} {before middle after : Files} {place : Place}

theorem trans (hfirst : SparedAlong path before middle place)
    (hsecond : SparedAlong path middle after place) (hretains : Retains middle after) :
    SparedAlong path before after place := by
  rcases hfirst with hsame | ⟨hnew, hmade, stem, hstem, hleads⟩
  · rw [SparedAlong, ← hsame]
    exact hsecond
  · exact .inr ⟨hnew, hretains.directory place hmade, stem, hstem, hretains.leads hleads⟩

theorem mono {longer : List String} (hspared : SparedAlong path before after place)
    (hpath : path <+: longer) : SparedAlong longer before after place := by
  rcases hspared with hsame | ⟨hnew, hmade, stem, hstem, hleads⟩
  · exact .inl hsame
  · exact .inr ⟨hnew, hmade, stem, hstem.trans hpath, hleads⟩

end SparedAlong

namespace GrownAlong

variable {path : List String} {before middle after : Files}

theorem retains (hgrown : GrownAlong path before after) : Retains before after where
  current := hgrown.current
  directory place hdirectory := by
    rcases hgrown.spared place with hsame | ⟨hnew, _⟩
    · rw [hsame, hdirectory]
    · simp [hdirectory] at hnew

theorem refl (path : List String) (files : Files) : GrownAlong path files files :=
  ⟨rfl, fun _ => .inl rfl⟩

theorem trans (hfirst : GrownAlong path before middle) (hsecond : GrownAlong path middle after) :
    GrownAlong path before after where
  current := hsecond.current.trans hfirst.current
  spared place := (hfirst.spared place).trans (hsecond.spared place) hsecond.retains

theorem mono {longer : List String} (hgrown : GrownAlong path before after)
    (hpath : path <+: longer) : GrownAlong longer before after where
  current := hgrown.current
  spared place := (hgrown.spared place).mono hpath

end GrownAlong

end Files

namespace Path

/-- A path is absolute when it begins with a slash, and not when it is empty. -/
theorem isAbsolute_eq {path : List String} (hpath : path ≠ [""]) :
    isAbsolute path = (path.head? == some "") := by
  match path with
  | [] => rfl
  | [segment] =>
    have hsegment : segment ≠ "" := fun heq => hpath (by rw [heq])
    simp [isAbsolute, hsegment]
  | first :: second :: others =>
    by_cases hfirst : first = ""
    · subst hfirst
      rfl
    · simp [isAbsolute, hfirst]

/-- A front part that does not end in a slash begins where the whole path begins. -/
theorem isAbsolute_of_isPrefix {stem path : List String} (hstem : stem <+: path) {last : String}
    (hlast : stem.getLast? = some last) (hstep : last ≠ "") :
    isAbsolute stem = isAbsolute path := by
  obtain ⟨rest, rfl⟩ := hstem
  have hne : stem ≠ [] := by
    rintro rfl
    simp at hlast
  have hempty : stem ≠ [""] := by
    rintro rfl
    simp only [List.getLast?_singleton, Option.some.injEq] at hlast
    exact hstep hlast.symm
  have hlonger : stem ++ rest ≠ [""] := by
    intro hsingle
    rcases List.append_eq_singleton_iff.mp hsingle with ⟨hnil, _⟩ | ⟨hwhole, _⟩
    · exact hne hnil
    · exact hempty hwhole
  rw [isAbsolute_eq hempty, isAbsolute_eq hlonger, List.head?_append_of_ne_nil stem hne]

theorem prefix_of_mem_stemsAfter {before path stem : List String}
    (hmem : stem ∈ stemsAfter before path) : stem <+: before ++ path := by
  induction path generalizing before with
  | nil => simp [stemsAfter] at hmem
  | cons segment rest ih =>
    have hrest : stem ∈ stemsAfter (before ++ [segment]) rest →
        stem <+: before ++ segment :: rest := by
      intro hstem
      simpa using ih hstem
    rw [stemsAfter] at hmem
    split at hmem
    · rcases List.mem_cons.mp hmem with rfl | hmem
      · exact ⟨rest, by simp⟩
      · exact hrest hmem
    · exact hrest hmem

/-- The directories above a path are named by front parts of it. -/
theorem prefix_of_mem_ancestors {path stem : List String} (hmem : stem ∈ ancestors path) :
    stem <+: path := by
  unfold ancestors at hmem
  split at hmem
  · simp at hmem
  · next last parents hstems =>
    rcases List.mem_cons.mp hmem with rfl | hmem
    · exact List.prefix_refl _
    · have hstem : stem ∈ (stemsAfter [] path).reverse := by
        rw [hstems]
        exact List.mem_cons_of_mem last hmem
      exact prefix_of_mem_stemsAfter (List.mem_reverse.mp hstem)

end Path

namespace Files

theorem prefix_trimmed (path : List String) : trimmed path <+: path :=
  List.rdropWhile_prefix (· == "") path

/-- What it means that a directory is made: its name is free in a directory that is
there, and then it is put there. -/
theorem makeDirectory_eq_ok {files made : Files} {path : List String}
    (hmade : files.makeDirectory path = .ok made) :
    ∃ name parent place, (trimmed path).getLast? = some name ∧
      files.enter (files.start path) (trimmed path).dropLast = .ok parent ∧
        Path.isName name = true ∧ placeIn parent name = .ok place ∧
          files.get? place = none ∧ made = files.put place .directory := by
  unfold makeDirectory at hmade
  cases hlast : (trimmed path).getLast? with
  | none => simp [hlast] at hmade
  | some name =>
    simp only [hlast] at hmade
    cases hparent : files.enter (files.start path) (trimmed path).dropLast with
    | error cause => simp [hparent, bind, Except.bind] at hmade
    | ok parent =>
      simp only [hparent, bind, Except.bind] at hmade
      by_cases hname : Path.isName name = true
      · rw [if_pos hname] at hmade
        cases hplace : placeIn parent name with
        | error cause => simp [hplace] at hmade
        | ok place =>
          simp only [hplace] at hmade
          cases hfree : files.get? place with
          | some entry => simp [hfree] at hmade
          | none =>
            simp only [hfree, Except.ok.injEq] at hmade
            exact ⟨name, parent, place, rfl, rfl, hname, hplace, hfree, hmade.symm⟩
      · simp [hname] at hmade

theorem retains_put_directory {files : Files} {place : Place} (hroot : place ≠ []) :
    Retains files (files.put place .directory) := by
  refine ⟨rfl, fun other hother => ?_⟩
  rw [get?_put files hroot]
  split
  · rfl
  · exact hother

/-- The path at which a directory has been made leads to it. -/
theorem leads_of_makeDirectory {files made : Files} {path : List String}
    (hmade : files.makeDirectory path = .ok made) :
    ∃ place, place ≠ [] ∧ files.get? place = none ∧ made = files.put place .directory ∧
      made.start (trimmed path) = made.start path ∧ made.Leads (trimmed path) place := by
  obtain ⟨name, parent, place, hlast, hparent, hname, hplace, hfree, rfl⟩ :=
    makeDirectory_eq_ok hmade
  have hroot : place ≠ [] := by
    rw [((placeIn_eq_ok_iff ..).mp hplace).2]
    simp
  have hretains : Retains files (files.put place .directory) := retains_put_directory hroot
  have hthere : (files.put place .directory).get? place = some .directory := by
    rw [get?_put files hroot, if_pos rfl]
  have hstep : name ≠ "" := by
    rintro rfl
    simp [Path.isName] at hname
  have hstart : (files.put place .directory).start (trimmed path) =
      (files.put place .directory).start path := by
    rw [start, start, Path.isAbsolute_of_isPrefix (prefix_trimmed path) hlast hstep]
  refine ⟨place, hroot, hfree, rfl, hstart, ?_⟩
  rw [Leads, hstart, start_eq_of_retains hretains, ← List.dropLast_append_getLast? name hlast,
    enter_append, enter_of_retains hretains hparent]
  exact enter_name hname hplace hthere

theorem grownAlong_makeDirectory {files made : Files} {path : List String}
    (hmade : files.makeDirectory path = .ok made) : GrownAlong path files made := by
  obtain ⟨place, hroot, hfree, rfl, _, hleads⟩ := leads_of_makeDirectory hmade
  refine ⟨rfl, fun other => ?_⟩
  have hput := get?_put files hroot .directory other
  by_cases hother : other = place
  · rw [if_pos hother] at hput
    rw [hother] at hput ⊢
    exact .inr ⟨hfree, hput, trimmed path, prefix_trimmed path, hleads⟩
  · exact .inl (hput.trans (if_neg hother))

theorem grownAlong_ensureDirectory (files : Files) (path : List String) :
    GrownAlong path files (files.ensureDirectory path).1 := by
  unfold ensureDirectory
  split
  · next made hmade => exact grownAlong_makeDirectory hmade
  · split <;> exact .refl path files

/-- Making directories that front parts of a path name lets the tree grow along it. -/
theorem grownAlong_ensureDirectories {path : List String} (files : Files)
    {paths : List (List String)} (hpaths : ∀ stem ∈ paths, stem <+: path) :
    GrownAlong path files (files.ensureDirectories paths).1 := by
  induction paths generalizing files with
  | nil => exact .refl path files
  | cons stem parents ih =>
    have hstem := hpaths stem List.mem_cons_self
    have hparents := ih files fun other hmem => hpaths other (List.mem_cons_of_mem stem hmem)
    have hself := (grownAlong_ensureDirectory files stem).mono hstem
    rw [ensureDirectories]
    split
    · split
      · next made hmade =>
        rw [hmade] at hparents
        exact hparents.trans ((grownAlong_ensureDirectory made stem).mono hstem)
      · exact hparents
    · exact hself

/-- Making the directory at a path changes no file, and every directory that is new is
named by a front part of the path. -/
theorem grownAlong_makeDirectories (files : Files) (path : String) :
    GrownAlong (Path.segments path) files (files.makeDirectories path).1 := by
  unfold makeDirectories
  split
  · exact .refl _ files
  · exact grownAlong_ensureDirectories files fun _ => Path.prefix_of_mem_ancestors

end Files

end HexChart
