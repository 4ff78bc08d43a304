import HexChart.Proofs.Growth

/-!
# Directories that are made again

Making a directory and those above it a second time changes nothing.  When it has
succeeded, the path leads to a directory, and then nothing is left to make
(`makeDirectories_of_isDirectory`).  When it has failed, the directories that were made
on the way stay, and it fails again without making another one
(`makeDirectories_again`).
-/

namespace HexChart

namespace Path

/-- One path is passed through by another one before its last step. -/
structure Above (upper lower : List String) : Prop where
  isPrefix : upper <+: Files.trimmed lower
  length_lt : upper.length < (Files.trimmed lower).length
  isAbsolute : isAbsolute upper = isAbsolute lower

/-- The last segment of a path is a step: something that is not skipped. -/
def EndsInStep (path : List String) : Prop :=
  ∃ last, path.getLast? = some last ∧ last ≠ ""

theorem trimmed_concat (front : List String) (segment : String) :
    Files.trimmed (front ++ [segment]) =
      if segment = "" then Files.trimmed front else front ++ [segment] := by
  have hdrop : ∀ path, Files.trimmed path = path.rdropWhile (· == "") := fun _ => rfl
  rw [hdrop, hdrop, List.rdropWhile_concat]
  simp

/-- A front part that ends in a step survives when empty segments are dropped at the end. -/
theorem EndsInStep.prefix_trimmed {stem path : List String} (hstep : EndsInStep stem)
    (hstem : stem <+: path) : stem <+: Files.trimmed path := by
  induction path using List.reverseRecOn with
  | nil => exact hstem
  | append_singleton front segment ih =>
    rw [trimmed_concat]
    split
    · next hempty =>
      rcases List.prefix_concat_iff.mp hstem with rfl | hfront
      · obtain ⟨last, hlast, hnonempty⟩ := hstep
        rw [List.getLast?_concat, Option.some.injEq] at hlast
        exact absurd (hlast.symm.trans hempty) hnonempty
      · exact ih hfront
    · exact hstem

/-- Stems end in a step, and they go on from what stood before them. -/
theorem step_of_mem_stemsAfter {before path stem : List String}
    (hmem : stem ∈ stemsAfter before path) :
    EndsInStep stem ∧ before <+: stem ∧ before.length < stem.length := by
  induction path generalizing before with
  | nil => simp [stemsAfter] at hmem
  | cons segment rest ih =>
    have hrest : stem ∈ stemsAfter (before ++ [segment]) rest →
        EndsInStep stem ∧ before <+: stem ∧ before.length < stem.length := by
      intro hstem
      obtain ⟨hstep, hlonger, hlength⟩ := ih hstem
      rw [List.length_append] at hlength
      exact ⟨hstep, (List.prefix_append before [segment]).trans hlonger, by omega⟩
    rw [stemsAfter] at hmem
    split at hmem
    · next hstep =>
      rcases List.mem_cons.mp hmem with rfl | hmem
      · exact ⟨⟨segment, by simp, hstep.1⟩, List.prefix_append before [segment], by simp⟩
      · exact hrest hmem
    · exact hrest hmem

/-- Stems grow. -/
theorem pairwise_stemsAfter (before path : List String) :
    (stemsAfter before path).Pairwise fun shorter longer =>
      shorter <+: longer ∧ shorter.length < longer.length := by
  induction path generalizing before with
  | nil => exact .nil
  | cons segment rest ih =>
    rw [stemsAfter]
    split
    · exact .cons (fun longer hmem => (step_of_mem_stemsAfter hmem).2) (ih _)
    · exact ih _

/-- The directories above a path are passed through one after the other. -/
theorem pairwise_above_ancestors (path : List String) :
    (ancestors path).Pairwise fun lower upper => Above upper lower := by
  have hgrow : (stemsAfter [] path).reverse.Pairwise fun longer shorter =>
      shorter <+: longer ∧ shorter.length < longer.length :=
    List.pairwise_reverse.mpr (pairwise_stemsAfter [] path)
  have hstem : ∀ stem ∈ (stemsAfter [] path).reverse, EndsInStep stem ∧ stem <+: path := by
    intro stem hmem
    rw [List.mem_reverse] at hmem
    exact ⟨(step_of_mem_stemsAfter hmem).1, prefix_of_mem_stemsAfter hmem⟩
  have habove : ∀ upper stem lower, EndsInStep upper → EndsInStep stem → upper <+: stem →
      upper.length < stem.length → stem <+: lower → Above upper lower := by
    intro upper stem lower ⟨last, hlast, hnonempty⟩ hstep hupper hlength hlower
    have htrimmed := hstep.prefix_trimmed hlower
    exact ⟨hupper.trans htrimmed, Nat.lt_of_lt_of_le hlength htrimmed.length_le,
      isAbsolute_of_isPrefix (hupper.trans hlower) hlast hnonempty⟩
  unfold ancestors
  cases hstems : (stemsAfter [] path).reverse with
  | nil => exact .nil
  | cons longest parents =>
    rw [hstems] at hgrow hstem
    obtain ⟨hlongest, hparents⟩ := List.pairwise_cons.mp hgrow
    have hstemParent : ∀ stem ∈ parents, EndsInStep stem :=
      fun stem hmem => (hstem stem (List.mem_cons_of_mem longest hmem)).1
    obtain ⟨hlongestStep, hlongestPath⟩ := hstem longest List.mem_cons_self
    refine .cons ?_ (hparents.imp_of_mem ?_)
    · intro upper hmem
      obtain ⟨hfront, hlength⟩ := hlongest upper hmem
      exact habove upper longest path (hstemParent upper hmem) hlongestStep hfront hlength
        hlongestPath
    · intro lower upper hlower hupper ⟨hfront, hlength⟩
      exact habove upper lower lower (hstemParent upper hupper) (hstemParent lower hlower)
        hfront hlength (List.prefix_refl lower)

end Path

namespace Files

variable {files made : Files} {path : List String}

theorem isDirectory_iff (files : Files) (path : List String) :
    files.isDirectory path = true ↔ ∃ place, files.Leads path place := by
  unfold isDirectory Leads
  cases files.enter (files.start path) path <;> simp [Except.isOk, Except.toBool]

/-- The way to a place leads through all its front parts. -/
theorem exists_enter_of_prefix {start target : Place} {stem : List String} (hstem : stem <+: path)
    (henter : files.enter start path = .ok target) :
    ∃ middle, files.enter start stem = .ok middle := by
  obtain ⟨rest, rfl⟩ := hstem
  rw [enter_append] at henter
  cases hmiddle : files.enter start stem with
  | error cause => simp [hmiddle, Except.bind] at henter
  | ok middle => exact ⟨middle, rfl⟩

theorem enter_trimmed (files : Files) (start : Place) (path : List String) :
    files.enter start (trimmed path) = files.enter start path := by
  induction path using List.reverseRecOn with
  | nil => rfl
  | append_singleton front segment ih =>
    rw [Path.trimmed_concat]
    split
    · next hempty =>
      rw [ih, enter_append, hempty]
      cases files.enter start front <;> rfl
    · rfl

/-- A name that is followed bears a directory. -/
theorem enter_name_eq_ok {directory place : Place} {name : String} (hname : Path.isName name = true)
    (henter : files.enter directory [name] = .ok place) :
    placeIn directory name = .ok place ∧ files.get? place = some .directory := by
  simp only [Path.isName, Bool.and_eq_true, bne_iff_ne] at hname
  obtain ⟨⟨hempty, hdot⟩, hdots⟩ := hname
  rw [enter, if_neg (by simp [hempty, hdot]), if_neg hdots] at henter
  cases hplace : placeIn directory name with
  | error cause => simp [hplace] at henter
  | ok inner =>
    rcases hinner : files.get? inner with _ | (_ | bytes)
    · simp [hplace, hinner] at henter
    · simp only [hplace, hinner, enter, Except.ok.injEq] at henter
      rw [← henter]
      exact ⟨rfl, hinner⟩
    · simp [hplace, hinner] at henter

/-! ## One directory -/

/-- A directory that is there is not made. -/
theorem makeDirectory_of_isDirectory (hthere : files.isDirectory path = true) :
    files.makeDirectory path = .error .alreadyThere := by
  obtain ⟨place, hleads⟩ := (isDirectory_iff files path).mp hthere
  rw [Leads, ← enter_trimmed] at hleads
  unfold makeDirectory
  cases hlast : (trimmed path).getLast? with
  | none => rfl
  | some name =>
    rw [← List.dropLast_append_getLast? name hlast, enter_append] at hleads
    cases hparent : files.enter (files.start path) (trimmed path).dropLast with
    | error cause => simp [hparent, Except.bind] at hleads
    | ok parent =>
      simp only [hparent, Except.bind, bind] at hleads ⊢
      by_cases hname : Path.isName name = true
      · obtain ⟨hplace, hdirectory⟩ := enter_name_eq_ok hname hleads
        simp [hname, hplace, hdirectory]
      · simp [hname]

theorem ensureDirectory_of_isDirectory (hthere : files.isDirectory path = true) :
    files.ensureDirectory path = (files, none) := by
  simp [ensureDirectory, makeDirectory_of_isDirectory hthere, hthere]

/-- A directory that could not be made leaves everything as it was. -/
theorem eq_of_ensureDirectory_failed {cause : FileError}
    (hfailed : files.ensureDirectory path = (made, some cause)) : made = files := by
  unfold ensureDirectory at hfailed
  split at hfailed
  · simp at hfailed
  · split at hfailed
    · simp at hfailed
    · exact (Prod.mk.inj hfailed).1.symm

/-- A directory that has been made can be entered. -/
theorem isDirectory_of_makeDirectory (hmade : files.makeDirectory path = .ok made) :
    made.isDirectory path = true := by
  obtain ⟨place, _, _, _, hstart, hleads⟩ := leads_of_makeDirectory hmade
  rw [Leads, hstart, enter_trimmed] at hleads
  exact (isDirectory_iff made path).mpr ⟨place, hleads⟩

theorem isDirectory_of_ensureDirectory (hensured : files.ensureDirectory path = (made, none)) :
    made.isDirectory path = true := by
  unfold ensureDirectory at hensured
  split at hensured
  · next found hmade =>
    obtain rfl := (Prod.mk.inj hensured).1
    exact isDirectory_of_makeDirectory hmade
  · split at hensured
    · next hthere =>
      obtain rfl := (Prod.mk.inj hensured).1
      exact hthere.2
    · simp at hensured

/-- Where a directory could be ensured, the ones above it are there. -/
theorem isDirectory_of_above {upper : List String} (habove : Path.Above upper path)
    (hensured : files.ensureDirectory path = (made, none)) : files.isDirectory upper = true := by
  have hstart : files.start upper = files.start path := by
    rw [start, start, habove.isAbsolute]
  have hbefore : upper <+: (trimmed path).dropLast := by
    refine List.prefix_of_prefix_length_le habove.isPrefix (List.dropLast_prefix _) ?_
    rw [List.length_dropLast]
    exact Nat.le_sub_one_of_lt habove.length_lt
  rw [isDirectory_iff]
  unfold Leads
  rw [hstart]
  unfold ensureDirectory at hensured
  split at hensured
  · next found hmade =>
    -- a directory is made in one that is there, below all that are above
    obtain ⟨_, parent, _, _, hparent, _⟩ := makeDirectory_eq_ok hmade
    exact exists_enter_of_prefix hbefore hparent
  · split at hensured
    · next hthere =>
      obtain ⟨place, hleads⟩ := (isDirectory_iff files path).mp hthere.2
      rw [Leads, ← enter_trimmed] at hleads
      exact exists_enter_of_prefix habove.isPrefix hleads
    · simp at hensured

/-! ## A directory and those above it -/

section Parents

variable {parents : List (List String)}

theorem ensureDirectories_of_missing (hmissing : (files.ensureDirectory path).2 = some .missing) :
    files.ensureDirectories (path :: parents) =
      match files.ensureDirectories parents with
      | (middle, none) => middle.ensureDirectory path
      | failed => failed := by
  rw [ensureDirectories]
  split
  · rfl
  · next hother => exact (hother _ (Prod.ext rfl hmissing)).elim

theorem ensureDirectories_of_not_missing
    (hother : (files.ensureDirectory path).2 ≠ some .missing) :
    files.ensureDirectories (path :: parents) = files.ensureDirectory path := by
  rw [ensureDirectories]
  split
  · next hmissing => exact absurd (congrArg Prod.snd hmissing) hother
  · rfl

theorem ensureDirectories_of_isDirectory (hthere : files.isDirectory path = true) :
    files.ensureDirectories (path :: parents) = (files, none) := by
  have hensured := ensureDirectory_of_isDirectory hthere
  rw [ensureDirectories_of_not_missing (by simp [hensured]), hensured]

theorem isDirectory_of_ensureDirectories
    (hensured : files.ensureDirectories (path :: parents) = (made, none)) :
    made.isDirectory path = true := by
  by_cases hmissing : (files.ensureDirectory path).2 = some .missing
  · rw [ensureDirectories_of_missing hmissing] at hensured
    rcases hparents : files.ensureDirectories parents with ⟨middle, _ | cause⟩
    · rw [hparents] at hensured
      exact isDirectory_of_ensureDirectory hensured
    · simp [hparents] at hensured
  · rw [ensureDirectories_of_not_missing hmissing] at hensured
    exact isDirectory_of_ensureDirectory hensured

/-- Directories that have been ensured are found when it is done again. -/
theorem ensureDirectories_after (hensured : files.ensureDirectories parents = (made, none)) :
    made.ensureDirectories parents = (made, none) := by
  cases parents with
  | nil => rfl
  | cons path others =>
    exact ensureDirectories_of_isDirectory (isDirectory_of_ensureDirectories hensured)

/-- Directories that could not be ensured cannot be when it is tried again, and nothing
more is made. -/
theorem ensureDirectories_again
    (habove : parents.Pairwise fun lower upper => Path.Above upper lower) {cause : FileError}
    (hfailed : files.ensureDirectories parents = (made, some cause)) :
    ∃ again, made.ensureDirectories parents = (made, some again) := by
  induction parents generalizing cause with
  | nil => simp [ensureDirectories] at hfailed
  | cons path others ih =>
    obtain ⟨hpath, hothers⟩ := List.pairwise_cons.mp habove
    by_cases hmissing : (files.ensureDirectory path).2 = some .missing
    · rw [ensureDirectories_of_missing hmissing] at hfailed
      rcases hparents : files.ensureDirectories others with ⟨middle, _ | failure⟩
      · -- all above are there, and the last step fails as before
        simp only [hparents] at hfailed
        obtain rfl := eq_of_ensureDirectory_failed hfailed
        refine ⟨cause, ?_⟩
        by_cases hagain : cause = .missing
        · rw [ensureDirectories_of_missing (by simp [hfailed, hagain]),
            ensureDirectories_after hparents]
          exact hfailed
        · rw [ensureDirectories_of_not_missing (by simp [hfailed, hagain]), hfailed]
      · simp only [hparents, Prod.mk.injEq] at hfailed
        obtain ⟨rfl, _⟩ := hfailed
        obtain ⟨again, hagain⟩ := ih hothers hparents
        rcases hensured : middle.ensureDirectory path with ⟨found, _ | other⟩
        · -- the path cannot be there while one above it is not
          cases others with
          | nil => simp [ensureDirectories] at hagain
          | cons upper rest =>
            have hthere := isDirectory_of_above (hpath upper List.mem_cons_self) hensured
            simp [ensureDirectories_of_isDirectory hthere] at hagain
        · obtain rfl := eq_of_ensureDirectory_failed hensured
          by_cases hcause : other = .missing
          · rw [ensureDirectories_of_missing (by simp [hensured, hcause]), hagain]
            exact ⟨again, rfl⟩
          · rw [ensureDirectories_of_not_missing (by simp [hensured, hcause])]
            exact ⟨other, hensured⟩
    · rw [ensureDirectories_of_not_missing hmissing] at hfailed
      obtain rfl := eq_of_ensureDirectory_failed hfailed
      rw [ensureDirectories_of_not_missing hmissing]
      exact ⟨cause, hfailed⟩

end Parents

/-- A path without stems leads nowhere else. -/
theorem enter_of_stemsAfter_eq_nil {before path : List String}
    (hstems : Path.stemsAfter before path = []) (place : Place) :
    files.enter place path = .ok place := by
  induction path generalizing before with
  | nil => rfl
  | cons segment rest ih =>
    rw [Path.stemsAfter] at hstems
    split at hstems
    · simp at hstems
    · next hskip =>
      have hstay : segment = "" ∨ segment = "." := by
        by_contra hstep
        rw [not_or] at hstep
        exact hskip ⟨hstep.1, .inl hstep.2⟩
      rw [enter, if_pos hstay]
      exact ih hstems

/-- Where a path leads to a directory, nothing is made. -/
theorem makeDirectories_of_isDirectory {path : String} (hcheck : checkPath path = .ok ())
    (hthere : files.isDirectory (Path.segments path) = true) :
    files.makeDirectories path = (files, none) := by
  simp only [makeDirectories, hcheck, Path.ancestors]
  split
  · rfl
  · exact ensureDirectories_of_isDirectory hthere

/-- What has been made is there. -/
theorem isDirectory_of_makeDirectories {path : String}
    (hmade : files.makeDirectories path = (made, none)) :
    checkPath path = .ok () ∧ made.isDirectory (Path.segments path) = true := by
  unfold makeDirectories at hmade
  split at hmade
  · simp at hmade
  · next hcheck =>
    refine ⟨hcheck, ?_⟩
    unfold Path.ancestors at hmade
    split at hmade
    · next hstems =>
      exact (isDirectory_iff ..).mpr
        ⟨_, enter_of_stemsAfter_eq_nil (List.reverse_eq_nil_iff.mp hstems) _⟩
    · exact isDirectory_of_ensureDirectories hmade

/-- A directory that could not be made cannot be when it is tried again, and the tree
stays as the first attempt has left it. -/
theorem makeDirectories_again {path : String} {cause : FileError}
    (hfailed : files.makeDirectories path = (made, some cause)) :
    ∃ again, made.makeDirectories path = (made, some again) := by
  unfold makeDirectories at hfailed ⊢
  cases hcheck : checkPath path with
  | error fault => exact ⟨fault, rfl⟩
  | ok _ =>
    simp only [hcheck] at hfailed
    exact ensureDirectories_again (Path.pairwise_above_ancestors _) hfailed

end Files

end HexChart
