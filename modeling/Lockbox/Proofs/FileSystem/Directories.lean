import Lockbox.FileSystem.Directories
import Lockbox.Proofs.FileSystem.Changes
import Mathlib.Data.List.TakeWhile

/-!
# Making directories again

A directory that has been made is there, one that is there is not made again, and one that cannot
be made cannot be made by trying again either: the second attempt fails as well and changes nothing
(`createDirectories_of_directory`, `createDirectories_again_of_error`).
-/

namespace Lockbox

/-- The path above a path is made up of parts of the path. -/
theorem Path.above_subset (reversed : List Text) : Path.above reversed ⊆ reversed :=
  ((List.dropWhile_suffix _).trans
    ((List.drop_suffix _ _).trans (List.dropWhile_suffix _))).subset

namespace FileSystem

variable {files changed : FileSystem} {start place location : Location} {reversed : List Text}

/-! ## Walks through directories -/

theorem requireDirectory_of_enter
    {part : Text}
    (entered : files.enter start part = .ok place) :
    files.requireDirectory start = .ok () := by
  cases required : files.requireDirectory start with
  | error failure => simp [enter, required] at entered
  | ok => rfl

/-- What a walk goes on from is a directory. -/
theorem requireDirectory_of_walk
    {parts : List Text}
    (nonempty : parts ≠ [])
    (walked : files.walk start parts = .ok place) :
    files.requireDirectory start = .ok () := by
  obtain ⟨part, rest, rfl⟩ := List.exists_cons_of_ne_nil nonempty
  rw [walk] at walked
  split at walked
  next => cases walked
  next entered => exact requireDirectory_of_enter entered

theorem exists_walk_of_append
    {front back : List Text}
    (walked : files.walk start (front ++ back) = .ok location) :
    ∃ place, files.walk start front = .ok place ∧ files.walk place back = .ok location := by
  rw [walk_append] at walked
  split at walked
  next => cases walked
  next place front => exact ⟨place, front, walked⟩

theorem walk_append_of_ok
    {front back : List Text}
    (walked : files.walk start front = .ok place) :
    files.walk start (front ++ back) = files.walk place back := by
  rw [walk_append, walked]

theorem walk_singleton
    (files : FileSystem)
    (start : Location)
    (part : Text) :
    files.walk start [part] = files.enter start part := by
  rw [walk]
  cases files.enter start part <;> rfl

/-- Empty parts lead nowhere else. -/
theorem eq_of_walk_empty
    {parts : List Text}
    (empty : ∀ part ∈ parts, part = [])
    (walked : files.walk start parts = .ok place) :
    place = start := by
  induction parts with
  | nil => exact (Except.ok.inj walked).symm
  | cons part rest inductionHypothesis =>
      obtain rfl := empty part (List.mem_cons_self ..)
      rw [walk, enter_nil] at walked
      cases required : files.requireDirectory start with
      | error failure => simp [required, Except.map] at walked
      | ok =>
          rw [required] at walked
          exact inductionHypothesis
            (fun other member => empty other (List.mem_cons_of_mem _ member)) walked

theorem walk_empty_of_directory
    {parts : List Text}
    (empty : ∀ part ∈ parts, part = [])
    (isDirectory : files.requireDirectory start = .ok ()) :
    files.walk start parts = .ok start := by
  induction parts with
  | nil => rfl
  | cons part rest inductionHypothesis =>
      obtain rfl := empty part (List.mem_cons_self ..)
      rw [walk, enter_nil, isDirectory]
      exact inductionHypothesis fun other member => empty other (List.mem_cons_of_mem _ member)

theorem leadsToDirectory_iff :
    files.leadsToDirectory start reversed = true ↔
      ∃ place, files.walk start reversed.reverse = .ok place ∧
        files.requireDirectory place = .ok () := by
  unfold leadsToDirectory
  cases files.walk start reversed.reverse with
  | error failure => simp
  | ok place =>
      simp only [Except.ok.injEq, exists_eq_left', requireDirectory_eq_ok_iff]
      cases files.find? place with
      | none => simp
      | some node => cases node <;> simp [Node.isDirectory]

/-- A path to something that is no part to stay at leads through a directory above it. -/
theorem leadsToDirectory_above
    (nonempty : reversed ≠ [])
    (walked : files.walk start reversed.reverse = .ok place) :
    files.leadsToDirectory start (Path.above reversed) = true := by
  have suffix : Path.above reversed <:+ reversed :=
    ((List.dropWhile_suffix _).trans (List.drop_suffix _ _)).trans (List.dropWhile_suffix _)
  obtain ⟨removed, split⟩ := suffix
  have removedSome : removed ≠ [] := by
    rintro rfl
    have shorter := Path.length_above_lt nonempty
    rw [List.nil_append] at split
    rw [split] at shorter
    exact Nat.lt_irrefl _ shorter
  rw [← split, List.reverse_append] at walked
  obtain ⟨between, front, back⟩ := exists_walk_of_append walked
  refine leadsToDirectory_iff.mpr ⟨between, front, requireDirectory_of_walk ?_ back⟩
  simpa using removedSome

/-! ## One directory -/

/-- A path whose parts, last one first, begin with empty ones. -/
theorem exists_empty_append (reversed : List Text) :
    ∃ empty, reversed = empty ++ reversed.dropWhile (· == []) ∧ ∀ part ∈ empty, part = [] := by
  refine ⟨reversed.takeWhile (· == []), List.takeWhile_append_dropWhile.symm, ?_⟩
  intro part member
  simpa using List.mem_takeWhile_imp member

/-- A directory that is there is not made. -/
theorem makeDirectory_of_leadsToDirectory
    (leads : files.leadsToDirectory start reversed = true) :
    files.makeDirectory start reversed = .error .alreadyExists := by
  obtain ⟨location, walked, isDirectory⟩ := leadsToDirectory_iff.mp leads
  obtain ⟨empty, split, allEmpty⟩ := exists_empty_append reversed
  rw [makeDirectory]
  cases named : reversed.dropWhile (· == []) with
  | nil => rfl
  | cons last before =>
      rw [split, named, List.reverse_append, List.reverse_cons, List.append_assoc] at walked
      obtain ⟨place, front, rest⟩ := exists_walk_of_append walked
      obtain ⟨next, entered, stayed⟩ := exists_walk_of_append rest
      rw [walk_singleton] at entered
      have stays := eq_of_walk_empty (by simpa using allEmpty) stayed
      obtain ⟨mode, found⟩ := requireDirectory_eq_ok_iff.mp isDirectory
      rw [stays] at found
      simp [front, entered, found]

/-- A directory is made where nothing is, below one that is there already, and under a name of its
own. -/
theorem exists_of_makeDirectory_eq_ok
    (made : files.makeDirectory start reversed = .ok changed) :
    ∃ empty last before place location,
      reversed = empty ++ last :: before ∧
      (∀ part ∈ empty, part = []) ∧
      files.walk start (last :: before).reverse = .ok location ∧
      files.enter place last = .ok location ∧
      (last ≠ ['.'] ∧ last ≠ ['.', '.']) ∧
      files.find? location = none ∧
      changed = files.insert location (.directory directoryMode) := by
  obtain ⟨empty, split, allEmpty⟩ := exists_empty_append reversed
  unfold makeDirectory at made
  split at made
  next => cases made
  next last before named =>
    split at made
    next => cases made
    next place front =>
      split at made
      next => cases made
      next location entered =>
        split at made
        next => cases made
        next free =>
          simp only [not_or, Bool.not_eq_true, Option.isSome_eq_false_iff,
            Option.isNone_iff_eq_none] at free
          obtain ⟨noDot, noClimb, nothing⟩ := free
          have walked : files.walk start (last :: before).reverse = .ok location := by
            rw [List.reverse_cons, walk_append_of_ok front, walk_singleton, entered]
          rw [named] at split
          exact ⟨empty, last, before, place, location, split, allEmpty, walked, entered,
            ⟨noDot, noClimb⟩, nothing, (Except.ok.inj made).symm⟩

/-- A directory that has been made is there. -/
theorem leadsToDirectory_of_makeDirectory
    (made : files.makeDirectory start reversed = .ok changed) :
    changed.leadsToDirectory start reversed = true := by
  obtain ⟨empty, last, before, -, location, rfl, allEmpty, walked, -, -, -, rfl⟩ :=
    exists_of_makeDirectory_eq_ok made
  have there : (files.insert location (.directory directoryMode)).requireDirectory location =
      .ok () :=
    requireDirectory_eq_ok_iff.mpr ⟨_, find?_insert_self _ _ _⟩
  have more : ∀ other, files.requireDirectory other = .ok () →
      (files.insert location (.directory directoryMode)).requireDirectory other = .ok () := by
    intro other isDirectory
    by_cases here : other = location
    · rw [here]
      exact there
    · rwa [requireDirectory, find?_insert_of_ne files _ here]
  refine leadsToDirectory_iff.mpr ⟨location, ?_, there⟩
  rw [List.reverse_append, walk_append_of_ok (walk_eq_ok_of_directories more walked)]
  exact walk_empty_of_directory (by simpa using allEmpty) there

theorem leadsToDirectory_above_of_makeDirectory
    (made : files.makeDirectory start reversed = .ok changed) :
    files.leadsToDirectory start (Path.above reversed) = true := by
  obtain ⟨empty, last, before, -, location, rfl, allEmpty, walked, -⟩ :=
    exists_of_makeDirectory_eq_ok made
  have allIdle : ∀ part ∈ empty, Path.isIdle part = true := by
    intro part member
    rw [allEmpty part member]
    rfl
  rw [Path.above, List.dropWhile_append_of_pos allIdle, ← Path.above]
  exact leadsToDirectory_above (List.cons_ne_nil _ _) walked

/-! ## A directory with those above it -/

theorem ensureDirectory_of_leadsToDirectory
    (leads : files.leadsToDirectory start reversed = true) :
    files.ensureDirectory start reversed = (.ok (), files) := by
  rw [ensureDirectory, makeDirectory_of_leadsToDirectory leads]
  exact if_pos leads

/-- A directory that is ensured has been made or was there. -/
theorem made_or_leads_of_ensureDirectory
    (ensured : files.ensureDirectory start reversed = (.ok (), changed)) :
    files.makeDirectory start reversed = .ok changed ∨
      files.leadsToDirectory start reversed = true ∧ changed = files := by
  unfold ensureDirectory at ensured
  split at ensured
  next made =>
    obtain rfl := (Prod.mk.inj ensured).2
    exact Or.inl made
  next =>
    split at ensured
    next leads => exact Or.inr ⟨leads, (Prod.mk.inj ensured).2.symm⟩
    next => cases (Prod.mk.inj ensured).1

theorem leadsToDirectory_of_ensureDirectory
    (ensured : files.ensureDirectory start reversed = (.ok (), changed)) :
    changed.leadsToDirectory start reversed = true := by
  rcases made_or_leads_of_ensureDirectory ensured with made | ⟨leads, rfl⟩
  · exact leadsToDirectory_of_makeDirectory made
  · exact leads

theorem leadsToDirectory_above_of_ensureDirectory
    (nonempty : reversed ≠ [])
    (ensured : files.ensureDirectory start reversed = (.ok (), changed)) :
    files.leadsToDirectory start (Path.above reversed) = true := by
  rcases made_or_leads_of_ensureDirectory ensured with made | ⟨leads, -⟩
  · exact leadsToDirectory_above_of_makeDirectory made
  · obtain ⟨place, walked, -⟩ := leadsToDirectory_iff.mp leads
    exact leadsToDirectory_above nonempty walked

/-- A failure changes nothing. -/
theorem eq_of_ensureDirectory_eq_error
    {failure : IoError}
    (failed : files.ensureDirectory start reversed = (.error failure, changed)) :
    changed = files := by
  unfold ensureDirectory at failed
  split at failed
  next => cases (Prod.mk.inj failed).1
  next =>
    split at failed
    next => cases (Prod.mk.inj failed).1
    next => exact (Prod.mk.inj failed).2.symm

/-- Below what is not a directory nothing can be ensured. -/
theorem exists_ensureDirectory_eq_error
    (nonempty : reversed ≠ [])
    (noneAbove : ¬ files.leadsToDirectory start (Path.above reversed) = true) :
    ∃ failure, files.ensureDirectory start reversed = (.error failure, files) := by
  cases known : files.ensureDirectory start reversed with
  | mk outcome changed =>
      cases outcome with
      | ok => exact absurd (leadsToDirectory_above_of_ensureDirectory nonempty known) noneAbove
      | error failure =>
          obtain rfl := eq_of_ensureDirectory_eq_error known
          exact ⟨failure, rfl⟩

/-- A directory that is there is left alone, and so are those above it. -/
theorem makeDirectories_of_leadsToDirectory
    (leads : files.leadsToDirectory start reversed = true) :
    files.makeDirectories start reversed = (.ok (), files) := by
  cases reversed with
  | nil => rw [makeDirectories]
  | cons last before =>
      rw [makeDirectories, makeDirectory_of_leadsToDirectory leads]
      exact ensureDirectory_of_leadsToDirectory leads

theorem leadsToDirectory_of_makeDirectories
    (nonempty : reversed ≠ [])
    (made : files.makeDirectories start reversed = (.ok (), changed)) :
    changed.leadsToDirectory start reversed = true := by
  obtain ⟨last, before, rfl⟩ := List.exists_cons_of_ne_nil nonempty
  rw [makeDirectories] at made
  split at made
  next =>
    split at made
    next => exact leadsToDirectory_of_ensureDirectory made
    next notMade => exact absurd made (notMade _)
  next => exact leadsToDirectory_of_ensureDirectory made

/-- Making a directory once more changes nothing. -/
theorem makeDirectories_again_of_ok
    (made : files.makeDirectories start reversed = (.ok (), changed)) :
    changed.makeDirectories start reversed = (.ok (), changed) := by
  by_cases nonempty : reversed = []
  · subst nonempty
    rw [makeDirectories]
  · exact makeDirectories_of_leadsToDirectory (leadsToDirectory_of_makeDirectories nonempty made)

/-- A directory that cannot be made together with those above it cannot be made by trying again,
which changes nothing more. -/
theorem makeDirectories_again_of_error
    {failure : IoError}
    (failed : files.makeDirectories start reversed = (.error failure, changed)) :
    ∃ again, changed.makeDirectories start reversed = (.error again, changed) := by
  induction reversed using makeDirectories.induct files start generalizing failure changed with
  | case1 =>
      rw [makeDirectories] at failed
      cases (Prod.mk.inj failed).1
  | case2 last before missing between made inductionHypothesis =>
      rw [makeDirectories, missing] at failed
      simp only [made] at failed
      obtain rfl := eq_of_ensureDirectory_eq_error failed
      rw [makeDirectories, makeDirectories_again_of_ok made]
      split
      next => exact ⟨failure, failed⟩
      next => exact ⟨failure, failed⟩
  | case3 last before missing notMade inductionHypothesis =>
      rw [makeDirectories, missing] at failed
      dsimp only at failed
      split at failed
      next made => exact absurd made (notMade _)
      next =>
        obtain ⟨again, aboveAgain⟩ := inductionHypothesis failed
        -- What fails above keeps the directory below from being there.
        have noneAbove : ¬ changed.leadsToDirectory start (Path.above (last :: before)) = true := by
          intro leads
          rw [makeDirectories_of_leadsToDirectory leads] at aboveAgain
          cases (Prod.mk.inj aboveAgain).1
        rw [makeDirectories, aboveAgain]
        split
        next => exact ⟨again, rfl⟩
        next => exact exists_ensureDirectory_eq_error (List.cons_ne_nil _ _) noneAbove
  | case4 last before notMissing =>
      have ensured : files.makeDirectories start (last :: before) =
          files.ensureDirectory start (last :: before) := by
        rw [makeDirectories]
        split
        next missing => exact absurd missing notMissing
        next => rfl
      rw [ensured] at failed
      obtain rfl := eq_of_ensureDirectory_eq_error failed
      exact ⟨failure, ensured.trans failed⟩

/-! ## What making directories keeps -/

section Keeps

variable (Keeps : FileSystem → FileSystem → Prop) {parts : List Text}

/-- What making a directory keeps, ensuring that it is there keeps. -/
theorem ensureDirectory_keeps
    (refl : ∀ files, Keeps files files)
    (made : ∀ files changed reversed, reversed ⊆ parts →
      files.makeDirectory start reversed = .ok changed → Keeps files changed)
    (files : FileSystem)
    (subset : reversed ⊆ parts) :
    Keeps files (files.ensureDirectory start reversed).2 := by
  unfold ensureDirectory
  split
  next changed success => exact made files changed reversed subset success
  next => split <;> exact refl files

/-- What making a directory keeps, making it together with those above it keeps. The paths of all of
them are made up of parts of the given one. -/
theorem makeDirectories_keeps
    (refl : ∀ files, Keeps files files)
    (trans : ∀ before between after, Keeps before between → Keeps between after →
      Keeps before after)
    (made : ∀ files changed reversed, reversed ⊆ parts →
      files.makeDirectory start reversed = .ok changed → Keeps files changed)
    (files : FileSystem)
    (subset : reversed ⊆ parts) :
    Keeps files (files.makeDirectories start reversed).2 := by
  induction reversed using makeDirectories.induct files start with
  | case1 =>
      rw [makeDirectories]
      exact refl files
  | case2 last before missing between ensured inductionHypothesis =>
      have above := inductionHypothesis (List.Subset.trans (Path.above_subset _) subset)
      rw [makeDirectories, missing]
      simp only [ensured] at above ⊢
      exact trans _ _ _ above (ensureDirectory_keeps Keeps refl made between subset)
  | case3 last before missing notEnsured inductionHypothesis =>
      have above := inductionHypothesis (List.Subset.trans (Path.above_subset _) subset)
      rw [makeDirectories, missing]
      dsimp only
      split
      next ensured => exact absurd ensured (notEnsured _)
      next => exact above
  | case4 last before notMissing =>
      rw [makeDirectories]
      split
      next missing => exact absurd missing notMissing
      next => exact ensureDirectory_keeps Keeps refl made files subset

end Keeps

theorem workingDirectory_makeDirectories
    (files : FileSystem)
    (start : Location)
    (reversed : List Text) :
    (files.makeDirectories start reversed).2.workingDirectory = files.workingDirectory := by
  apply makeDirectories_keeps
    (fun before after => after.workingDirectory = before.workingDirectory) (fun _ => rfl)
    (fun _ _ _ first second => second.trans first) _ files (List.Subset.refl reversed)
  intro files changed reversed _ made
  obtain ⟨-, -, -, -, location, -, -, -, -, -, -, rfl⟩ := exists_of_makeDirectory_eq_ok made
  rfl

/-! ## Paths of directories -/

section Paths

variable {path : Path}

/-- A path that leads to a directory leads to the place in which the files of the directory are. -/
theorem exists_place_of_status
    {mode : Nat}
    (found : files.status path = .ok (.directory mode)) :
    ∃ place, files.locate path = .ok place ∧ files.reach path = .ok place ∧
      files.requireDirectory place = .ok () := by
  unfold status at found
  split at found
  next => cases found
  next place located =>
    split at found
    next => cases found
    next node there =>
      obtain rfl := Except.ok.inj found
      have isDirectory := requireDirectory_eq_ok_iff.mpr ⟨mode, there⟩
      refine ⟨place, located, ?_, isDirectory⟩
      have checked := checkPath_of_locate located
      rw [locate, checked] at located
      rw [reach, Path.leading, if_neg (by simpa using ne_nil_of_checkPath checked)]
      split
      next slashed =>
        obtain ⟨front, rfl⟩ := List.getLast?_eq_some_iff.mp (eq_of_beq slashed)
        rw [Path.parts_append_slash] at located ⊢
        simpa [Path.parts] using located
      next =>
        rw [walk_append_of_ok located, walk_singleton, enter_nil, isDirectory]
        rfl

theorem status_of_leadsToDirectory
    (checked : checkPath path = .ok ())
    (leads : files.leadsToDirectory (files.startOf path) (Path.parts path).reverse = true) :
    ∃ mode, files.status path = .ok (.directory mode) := by
  obtain ⟨place, walked, isDirectory⟩ := leadsToDirectory_iff.mp leads
  obtain ⟨mode, found⟩ := requireDirectory_eq_ok_iff.mp isDirectory
  rw [List.reverse_reverse] at walked
  exact ⟨mode, by simp only [status, locate, checked, walked, found]⟩

/-- A path whose files have a place leads to a directory. -/
theorem status_of_reach
    (checked : checkPath path = .ok ())
    (reached : files.reach path = .ok place) :
    ∃ mode, files.status path = .ok (.directory mode) := by
  have nonempty := ne_nil_of_checkPath checked
  rw [reach, Path.leading, if_neg (by simpa using nonempty)] at reached
  have walked : ∃ location, files.walk (files.startOf path) (Path.parts path) = .ok location ∧
      files.requireDirectory location = .ok () := by
    split at reached
    next slashed =>
      obtain ⟨front, split⟩ := List.getLast?_eq_some_iff.mp (eq_of_beq slashed)
      have parts : (Path.parts path).dropLast ++ [[]] = Path.parts path := by
        rw [split, Path.parts_append_slash]
        simp [Path.parts]
      obtain ⟨between, front, last⟩ := exists_walk_of_append reached
      rw [parts] at reached
      have isDirectory := requireDirectory_of_walk (List.cons_ne_nil _ _) last
      rw [← eq_of_walk_empty (by simp) last] at isDirectory
      exact ⟨place, reached, isDirectory⟩
    next =>
      obtain ⟨between, walked, last⟩ := exists_walk_of_append reached
      exact ⟨between, walked, requireDirectory_of_walk (List.cons_ne_nil _ _) last⟩
  obtain ⟨location, walked, isDirectory⟩ := walked
  obtain ⟨mode, found⟩ := requireDirectory_eq_ok_iff.mp isDirectory
  exact ⟨mode, by simp only [status, locate, checked, walked, found]⟩

theorem status_directory_of_changes
    {touched : Location → Prop}
    {mode : Nat}
    (changes : ChangesOnly touched files changed)
    (found : files.status path = .ok (.directory mode)) :
    ∃ after, changed.status path = .ok (.directory after) := by
  obtain ⟨place, located, -, isDirectory⟩ := exists_place_of_status found
  obtain ⟨after, there⟩ :=
    requireDirectory_eq_ok_iff.mp ((changes.directories place).mpr isDirectory)
  exact ⟨after, by simp only [status, changes.locate_eq_ok located, there]⟩

theorem createDirectories_eq
    (files : FileSystem)
    (checked : checkPath path = .ok ()) :
    files.createDirectories path =
      files.makeDirectories (files.startOf path) (Path.parts path).reverse := by
  rw [createDirectories, if_neg (ne_nil_of_checkPath checked), checked]

/-- Making a directory that is there changes nothing. -/
theorem createDirectories_of_directory
    {mode : Nat}
    (found : files.status path = .ok (.directory mode)) :
    files.createDirectories path = (.ok (), files) := by
  obtain ⟨place, located, -, isDirectory⟩ := exists_place_of_status found
  have checked := checkPath_of_locate located
  have leads : files.leadsToDirectory (files.startOf path) (Path.parts path).reverse = true := by
    refine leadsToDirectory_iff.mpr ⟨place, ?_, isDirectory⟩
    rw [List.reverse_reverse]
    simpa only [locate, checked] using located
  rw [createDirectories_eq files checked]
  exact makeDirectories_of_leadsToDirectory leads

/-- Making directories does not change where a path starts. -/
theorem startOf_of_makeDirectories
    {outcome : Except IoError Unit}
    (ran : files.makeDirectories start reversed = (outcome, changed)) :
    changed.startOf path = files.startOf path := by
  have same := workingDirectory_makeDirectories files start reversed
  rw [ran] at same
  rw [startOf, startOf, same]

/-- A directory that has been made is there. -/
theorem status_of_createDirectories
    (checked : checkPath path = .ok ())
    (made : files.createDirectories path = (.ok (), changed)) :
    ∃ mode, changed.status path = .ok (.directory mode) := by
  rw [createDirectories_eq files checked] at made
  apply status_of_leadsToDirectory checked
  rw [startOf_of_makeDirectories made]
  exact leadsToDirectory_of_makeDirectories (by simp [Path.parts_ne_nil]) made

/-- A directory that cannot be made cannot be made by trying again, which changes nothing more. -/
theorem createDirectories_again_of_error
    {failure : IoError}
    (failed : files.createDirectories path = (.error failure, changed)) :
    ∃ again, changed.createDirectories path = (.error again, changed) := by
  cases checked : checkPath path with
  | ok =>
      rw [createDirectories_eq files checked] at failed
      rw [createDirectories_eq changed checked, startOf_of_makeDirectories failed]
      exact makeDirectories_again_of_error failed
  | error reason =>
      by_cases empty : path = []
      · subst empty
        cases (Prod.mk.inj failed).1
      · rw [createDirectories, if_neg empty, checked]
        exact ⟨reason, rfl⟩

end Paths

end FileSystem
end Lockbox
