import Lockbox.Proofs.PrivateFile
import Lockbox.Proofs.Text.Utf8

/-!
# Temporary files

A private file is written under another name first and then moved to its place. Whatever goes wrong
with that, it is put in place at once or nothing has changed in the end (`putWith_cases`): when a
step fails, the temporary file is removed again. Under a lock only what is in the place of the file
can be in the way (`run_put`).
-/

namespace Lockbox

/-! ## Paths beside another one -/

namespace Path

theorem beside_append
    (front : Path)
    {name : Text}
    (noSlash : '/' ∉ name)
    (other : Text) :
    beside (front ++ name) other = beside front other := by
  have skipped : ∀ char ∈ name.reverse, (char != '/') = true := by
    intro char member
    exact bne_iff_ne.mpr fun slash => noSlash (slash ▸ List.mem_reverse.mp member)
  rw [beside, beside, List.reverse_append, List.dropWhile_append_of_pos skipped]

/-- What is beside a name in a directory is in the directory. -/
theorem beside_join
    (directory : Path)
    {name other : Text}
    (noSlash : '/' ∉ name)
    (otherNoSlash : '/' ∉ other) :
    beside (join directory name) other = join directory other := by
  have beside_slash (front : Path) : beside (front ++ ['/']) other = front ++ ['/'] ++ other := by
    simp [beside]
  rw [join_of_noSlash directory noSlash, join_of_noSlash directory otherNoSlash]
  split
  next ended =>
    rw [beside_append directory noSlash]
    cases known : directory.getLast? with
    | none =>
        rw [List.getLast?_eq_none_iff.mp known]
        rfl
    | some last =>
        obtain ⟨front, rfl⟩ := List.getLast?_eq_some_iff.mp known
        obtain rfl : last = '/' := by simpa using ended
        exact beside_slash front
  next =>
    rw [List.append_cons, beside_append _ noSlash, beside_slash, ← List.append_cons]

end Path

namespace PrivateFile

open FileSystem

/-! ## Names of temporary files -/

/-- A name that a temporary file can have. -/
def IsTemporaryName (name : Text) : Prop :=
  ∃ letters : Text, letters.length = 6 ∧ (∀ char ∈ letters, char ∈ nameLetters) ∧
    name = ".tmp".toList ++ letters

theorem length_spelled (count number : Nat) : (spelled count number).length = count := by
  induction count generalizing number with
  | zero => rfl
  | succ count inductionHypothesis => rw [spelled, List.length_cons, inductionHypothesis]

theorem mem_nameLetters_of_mem_spelled
    {count number : Nat}
    {char : Char}
    (member : char ∈ spelled count number) :
    char ∈ nameLetters := by
  induction count generalizing number with
  | zero => cases member
  | succ count inductionHypothesis =>
      rcases List.mem_cons.mp member with rfl | later
      · have inside : number % 62 < nameLetters.length := Nat.mod_lt _ (by decide)
        rw [List.getD_eq_getElem?_getD, List.getElem?_eq_getElem inside]
        exact List.getElem_mem inside
      · exact inductionHypothesis later

theorem isTemporaryName_temporaryName (number : Nat) : IsTemporaryName (temporaryName number) :=
  ⟨_, length_spelled 6 number, fun _ => mem_nameLetters_of_mem_spelled, rfl⟩

theorem toNat_lt_of_mem_nameLetters
    {char : Char}
    (member : char ∈ nameLetters) :
    char.toNat < 0x80 := by
  have allAscii : nameLetters.all (·.toNat < 0x80) = true := by decide +kernel
  exact of_decide_eq_true (List.all_eq_true.mp allAscii char member)

namespace IsTemporaryName

variable {name : Text}

theorem notMem
    {char : Char}
    (temporary : IsTemporaryName name)
    (notInFront : char ∉ ".tmp".toList)
    (noLetter : char ∉ nameLetters) :
    char ∉ name := by
  obtain ⟨letters, -, drawn, rfl⟩ := temporary
  rw [List.mem_append, not_or]
  exact ⟨notInFront, fun member => noLetter (drawn char member)⟩

theorem isPlain
    (temporary : IsTemporaryName name) :
    Path.IsPlain name where
  noSlash := temporary.notMem (by decide) (by decide +kernel)
  long := by
    obtain ⟨letters, -, -, rfl⟩ := temporary
    rw [List.length_append]
    exact Nat.lt_add_right _ (by decide)

theorem byteLength
    (temporary : IsTemporaryName name) :
    Text.byteLength name = 10 := by
  obtain ⟨letters, six, drawn, rfl⟩ := temporary
  have ascii : ∀ char ∈ letters, char.toNat < 0x80 :=
    fun char member => toNat_lt_of_mem_nameLetters (drawn char member)
  rw [byteLength_append, Text.byteLength, Text.byteLength, Utf8.length_encode_of_ascii ascii, six]
  rfl

/-- In a directory in which the lock of a file can be located, so can a temporary file. -/
theorem locate_join
    {files : FileSystem}
    {directory : Path}
    {file : Text}
    {place : Location}
    (temporary : IsTemporaryName name)
    (plain : Path.IsPlain file)
    (long : 10 ≤ Text.byteLength (lockName file))
    (isLock : IsLock files (Path.join directory file) (lockName file :: place)) :
    files.locate (Path.join directory name) = .ok (name :: place) := by
  rw [IsLock, lockPath_join _ plain.noSlash] at isLock
  apply locate_join_of_shorter (isPlain_lockName plain) temporary.isPlain
    (temporary.notMem (by decide) (by decide +kernel)) _ isLock
  rw [temporary.byteLength]
  exact long

end IsTemporaryName

/-- A free path has the name of a temporary file and leads nowhere. -/
theorem of_freePath?_eq_some
    {files : FileSystem}
    {path temporary : Path}
    {count : Nat}
    (chosen : freePath? files path count = some temporary) :
    ∃ name, IsTemporaryName name ∧ temporary = Path.beside path name ∧
      files.pathExists temporary = false := by
  induction count with
  | zero => cases chosen
  | succ number inductionHypothesis =>
      rw [freePath?] at chosen
      split at chosen
      next => exact inductionHypothesis chosen
      next free =>
        cases chosen
        exact ⟨_, isTemporaryName_temporaryName number, rfl, by simpa using free⟩

/-! ## The steps of putting a file in place -/

section Steps

variable {files : FileSystem} {machine : Machine} {temporary path : Path}
  {place location : Location} {faults : Faults}

theorem find?_of_pathExists_eq_false
    (located : files.locate temporary = .ok place)
    (absent : files.pathExists temporary = false) :
    files.find? place = none := by
  simp only [pathExists, status, located] at absent
  cases found : files.find? place with
  | none => rfl
  | some node => simp [found] at absent

theorem create_of_free
    (located : files.locate temporary = .ok place)
    (free : files.find? place = none) :
    files.create temporary mode = .ok (files.insert place (.file mode [])) := by
  simp only [create, located, free]

/-- A file that has been made is where nothing was. -/
theorem of_create_eq_ok
    {changed : FileSystem}
    (created : files.create temporary mode = .ok changed) :
    ∃ place, files.locate temporary = .ok place ∧ files.find? place = none := by
  unfold create at created
  split at created
  next => cases created
  next place located =>
    split at created
    next free => exact ⟨place, located, free⟩
    next => cases created

theorem changes_of_insert_free
    (free : files.find? place = none)
    (content : Bytes) :
    ChangesOnly (· = place) files (files.insert place (.file mode content)) :=
  ChangesOnly.insert_file (requireDirectory_of_find? free) mode content

theorem write_temporary
    (located : files.locate temporary = .ok place)
    (free : files.find? place = none)
    (content : Bytes) :
    (files.insert place (.file mode [])).write temporary content =
      .ok (files.insert place (.file mode content)) := by
  have stillLocated := (changes_of_insert_free free []).locate_eq_ok located
  simp only [write, stillLocated, find?_insert_self, insert_insert]

/-- A temporary file that is complete is moved exactly when a file can be put in place. -/
theorem moveFile_temporary
    (located : files.locate temporary = .ok place)
    (free : files.find? place = none)
    (target : files.locate path = .ok location)
    (content : Bytes) :
    (files.insert place (.file mode content)).moveFile temporary path =
      files.replace path mode content := by
  have changes := changes_of_insert_free free content
  have moved : ((files.insert place (.file mode content)).erase place).insert location
      (.file mode content) = files.insert location (.file mode content) := by
    rw [erase_insert, erase_of_find? free]
  simp only [moveFile, changes.locate_eq_ok located, changes.locate_eq_ok target,
    find?_insert_self, replace, target]
  by_cases same : location = place
  · subst same
    rw [find?_insert_self, free]
    exact congrArg Except.ok moved
  · rw [find?_insert_of_ne files _ same]
    cases files.find? location with
    | none => exact congrArg Except.ok moved
    | some node =>
        cases node with
        | file _ _ => exact congrArg Except.ok moved
        | directory _ => rfl

/-- A temporary file is moved only where a file can be put in place. -/
theorem replace_of_moveFile_temporary
    {content : Bytes}
    {changed : FileSystem}
    (located : files.locate temporary = .ok place)
    (free : files.find? place = none)
    (moved : (files.insert place (.file mode content)).moveFile temporary path = .ok changed) :
    files.replace path mode content = .ok changed := by
  have changes := changes_of_insert_free free content
  cases target : (files.insert place (.file mode content)).locate path with
  | error failure => simp [moveFile, changes.locate_eq_ok located, target] at moved
  | ok location =>
      rw [← moveFile_temporary located free (changes.symm.locate_eq_ok target), moved]

theorem run_discard_temporary
    {ε : Type}
    (located : machine.files.locate temporary = .ok place)
    (free : machine.files.find? place = none)
    (content : Bytes) :
    (discard temporary : Action ε Unit)
        { machine with files := machine.files.insert place (.file mode content) } =
      (.ok (), machine) := by
  have stillLocated := (changes_of_insert_free free content).locate_eq_ok located
  have removed := remove_of_file stillLocated (find?_insert_self _ _ _)
  rw [erase_insert, erase_of_find? free] at removed
  rw [discard, Action.orElse, Action.run_changeFiles_of_ok removed]

/-- Whether a temporary file can be made private and filled; otherwise, how that fails. -/
def Faults.outcome (faults : Faults) : Except IoError Unit :=
  match faults.restricting, faults.writing with
  | some failure, _ => .error failure
  | none, some (_, failure) => .error failure
  | none, none => .ok ()

/-- A temporary file that has been made private and filled is complete unless that fails. -/
theorem run_prepare
    (located : machine.files.locate temporary = .ok place)
    (free : machine.files.find? place = none)
    (faults : Faults)
    (content : Bytes) :
    ∃ written,
      prepare faults temporary content
          { machine with files := machine.files.insert place (.file mode []) } =
        (faults.outcome,
          { machine with files := machine.files.insert place (.file mode written) }) ∧
      (faults.outcome = .ok () → written = content) := by
  have restricted := setMode_insert located (requireDirectory_of_find? free) mode mode []
  rw [prepare, restrict, fill, Faults.outcome]
  cases faults.restricting with
  | some failure => exact ⟨[], rfl, nofun⟩
  | none =>
      dsimp only
      rw [run_bind_of_ok (Action.run_changeFiles_of_ok restricted)]
      cases faults.writing with
      | none =>
          exact ⟨content, Action.run_changeFiles_of_ok (write_temporary located free content),
            fun _ => rfl⟩
      | some fault =>
          obtain ⟨count, failure⟩ := fault
          exact ⟨content.take count, run_bind_of_ok (Action.run_changeFiles_of_ok
            (write_temporary located free (content.take count))), nofun⟩

/-- A file is put in place through a temporary one by moving it there when it is complete. When
anything fails, nothing has changed in the end. -/
theorem run_putThrough
    (located : machine.files.locate temporary = .ok place)
    (free : machine.files.find? place = none)
    (faults : Faults)
    (path : Path)
    (content : Bytes) :
    putThrough faults temporary path content machine =
      match faults.outcome with
      | .error failure => (.error failure, machine)
      | .ok () =>
        match (machine.files.insert place (.file mode content)).moveFile temporary path with
        | .error failure => (.error failure, machine)
        | .ok changed => (.ok (), { machine with files := changed }) := by
  obtain ⟨written, prepared, complete⟩ := run_prepare located free faults content
  rw [putThrough, run_bind_of_ok (Action.run_changeFiles_of_ok (create_of_free located free)),
    Action.orElse]
  cases outcome : faults.outcome with
  | error failure =>
      rw [outcome] at prepared
      rw [run_bind_of_error prepared]
      exact run_bind_of_ok (run_discard_temporary located free written)
  | ok =>
      rw [outcome] at prepared complete
      obtain rfl := complete rfl
      rw [run_bind_of_ok prepared]
      cases moving : (machine.files.insert place (.file mode written)).moveFile temporary path with
      | error failure =>
          rw [Action.run_changeFiles_of_error moving]
          exact run_bind_of_ok (run_discard_temporary located free written)
      | ok changed => rw [Action.run_changeFiles_of_ok moving]

/-- Where a temporary file can be made, a file is put in place through it as it is at once. -/
theorem run_putThrough_of_target
    (located : machine.files.locate temporary = .ok place)
    (free : machine.files.find? place = none)
    (target : machine.files.locate path = .ok location)
    (content : Bytes) :
    putThrough {} temporary path content machine =
      Action.changeFiles (FileSystem.replace · path mode content) machine := by
  rw [run_putThrough located free, moveFile_temporary located free target]
  dsimp only [Faults.outcome]
  rw [Action.changeFiles]
  cases machine.files.replace path mode content <;> rfl

end Steps

/-! ## Putting a file in place -/

section Put

variable {machine : Machine} {path directory : Path} {name : Text} {content : Bytes}

/-- Whatever goes wrong, a file is put in place or nothing has changed. -/
theorem putWith_cases
    (faults : Faults)
    (path : Path)
    (content : Bytes)
    (machine : Machine) :
    (∃ failure, putWith faults path content machine = (.error failure, machine)) ∨
      ∃ changed, machine.files.replace path mode content = .ok changed ∧
        putWith faults path content machine = (.ok (), { machine with files := changed }) := by
  rw [putWith, run_bind, Action.observe]
  dsimp only
  cases freePath? machine.files path nameCount with
  | none =>
      dsimp only
      rw [Action.changeFiles]
      cases machine.files.replace path mode content with
      | error failure => exact Or.inl ⟨failure, rfl⟩
      | ok changed => exact Or.inr ⟨changed, rfl, rfl⟩
  | some temporary =>
      dsimp only
      cases created : machine.files.create temporary mode with
      | error failure =>
          left
          rw [putThrough, run_bind_of_error (Action.run_changeFiles_of_error created)]
          exact ⟨failure, rfl⟩
      | ok =>
          obtain ⟨place, located, free⟩ := of_create_eq_ok created
          rw [run_putThrough located free]
          cases faults.outcome with
          | error failure => exact Or.inl ⟨failure, rfl⟩
          | ok =>
              dsimp only
              cases moving : (machine.files.insert place (.file mode content)).moveFile temporary
                  path with
              | error failure => exact Or.inl ⟨failure, rfl⟩
              | ok changed =>
                  exact Or.inr ⟨changed, replace_of_moveFile_temporary located free moving, rfl⟩

/-- Under its lock a file is put in place at once, as far as anyone can tell. -/
theorem run_put
    (plain : Path.IsPlain name)
    (long : 10 ≤ Text.byteLength (lockName name))
    (free : lockOutcome machine.files (Path.join directory name) = .ok ())
    (content : Bytes) :
    put (Path.join directory name) content machine =
      Action.changeFiles (FileSystem.replace · (Path.join directory name) mode content)
        machine := by
  obtain ⟨_, isLock, -⟩ := lockOutcome_eq_ok_iff.mp free
  obtain ⟨place, -, rfl⟩ := exists_place_of_isLock plain isLock
  obtain ⟨_, -, target⟩ := exists_locate_of_lockOutcome plain free
  rw [put, putWith, run_bind, Action.observe]
  dsimp only
  cases chosen : freePath? machine.files (Path.join directory name) nameCount with
  | none => rfl
  | some temporary =>
      obtain ⟨other, isTemporary, rfl, absent⟩ := of_freePath?_eq_some chosen
      rw [Path.beside_join directory plain.noSlash isTemporary.isPlain.noSlash] at absent ⊢
      have located := isTemporary.locate_join plain long isLock
      exact run_putThrough_of_target located (find?_of_pathExists_eq_false located absent) target
        content

end Put

end PrivateFile
end Lockbox
