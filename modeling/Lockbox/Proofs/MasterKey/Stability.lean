import Lockbox.Proofs.MasterKey.KeyFile

/-!
# Keys that stay

A key that has been had for a directory is had again as long as nothing but other files of the
directory changes: an explicit value that leads to nothing in the directory gives the same as
before, and the key file is read as before (`Stays.of_changes`, `stays_of_resolves`).
-/

namespace Lockbox

/-- The origin of a key when it is asked for again. A new key has been kept in its file. -/
def KeyOrigin.again : KeyOrigin → KeyOrigin
  | .generated path => .keyFile path
  | origin => origin

namespace FileSystem

/-- A change that does not touch a file leaves it where it is. -/
theorem status_file_of_changes
    {touched : Location → Prop}
    {before after : FileSystem}
    {path : Path}
    {mode : Nat}
    {content : Bytes}
    (changes : ChangesOnly touched before after)
    (apart : ∀ location, before.locate path = .ok location → touched location →
      before.requireDirectory location = .ok ())
    (found : before.status path = .ok (.file mode content)) :
    after.status path = .ok (.file mode content) := by
  apply changes.status_eq_ok _ found
  intro location located isTouched
  obtain ⟨directoryMode, isDirectory⟩ :=
    requireDirectory_eq_ok_iff.mp (apart location located isTouched)
  simp [status, located, isDirectory] at found

end FileSystem

namespace MasterKey

open FileSystem

/-- The key when it is asked for again. -/
def again (key : MasterKey) : MasterKey :=
  { key with origin := key.origin.again }

/-- A key that is not new has the same origin again. -/
theorem again_eq_self
    {key : MasterKey}
    (old : ∀ path, key.origin ≠ .generated path) :
    key.again = key := by
  obtain ⟨bytes, origin⟩ := key
  cases origin with
  | generated path => exact absurd rfl (old path)
  | _ => rfl

/-! ## Explicit values -/

section Explicit

variable {explicit : Option Text} {directory : Path} {touched : Location → Prop}
  {before after : FileSystem}

/-- What an explicit value gives depends on the file to which it leads, if it leads to one. -/
theorem ofExplicit_eq (value : Text) (files : FileSystem) :
    ofExplicit value files =
      match files.status (Text.trim value) with
      | .ok (.file _ content) =>
        match Utf8.decode content with
        | .error _ => .error (.file (Text.trim value) .notText)
        | .ok text => ofText text .environment
      | _ => ofText value .environment := by
  rw [ofExplicit, isFile, readText, FileSystem.read]
  cases files.status (Text.trim value) with
  | error failure => rfl
  | ok node =>
      cases node with
      | directory mode => rfl
      | file mode content =>
          dsimp only
          cases Utf8.decode content <;> rfl

theorem ofExplicit_of_changes
    {value : Text}
    (changes : ChangesOnly touched before after)
    (apart : ∀ location, before.locate (Text.trim value) = .ok location → touched location →
      before.requireDirectory location = .ok ()) :
    ofExplicit value after = ofExplicit value before := by
  have apartAfter : ∀ location, after.locate (Text.trim value) = .ok location →
      touched location → after.requireDirectory location = .ok () := by
    intro location located isTouched
    rw [changes.directories]
    exact apart location (changes.symm.locate_eq_ok located) isTouched
  rw [ofExplicit_eq, ofExplicit_eq]
  by_cases isFile : ∃ mode content, before.status (Text.trim value) = .ok (.file mode content)
  · obtain ⟨mode, content, found⟩ := isFile
    rw [found, status_file_of_changes changes apart found]
  · have notFileAfter : ¬ ∃ mode content,
        after.status (Text.trim value) = .ok (.file mode content) := by
      rintro ⟨mode, content, found⟩
      exact isFile ⟨mode, content, status_file_of_changes changes.symm apartAfter found⟩
    split
    next found => exact absurd ⟨_, _, found⟩ notFileAfter
    next =>
      split
      next found => exact absurd ⟨_, _, found⟩ isFile
      next => rfl

theorem explicitKey?_of_changes
    (changes : ChangesOnly touched before after)
    (apart : ∀ value, explicit = some value →
      ∀ location, before.locate (Text.trim value) = .ok location → touched location →
        before.requireDirectory location = .ok ()) :
    explicitKey? explicit after = explicitKey? explicit before := by
  cases explicit with
  | none => rfl
  | some value =>
      simp only [explicitKey?, Option.bind_some, ofExplicit_of_changes changes (apart value rfl)]

theorem origin_of_explicitKey?_eq_some
    {key : MasterKey}
    (given : explicitKey? explicit before = some key) :
    key.origin = .environment := by
  obtain ⟨value, -, taken⟩ := Option.bind_eq_some_iff.mp given
  have opened : ofExplicit value before = .ok key := by
    cases known : ofExplicit value before with
    | error failure => simp [known, Except.toOption] at taken
    | ok other => simpa [known, Except.toOption] using taken
  rw [ofExplicit_eq] at opened
  split at opened
  next =>
    split at opened
    next => cases opened
    next => exact origin_of_parse_eq_ok (ofText_eq_ok_iff.mp opened)
  next => exact origin_of_parse_eq_ok (ofText_eq_ok_iff.mp opened)

/-- An explicit value that leads to nothing in a directory. -/
def ExplicitApart (explicit : Option Text) (directory : Path) (files : FileSystem) : Prop :=
  ∀ value place name, explicit = some value → files.reach directory = .ok place →
    files.locate (Text.trim value) ≠ .ok (name :: place)

theorem ExplicitApart.of_changes
    (apart : ExplicitApart explicit directory before)
    (changes : ChangesOnly touched before after) :
    ExplicitApart explicit directory after := by
  intro value place name isValue reached located
  exact apart value place name isValue (changes.symm.reach_eq_ok reached)
    (changes.symm.locate_eq_ok located)

/-- The use of the key file does not matter to an explicit value that leads to nothing in the
directory. -/
theorem explicitKey?_of_mayTouch
    (apart : ExplicitApart explicit directory before)
    (changes : ChangesOnly (PrivateFile.MayTouch directory fileName before) before after) :
    explicitKey? explicit after = explicitKey? explicit before := by
  apply explicitKey?_of_changes changes
  rintro value isValue location located ⟨place, reached, rfl | rfl⟩
  · exact absurd located (apart value place _ isValue reached)
  · exact absurd located (apart value place _ isValue reached)

end Explicit

/-! ## Staying -/

/-- A key that is given explicitly, or else can be read from the key file. -/
inductive Stays (explicit : Option Text) (directory : Path) (key : MasterKey)
    (files : FileSystem) : Prop
  | given (explicitly : explicitKey? explicit files = some key)
  | kept {node : Node}
      (notGiven : explicitKey? explicit files = none)
      (free : PrivateFile.lockOutcome files (filePath directory) = .ok ())
      (found : keyNode? files directory = some node)
      (opened : openNode directory node = .ok key)

section Staying

variable {explicit : Option Text} {directory : Path} {key : MasterKey}

/-- A key that stays is had without random bytes. -/
theorem Stays.run
    (machine : Machine)
    (stays : Stays explicit directory key machine.files) :
    ∃ changed,
      ofDirectoryOr explicit directory machine = (.ok key, { machine with files := changed }) ∧
      ChangesOnly (PrivateFile.IsLock machine.files (filePath directory)) machine.files
        changed := by
  cases stays with
  | given explicitly =>
      exact ⟨machine.files, run_ofDirectoryOr_of_explicitKey? explicitly, .refl _⟩
  | kept notGiven free found opened =>
      obtain ⟨locked, ran, changes⟩ := run_ofDirectory_of_node free found
      refine ⟨locked, ?_, changes⟩
      rw [run_ofDirectoryOr_of_notGiven notGiven, ran, opened]

/-- The places in a directory but for that of its key file, and all directories. -/
def BesideKeyFile (directory : Path) (files : FileSystem) (location : Location) : Prop :=
  (∃ name place, files.reach directory = .ok place ∧ location = name :: place ∧
    name ≠ fileName) ∨ files.requireDirectory location = .ok ()

/-- A key stays through changes beside its key file. -/
theorem Stays.of_changes
    {touched : Location → Prop}
    {before after : FileSystem}
    (stays : Stays explicit directory key before)
    (changes : ChangesOnly touched before after)
    (apart : ExplicitApart explicit directory before)
    (bounded : ∀ location, touched location → BesideKeyFile directory before location) :
    Stays explicit directory key after := by
  have sameExplicit : explicitKey? explicit after = explicitKey? explicit before := by
    apply explicitKey?_of_changes changes
    intro value isValue location located isTouched
    rcases bounded location isTouched with ⟨name, place, reached, rfl, -⟩ | isDirectory
    · exact absurd located (apart value place name isValue reached)
    · exact isDirectory
  cases stays with
  | given explicitly => exact .given (sameExplicit.trans explicitly)
  | kept notGiven free found opened =>
      refine .kept (sameExplicit.trans notGiven) (PrivateFile.lockOutcome_of_changes changes free)
        ?_ opened
      obtain ⟨place, reached, located⟩ := exists_locate_filePath free
      rw [keyNode?_of_reach reached] at found
      rw [keyNode?_of_reach (changes.reach_eq_ok reached), ← found]
      apply changes.elsewhere
      intro isTouched
      rcases bounded _ isTouched with ⟨name, otherPlace, otherReached, same, notKey⟩ | isDirectory
      · exact notKey (List.cons.inj same).1.symm
      · obtain ⟨mode, content, text, rfl, -⟩ := exists_text_of_openNode_eq_ok opened
        obtain ⟨directoryMode, there⟩ := requireDirectory_eq_ok_iff.mp isDirectory
        rw [found] at there
        cases there

/-- A key that has been had stays, if an explicit value leads to nothing in the directory. -/
theorem stays_of_resolves
    {before after : Machine}
    (resolves : Resolves explicit directory before (.ok key) after)
    (apart : ExplicitApart explicit directory after.files) :
    Stays explicit directory key.again after.files := by
  have changes := resolves.changes
  have sameExplicit := explicitKey?_of_mayTouch (apart.of_changes changes.symm) changes
  cases resolves with
  | given explicitly =>
      rw [again_eq_self (by simp [origin_of_explicitKey?_eq_some explicitly])]
      exact .given explicitly
  | read notGiven free found opened lockChanges =>
      rw [again_eq_self (by simp [origin_of_openNode_eq_ok opened])]
      exact .kept (sameExplicit.trans notGiven) (PrivateFile.lockOutcome_of_changes changes free)
        ((keyNode?_of_lock_changes lockChanges).trans found) opened
  | made notGiven free missing kept =>
      exact .kept (sameExplicit.trans notGiven) (PrivateFile.lockOutcome_of_changes changes free)
        kept (openNode_encode _ _ _)

end Staying

end MasterKey
end Lockbox
