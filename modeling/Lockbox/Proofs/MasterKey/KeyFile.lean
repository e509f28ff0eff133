import Lockbox.MasterKey.Provider
import Lockbox.Proofs.Base64.Grammar
import Lockbox.Proofs.PrivateFile.Temporary

/-!
# Key files

The text in which a master key is kept is read back as the key (`parse_encode`). Asking for the key
of a directory fails, reads the key file or makes it; it makes it only where nothing is, and what
it makes is read from then on (`run_ofDirectory_of_node`, `run_ofDirectory_of_missing`).
-/

namespace Lockbox
namespace MasterKey

open FileSystem

/-! ## Key text -/

theorem ascii_of_mem_encode
    {key : MasterKey}
    {byte : UInt8}
    (member : byte ∈ key.encode) :
    byte.toNat < 0x80 :=
  Base64.ascii_of_mem_marked_encode member

/-- The text in which a key is kept is a text of the key. -/
theorem parse_encode (key : MasterKey) (origin : KeyOrigin) :
    parse (Text.ofAscii key.encode) origin = .ok { key with origin := origin } := by
  have trimmed : Utf8.encode (Text.trim (Text.ofAscii key.encode)) = key.encode := by
    rw [encode, Base64.encodePadded, Base64.trim_ofAscii_marked_encode]
    exact Utf8.encode_ofAscii fun _ => Base64.ascii_of_mem_marked_encode
  have decoded : decodedText? key.encode = some key.bytes.val := by
    rw [decodedText?, encode, Base64.decode_encodePadded]
  simp only [parse, trimmed, decoded, Option.bind_some, FixedBytes.ofBytes?_val]

/-- The origin is no part of a text. -/
theorem origin_of_parse_eq_ok
    {text : Text}
    {origin : KeyOrigin}
    {key : MasterKey}
    (parsed : parse text origin = .ok key) :
    key.origin = origin := by
  unfold parse at parsed
  dsimp only at parsed
  split at parsed <;> cases parsed <;> rfl

/-- The bytes of a text do not depend on the origin that is asked for. -/
theorem bytes_of_parse_eq_ok
    {text : Text}
    {origin other : KeyOrigin}
    {key otherKey : MasterKey}
    (parsed : parse text origin = .ok key)
    (parsedAgain : parse text other = .ok otherKey) :
    otherKey.bytes = key.bytes := by
  unfold parse at parsed parsedAgain
  dsimp only at parsed parsedAgain
  split at parsed <;> cases parsed <;> split at parsedAgain <;> cases parsedAgain <;> simp_all

theorem ofText_eq_ok_iff
    {text : Text}
    {origin : KeyOrigin}
    {key : MasterKey} :
    ofText text origin = .ok key ↔ parse text origin = .ok key := by
  rw [ofText]
  cases parse text origin <;> simp [Except.mapError]

/-! ## The key file -/

/-- The name of the key file. -/
def fileName : Text := "master.key".toList

theorem isPlain_fileName : Path.IsPlain fileName where
  noSlash := by decide
  long := by decide

/-- What is in the place of the key file of a directory. -/
def keyNode? (files : FileSystem) (directory : Path) : Option Node :=
  match files.reach directory with
  | .error _ => none
  | .ok place => files.find? (fileName :: place)

/-- What the key file gives when there is something in its place. -/
def openNode (directory : Path) : Node → Except KeyError MasterKey
  | .directory _ => .error (.file (filePath directory) .isDirectory)
  | .file _ content =>
    match Utf8.decode content with
    | .error _ => .error (.file (filePath directory) .notText)
    | .ok text => ofText text (.keyFile (filePath directory))

theorem keyNode?_of_reach
    {files : FileSystem}
    {directory : Path}
    {place : Location}
    (reached : files.reach directory = .ok place) :
    keyNode? files directory = files.find? (fileName :: place) := by
  rw [keyNode?, reached]

/-- The key file does not depend on how its directory is called. -/
theorem keyNode?_congr
    {files : FileSystem}
    {directory other : Path}
    (same : files.reach other = files.reach directory) :
    keyNode? files other = keyNode? files directory := by
  rw [keyNode?, keyNode?, same]

/-- A key is read back from the file in which it has been kept. -/
theorem openNode_encode (directory : Path) (mode : Nat) (key : MasterKey) :
    openNode directory (.file mode key.encode) =
      .ok { key with origin := .keyFile (filePath directory) } := by
  simp only [openNode, Utf8.decode_ofAscii fun _ => ascii_of_mem_encode, ofText, parse_encode,
    Except.mapError]

/-- What gives a key is a file of a text of the key. -/
theorem exists_text_of_openNode_eq_ok
    {directory : Path}
    {node : Node}
    {key : MasterKey}
    (opened : openNode directory node = .ok key) :
    ∃ mode content text,
      node = .file mode content ∧
      Utf8.decode content = .ok text ∧
      parse text (.keyFile (filePath directory)) = .ok key := by
  unfold openNode at opened
  split at opened
  next => cases opened
  next mode content =>
    split at opened
    next => cases opened
    next text decoded => exact ⟨mode, content, text, rfl, decoded, ofText_eq_ok_iff.mp opened⟩

theorem origin_of_openNode_eq_ok
    {directory : Path}
    {node : Node}
    {key : MasterKey}
    (opened : openNode directory node = .ok key) :
    key.origin = .keyFile (filePath directory) := by
  obtain ⟨-, -, text, -, -, parsed⟩ := exists_text_of_openNode_eq_ok opened
  exact origin_of_parse_eq_ok parsed

/-- One file gives one key, whatever its directory is called. -/
theorem bytes_of_openNode_eq_ok
    {directory other : Path}
    {node : Node}
    {key otherKey : MasterKey}
    (opened : openNode directory node = .ok key)
    (openedAgain : openNode other node = .ok otherKey) :
    otherKey.bytes = key.bytes := by
  obtain ⟨mode, content, text, rfl, decoded, parsed⟩ := exists_text_of_openNode_eq_ok opened
  obtain ⟨_, _, otherText, same, decodedAgain, parsedAgain⟩ :=
    exists_text_of_openNode_eq_ok openedAgain
  obtain ⟨rfl, rfl⟩ := Node.file.inj same
  obtain rfl := Except.ok.inj (decoded.symm.trans decodedAgain)
  exact bytes_of_parse_eq_ok parsed parsedAgain

section Places

variable {files : FileSystem} {directory : Path}

theorem exists_locate_filePath
    (free : PrivateFile.lockOutcome files (filePath directory) = .ok ()) :
    ∃ place, files.reach directory = .ok place ∧
      files.locate (filePath directory) = .ok (fileName :: place) :=
  PrivateFile.exists_locate_of_lockOutcome isPlain_fileName free

theorem not_isLock_of_locate_filePath
    {location : Location}
    (located : files.locate (filePath directory) = .ok location) :
    ¬ PrivateFile.IsLock files (filePath directory) location :=
  PrivateFile.not_isLock_of_locate isPlain_fileName located

theorem mayTouch_of_isLock_filePath
    {location : Location}
    (isLock : PrivateFile.IsLock files (filePath directory) location) :
    PrivateFile.MayTouch directory fileName files location :=
  PrivateFile.mayTouch_of_isLock isPlain_fileName isLock

/-- Taking the lock leaves the key file as it is. -/
theorem keyNode?_of_lock_changes
    {changed : FileSystem}
    (changes : ChangesOnly (PrivateFile.IsLock files (filePath directory)) files changed) :
    keyNode? changed directory = keyNode? files directory := by
  have sameReach : changed.reach directory = files.reach directory :=
    PrivateFile.reach_of_changes (changes.mono fun _ => mayTouch_of_isLock_filePath) rfl
  cases reached : files.reach directory with
  | error failure => rw [keyNode?, keyNode?, sameReach, reached]
  | ok place =>
      rw [keyNode?_of_reach reached, keyNode?_of_reach (sameReach.trans reached)]
      apply changes.elsewhere
      intro isLock
      obtain ⟨lockPlace, -, same⟩ := PrivateFile.exists_place_of_isLock isPlain_fileName isLock
      exact PrivateFile.ne_lockName _ (List.cons.inj same).1

/-- A file put in the place of the key file is the key file. -/
theorem changes_insert_fileName
    {place : Location}
    (reached : files.reach directory = .ok place)
    (missing : keyNode? files directory = none)
    (mode : Nat)
    (content : Bytes) :
    keyNode? (files.insert (fileName :: place) (.file mode content)) directory =
        some (.file mode content) ∧
      ChangesOnly (PrivateFile.MayTouch directory fileName files) files
        (files.insert (fileName :: place) (.file mode content)) := by
  have noDirectory : files.requireDirectory (fileName :: place) ≠ .ok () := by
    rw [keyNode?_of_reach reached] at missing
    simp [requireDirectory, missing]
  have changes := ChangesOnly.insert_file noDirectory mode content
  refine ⟨?_, changes.mono ?_⟩
  · rw [keyNode?_of_reach (changes.reach_eq_ok reached), find?_insert_self]
  · rintro _ rfl
    exact ⟨place, reached, Or.inl rfl⟩

end Places

section Runs

variable {directory : Path} {machine : Machine}

/-- A new key takes the next bytes of the random source. -/
theorem run_generate (origin : KeyOrigin) (machine : Machine) :
    generate origin machine =
      match machine.random.draw 32 with
      | (none, rest) => (.error .generation, { machine with random := rest })
      | (some bytes, rest) => (.ok ⟨bytes, origin⟩, { machine with random := rest }) := by
  rw [generate, run_bind, Action.draw, Drawing.request]
  cases machine.random.draw 32 with
  | mk outcome rest => cases outcome <;> rfl

/-- Without the lock there is no key. -/
theorem run_ofDirectory_of_lockedOut
    {failure : IoError}
    (lockedOut : PrivateFile.lockOutcome machine.files (filePath directory) = .error failure) :
    ∃ locked,
      ofDirectory directory machine =
        (.error (.file (filePath directory) failure), { machine with files := locked }) ∧
      ChangesOnly (PrivateFile.IsLock machine.files (filePath directory)) machine.files locked := by
  obtain ⟨locked, ran, spares⟩ := PrivateFile.run_lock (filePath directory) machine
  have changes := spares.lockChanges
  rw [lockedOut] at ran
  exact ⟨locked, run_bind_of_error (Action.run_mapError_of_error ran), changes⟩

/-- What is in the place of the key file gives the key or not; it is not touched. -/
theorem run_ofDirectory_of_node
    {node : Node}
    (free : PrivateFile.lockOutcome machine.files (filePath directory) = .ok ())
    (found : keyNode? machine.files directory = some node) :
    ∃ locked,
      ofDirectory directory machine =
        (openNode directory node, { machine with files := locked }) ∧
      ChangesOnly (PrivateFile.IsLock machine.files (filePath directory)) machine.files locked := by
  obtain ⟨locked, ran, spares⟩ := PrivateFile.run_lock (filePath directory) machine
  have changes := spares.lockChanges
  rw [free] at ran
  obtain ⟨place, reached, located⟩ := exists_locate_filePath free
  rw [keyNode?_of_reach reached] at found
  have status : machine.files.status (filePath directory) = .ok node := by
    simp only [FileSystem.status, located, found]
  have stillThere := changes.status_eq_ok (fun _ => not_isLock_of_locate_filePath) status
  refine ⟨locked, ?_, changes⟩
  simp only [ofDirectory]
  rw [run_bind_of_ok (Action.run_mapError_of_ok ran), run_bind, Action.observe]
  cases node with
  | directory mode =>
      simp only [readText, FileSystem.read, stillThere]
      rfl
  | file mode content =>
      simp only [readText, FileSystem.read, stillThere, openNode]
      cases Utf8.decode content with
      | error fault => rfl
      | ok text => rfl

/-- Where there is no key file a new key is kept in one, unless there are no random bytes. -/
theorem run_ofDirectory_of_missing
    (free : PrivateFile.lockOutcome machine.files (filePath directory) = .ok ())
    (missing : keyNode? machine.files directory = none) :
    ∃ place locked,
      machine.files.reach directory = .ok place ∧
      ChangesOnly (PrivateFile.IsLock machine.files (filePath directory)) machine.files locked ∧
      ofDirectory directory machine =
        match machine.random.draw 32 with
        | (none, rest) => (.error .generation, { machine with random := rest, files := locked })
        | (some bytes, rest) =>
          (.ok ⟨bytes, .generated (filePath directory)⟩,
            { machine with
              random := rest
              files := locked.insert (fileName :: place) (.file PrivateFile.mode
                (encode ⟨bytes, .generated (filePath directory)⟩)) }) := by
  obtain ⟨locked, ran, spares⟩ := PrivateFile.run_lock (filePath directory) machine
  have changes := spares.lockChanges
  rw [free] at ran
  obtain ⟨place, reached, located⟩ := exists_locate_filePath free
  rw [keyNode?_of_reach reached] at missing
  have stillMissing : locked.find? (fileName :: place) = none := by
    rw [changes.elsewhere _ (not_isLock_of_locate_filePath located), missing]
  have stillLocated := changes.locate_eq_ok located
  refine ⟨place, locked, reached, changes, ?_⟩
  simp only [ofDirectory]
  rw [run_bind_of_ok (Action.run_mapError_of_ok ran), run_bind, Action.observe]
  simp only [readText, FileSystem.read, FileSystem.status, stillLocated, stillMissing]
  rw [run_bind, run_generate]
  cases machine.random.draw 32 with
  | mk outcome rest =>
      cases outcome with
      | none => rfl
      | some bytes =>
          have replaced : locked.replace (filePath directory) PrivateFile.mode
              (encode ⟨bytes, .generated (filePath directory)⟩) = _ :=
            replace_of_noDirectory stillLocated (by simp [requireDirectory, stillMissing]) _ _
          have putting : PrivateFile.put (filePath directory)
              (encode ⟨bytes, .generated (filePath directory)⟩)
              { machine with random := rest, files := locked } = _ :=
            PrivateFile.run_put isPlain_fileName (by decide)
              (PrivateFile.lockOutcome_of_changes changes free) _
          exact run_bind_of_ok
            (Action.run_mapError_of_ok (putting.trans (Action.run_changeFiles_of_ok replaced)))

end Runs

/-! ## What asking for a key does -/

/-- The key that an explicit value gives, if there is a value and it gives one. -/
def explicitKey? (explicit : Option Text) (files : FileSystem) : Option MasterKey :=
  explicit.bind fun value => (ofExplicit value files).toOption

/-- All that asking for the key of a directory can do to a machine: how it can end, and the machine
after it. -/
inductive Resolves (explicit : Option Text) (directory : Path) (before : Machine) :
    Except KeyError MasterKey → Machine → Prop
  /-- The explicit value gives the key, and nothing is touched. -/
  | given {key : MasterKey}
      (explicitly : explicitKey? explicit before.files = some key) :
      Resolves explicit directory before (.ok key) before
  /-- There is no key, and none is made. -/
  | failed {failure : KeyError} {random : RandomSource} {files : FileSystem}
      (notGiven : explicitKey? explicit before.files = none)
      (changes : ChangesOnly (PrivateFile.IsLock before.files (filePath directory)) before.files
        files) :
      Resolves explicit directory before (.error failure)
        { before with random := random, files := files }
  /-- The key is read from its file. -/
  | read {node : Node} {key : MasterKey} {files : FileSystem}
      (notGiven : explicitKey? explicit before.files = none)
      (free : PrivateFile.lockOutcome before.files (filePath directory) = .ok ())
      (found : keyNode? before.files directory = some node)
      (opened : openNode directory node = .ok key)
      (changes : ChangesOnly (PrivateFile.IsLock before.files (filePath directory)) before.files
        files) :
      Resolves explicit directory before (.ok key) { before with files := files }
  /-- A new key is kept where there was no file. -/
  | made {bytes : FixedBytes 32} {rest : RandomSource} {files : FileSystem}
      (notGiven : explicitKey? explicit before.files = none)
      (free : PrivateFile.lockOutcome before.files (filePath directory) = .ok ())
      (missing : keyNode? before.files directory = none)
      (kept : keyNode? files directory = some (.file PrivateFile.mode
        (encode ⟨bytes, .generated (filePath directory)⟩)))
      (changes : ChangesOnly (PrivateFile.MayTouch directory fileName before.files) before.files
        files) :
      Resolves explicit directory before (.ok ⟨bytes, .generated (filePath directory)⟩)
        { before with random := rest, files := files }

section Resolving

variable {explicit : Option Text} {directory : Path} {machine : Machine}

theorem run_ofDirectoryOr_of_explicitKey?
    {key : MasterKey}
    (given : explicitKey? explicit machine.files = some key) :
    ofDirectoryOr explicit directory machine = (.ok key, machine) := by
  obtain ⟨value, rfl, opened⟩ := Option.bind_eq_some_iff.mp given
  have read : ofExplicit value machine.files = .ok key := by
    cases known : ofExplicit value machine.files with
    | error failure =>
        rw [known] at opened
        cases opened
    | ok read =>
        rw [known] at opened
        rw [Option.some.inj opened]
  rw [ofDirectoryOr, Action.orElse, Action.lookFiles, read]

theorem run_ofDirectoryOr_of_notGiven
    (notGiven : explicitKey? explicit machine.files = none) :
    ofDirectoryOr explicit directory machine = ofDirectory directory machine := by
  cases explicit with
  | none => rfl
  | some value =>
      rw [ofDirectoryOr, Action.orElse, Action.lookFiles]
      cases known : ofExplicit value machine.files with
      | error failure => rfl
      | ok key => simp [explicitKey?, known, Except.toOption] at notGiven

/-- Asking for a key does one of these things. -/
theorem resolves_ofDirectoryOr
    (explicit : Option Text)
    (directory : Path)
    (machine : Machine) :
    Resolves explicit directory machine (ofDirectoryOr explicit directory machine).1
      (ofDirectoryOr explicit directory machine).2 := by
  cases given : explicitKey? explicit machine.files with
  | some key =>
      rw [run_ofDirectoryOr_of_explicitKey? given]
      exact .given given
  | none =>
      rw [run_ofDirectoryOr_of_notGiven given]
      cases lockable : PrivateFile.lockOutcome machine.files (filePath directory) with
      | error failure =>
          obtain ⟨locked, ran, changes⟩ := run_ofDirectory_of_lockedOut lockable
          rw [ran]
          exact .failed given changes
      | ok =>
          cases found : keyNode? machine.files directory with
          | some node =>
              obtain ⟨locked, ran, changes⟩ := run_ofDirectory_of_node lockable found
              rw [ran]
              cases opened : openNode directory node with
              | error failure => exact .failed given changes
              | ok key => exact .read given lockable found opened changes
          | none =>
              obtain ⟨place, locked, reached, changes, ran⟩ :=
                run_ofDirectory_of_missing lockable found
              rw [ran]
              cases machine.random.draw 32 with
              | mk outcome rest =>
                  cases outcome with
                  | none => exact .failed given changes
                  | some bytes =>
                      have wider := changes.mono fun _ => mayTouch_of_isLock_filePath
                      have sameReach := PrivateFile.reach_of_changes wider rfl
                      obtain ⟨kept, putChanges⟩ := changes_insert_fileName
                        (sameReach.trans reached) ((keyNode?_of_lock_changes changes).trans found)
                        PrivateFile.mode (encode ⟨bytes, .generated (filePath directory)⟩)
                      rw [PrivateFile.mayTouch_of_changes wider] at putChanges
                      exact .made given lockable found kept (wider.trans putChanges)

end Resolving

namespace Resolves

variable {explicit : Option Text} {directory : Path} {before after : Machine}
  {outcome : Except KeyError MasterKey}

/-- Asking for a key touches the key file and its lock and nothing else. -/
theorem changes
    (resolves : Resolves explicit directory before outcome after) :
    ChangesOnly (PrivateFile.MayTouch directory fileName before.files) before.files
      after.files := by
  cases resolves with
  | given => exact .refl _
  | failed _ changes => exact changes.mono fun _ => mayTouch_of_isLock_filePath
  | read _ _ _ _ changes => exact changes.mono fun _ => mayTouch_of_isLock_filePath
  | made _ _ _ _ changes => exact changes

theorem environment_eq
    (resolves : Resolves explicit directory before outcome after) :
    after.environment = before.environment := by
  cases resolves <;> rfl

/-- A key file that is there stays as it is. -/
theorem keyNode?_eq_some
    {node : Node}
    (resolves : Resolves explicit directory before outcome after)
    (found : keyNode? before.files directory = some node) :
    keyNode? after.files directory = some node := by
  cases resolves with
  | given => exact found
  | failed _ changes => rwa [keyNode?_of_lock_changes changes]
  | read _ _ _ _ changes => rwa [keyNode?_of_lock_changes changes]
  | made _ _ missing =>
      rw [missing] at found
      cases found

/-- A key file that has come into being holds the key that is handed out. -/
theorem exists_generated
    {node : Node}
    (resolves : Resolves explicit directory before outcome after)
    (missing : keyNode? before.files directory = none)
    (found : keyNode? after.files directory = some node) :
    ∃ key : MasterKey, outcome = .ok key ∧ key.origin = .generated (filePath directory) ∧
      node = .file PrivateFile.mode key.encode := by
  cases resolves with
  | given =>
      rw [missing] at found
      cases found
  | failed _ changes =>
      rw [keyNode?_of_lock_changes changes, missing] at found
      cases found
  | read _ _ there =>
      rw [missing] at there
      cases there
  | made _ _ _ kept =>
      obtain rfl := Option.some.inj (found.symm.trans kept)
      exact ⟨_, rfl, rfl, rfl⟩

/-- Without the lock only an explicit value gives a key. -/
theorem explicitKey?_of_lockedOut
    {key : MasterKey}
    {failure : IoError}
    (resolves : Resolves explicit directory before (.ok key) after)
    (lockedOut : PrivateFile.lockOutcome before.files (filePath directory) = .error failure) :
    explicitKey? explicit before.files = some key ∧ after = before := by
  cases resolves with
  | given explicitly => exact ⟨explicitly, rfl⟩
  | read _ free => cases lockedOut.symm.trans free
  | made _ free => cases lockedOut.symm.trans free

/-- A key that is not given explicitly can be read from the key file afterwards. -/
theorem exists_openNode_eq_ok
    {key : MasterKey}
    (resolves : Resolves explicit directory before (.ok key) after)
    (notGiven : explicitKey? explicit before.files = none) :
    ∃ node, keyNode? after.files directory = some node ∧
      openNode directory node = .ok { key with origin := .keyFile (filePath directory) } := by
  cases resolves with
  | given explicitly =>
      rw [notGiven] at explicitly
      cases explicitly
  | read _ _ found opened changes =>
      refine ⟨_, (keyNode?_of_lock_changes changes).trans found, ?_⟩
      rw [opened, ← origin_of_openNode_eq_ok opened]
  | made _ _ _ kept => exact ⟨_, kept, openNode_encode _ _ _⟩

/-- A key that is not given explicitly is read from the key file if there is one. -/
theorem openNode_eq_ok
    {node : Node}
    {key : MasterKey}
    (resolves : Resolves explicit directory before (.ok key) after)
    (notGiven : explicitKey? explicit before.files = none)
    (found : keyNode? before.files directory = some node) :
    openNode directory node = .ok key ∧ after.random = before.random := by
  cases resolves with
  | given explicitly =>
      rw [notGiven] at explicitly
      cases explicitly
  | read _ _ there opened =>
      obtain rfl := Option.some.inj (found.symm.trans there)
      exact ⟨opened, rfl⟩
  | made _ _ missing =>
      rw [missing] at found
      cases found

end Resolves
end MasterKey
end Lockbox
