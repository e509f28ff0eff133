import Lockbox.Config.File
import Lockbox.Proofs.Config.RoundTrip
import Lockbox.Proofs.FileSystem.Growth
import Lockbox.Proofs.PrivateFile
import Lockbox.Proofs.Text.Utf8

/-!
# The file of a configuration

Writing a configuration where there is none makes the directories above it and then the file
(`Writes`). What is written is loaded again, a second attempt changes nothing, and what was there
stays, unless the path climbs out of a directory that is made only for it
(`writeIfMissing_invisible`).
-/

namespace Lockbox
namespace Config

open FileSystem

variable {config other : Config} {path : Path} {before after : FileSystem}
  {outcome : Except IoError Unit}

/-! ## Loading -/

/-- The text of a configuration is not blank. -/
theorem toText_not_blank (config : Config) :
    config.toText.all Text.isBlank = false := by
  rw [toText_eq]
  cases config.secretsDirectory with
  | none => rfl
  | some directory => rfl

/-- A configuration is loaded from a file of its text. -/
theorem ofFile_of_status
    {mode : Nat}
    (found : before.status path = .ok (.file mode (Utf8.encode config.toText))) :
    ofFile path before = .ok config := by
  have read : before.readText path = .ok config.toText := by
    simp only [readText, FileSystem.read, found, Utf8.decode_encode]
  have there : before.pathExists path = true := by rw [pathExists, found]
  simp only [ofFile, there, if_true, read, toText_not_blank, Bool.false_eq_true, if_false,
    parse?_toText]

/-! ## Writing -/

/-- All that writing a configuration can do to the files. -/
inductive Writes (config : Config) (path : Path) (before : FileSystem) :
    Except IoError Unit → FileSystem → Prop
  /-- Something is there already. -/
  | there
      (found : before.pathExists path = true) :
      Writes config path before (.ok ()) before
  /-- The directories cannot all be made. -/
  | notMade {failure : IoError} {made : FileSystem}
      (missing : before.pathExists path = false)
      (making : before.createAbove path = (.error failure, made)) :
      Writes config path before (.error failure) made
  /-- The directories are made, but the file cannot be written. -/
  | notWritten {failure : IoError} {made : FileSystem}
      (missing : before.pathExists path = false)
      (making : before.createAbove path = (.ok (), made))
      (writing : made.write path (Utf8.encode config.toText) = .error failure) :
      Writes config path before (.error failure) made
  /-- The directories are made and the file is written. -/
  | written {made changed : FileSystem}
      (missing : before.pathExists path = false)
      (making : before.createAbove path = (.ok (), made))
      (writing : made.write path (Utf8.encode config.toText) = .ok changed) :
      Writes config path before (.ok ()) changed

/-- Writing a configuration does one of these things. -/
theorem run_writeIfMissing
    (config : Config)
    (path : Path)
    (machine : Machine) :
    ∃ outcome changed,
      config.writeIfMissing path machine = (outcome, { machine with files := changed }) ∧
      Writes config path machine.files outcome changed := by
  simp only [writeIfMissing]
  rw [run_bind, Action.observe]
  dsimp only
  cases known : machine.files.pathExists path with
  | true => exact ⟨.ok (), machine.files, rfl, .there known⟩
  | false =>
      rw [if_neg Bool.false_ne_true, run_bind, Action.tryFiles]
      dsimp only
      cases making : machine.files.createAbove path with
      | mk outcome made =>
          cases outcome with
          | error failure => exact ⟨.error failure, made, rfl, .notMade known making⟩
          | ok =>
              dsimp only
              cases writing : made.write path (Utf8.encode config.toText) with
              | error failure =>
                  exact ⟨.error failure, made, Action.run_changeFiles_of_error writing,
                    .notWritten known making writing⟩
              | ok changed =>
                  exact ⟨.ok (), changed, Action.run_changeFiles_of_ok writing,
                    .written known making writing⟩

namespace Writes

/-- A configuration that has been written is loaded. -/
theorem ofFile_of_missing
    (writes : Writes config path before (.ok ()) after)
    (missing : before.pathExists path = false) :
    ofFile path after = .ok config := by
  cases writes with
  | there found =>
      rw [found] at missing
      cases missing
  | written _ making writing =>
      obtain ⟨location, mode, located, found, changes⟩ := changes_of_write writing
      have status : after.status path = .ok (.file mode (Utf8.encode config.toText)) := by
        simp only [FileSystem.status, changes.locate_eq_ok located, found]
      exact ofFile_of_status status

/-- Writing the configuration that is loaded cannot be told from what is loaded. -/
theorem ofFile_eq_ok
    (writes : Writes config path before (.ok ()) after)
    (loaded : ofFile path before = .ok config) :
    ofFile path after = .ok config := by
  cases known : before.pathExists path with
  | false => exact writes.ofFile_of_missing known
  | true =>
      cases writes with
      | there => exact loaded
      | written missing =>
          rw [known] at missing
          cases missing

/-- Where something is, nothing is written. -/
theorem of_pathExists
    (writes : Writes config path before outcome after)
    (found : before.pathExists path = true) :
    outcome = .ok () ∧ after = before := by
  cases writes with
  | there => exact ⟨rfl, rfl⟩
  | notMade missing => cases found.symm.trans missing
  | notWritten missing => cases found.symm.trans missing
  | written missing => cases found.symm.trans missing

/-- Writing that has succeeded leaves something to which the path leads. -/
theorem pathExists_after
    (writes : Writes config path before (.ok ()) after) :
    after.pathExists path = true := by
  cases writes with
  | there found => exact found
  | written _ _ writing => exact pathExists_of_write writing

/-- Writing once more leaves everything as it is, whether the first attempt succeeded or not. -/
theorem again
    {second : Except IoError Unit}
    {final : FileSystem}
    (writes : Writes config path before outcome after)
    (writesAgain : Writes other path after second final) :
    final = after := by
  cases writes with
  | there found => exact (writesAgain.of_pathExists found).2
  | notMade _ making =>
      obtain ⟨outcome, sameMaking, sameOutcome⟩ := createAbove_again making
      cases writesAgain with
      | there => rfl
      | notMade _ makingAgain => exact (Prod.mk.inj (sameMaking.symm.trans makingAgain)).2.symm
      | notWritten _ makingAgain => exact (Prod.mk.inj (sameMaking.symm.trans makingAgain)).2.symm
      | written _ makingAgain =>
          cases sameOutcome (Prod.mk.inj (sameMaking.symm.trans makingAgain)).1
  | notWritten _ making writing =>
      obtain ⟨outcome, sameMaking, -⟩ := createAbove_again making
      cases writesAgain with
      | there => rfl
      | notMade _ makingAgain => exact (Prod.mk.inj (sameMaking.symm.trans makingAgain)).2.symm
      | notWritten _ makingAgain => exact (Prod.mk.inj (sameMaking.symm.trans makingAgain)).2.symm
      | written _ makingAgain writingAgain =>
          obtain rfl := (Prod.mk.inj (sameMaking.symm.trans makingAgain)).2
          cases (write_eq_error writing _).symm.trans writingAgain
  | written _ _ writing => exact (writesAgain.of_pathExists (pathExists_of_write writing)).2

/-- All that is there stays, except perhaps in the place to which the path leads only when the
directories above it have been made. -/
theorem find?_eq_some
    {location : Location}
    {node : Node}
    (writes : Writes config path before outcome after)
    (found : before.find? location = some node) :
    after.find? location = some node ∨
      before.pathExists path = false ∧ (before.createAbove path).2.locate path = .ok location := by
  cases writes with
  | there => exact .inl found
  | notMade _ making =>
      have grows := grows_createAbove before path
      rw [making] at grows
      exact .inl (grows.find?_eq_some found)
  | notWritten _ making =>
      have grows := grows_createAbove before path
      rw [making] at grows
      exact .inl (grows.find?_eq_some found)
  | written missing making writing =>
      have grows := grows_createAbove before path
      rw [making] at grows ⊢
      obtain ⟨target, mode, located, -, changes⟩ := changes_of_write writing
      by_cases here : location = target
      · exact .inr ⟨missing, here ▸ located⟩
      · exact .inl ((changes.elsewhere location here).trans (grows.find?_eq_some found))

/-- In a tree all that is there stays, if the path climbs only out of directories that are there. -/
theorem find?_eq_some_of_tree
    {location : Location}
    {node : Node}
    (writes : Writes config path before outcome after)
    (tree : before.IsTree)
    (climbs : before.ClimbsFromThere (before.startOf path) (Path.parts path))
    (found : before.find? location = some node) :
    after.find? location = some node := by
  rcases writes.find?_eq_some found with kept | ⟨missing, located⟩
  · exact kept
  · have locatedBefore := (grows_createAbove before path).locate_eq_ok tree climbs found located
    rw [pathExists, FileSystem.status, locatedBefore] at missing
    simp [found] at missing

end Writes

/-- A configuration is read back from its text, and writing it where there is none cannot be told
from what is loaded. Either it fails, or what was loaded is loaded from then on. Writing another one
afterwards changes nothing, and succeeds if the first attempt has. All that was there before stays,
except perhaps in the place to which the path leads only when the directories above it have been
made; so all of it stays if the files form a tree and the path climbs only out of directories that
are there. Where nothing is and writing succeeds, the configuration is loaded from then on, whatever
it is. -/
theorem writeIfMissing_invisible
    (config : Config)
    (path : Path)
    (before : Machine) :
    let run := config.writeIfMissing path before
    parse? config.toText = some config ∧
    (ofFile path before.files = .ok config →
      (∃ failure, run.1 = .error failure) ∨ ofFile path run.2.files = .ok config) ∧
    (∀ other : Config,
      (other.writeIfMissing path run.2).2 = run.2 ∧
        (run.1 = .ok () → (other.writeIfMissing path run.2).1 = .ok ())) ∧
    (∀ location node, before.files.find? location = some node →
      run.2.files.find? location = some node ∨
        before.files.pathExists path = false ∧
          (before.files.createAbove path).2.locate path = .ok location) ∧
    (before.files.IsTree →
      before.files.ClimbsFromThere (before.files.startOf path) (Path.parts path) →
      ∀ location node, before.files.find? location = some node →
        run.2.files.find? location = some node) ∧
    (before.files.pathExists path = false → run.1 = .ok () →
      ofFile path run.2.files = .ok config) := by
  intro run
  obtain ⟨outcome, changed, ran, writes⟩ := run_writeIfMissing config path before
  have same : run = (outcome, { before with files := changed }) := ran
  rw [same]
  refine ⟨parse?_toText config, ?_, ?_, ?_, ?_, ?_⟩
  · intro loaded
    cases outcome with
    | error failure => exact .inl ⟨failure, rfl⟩
    | ok => exact .inr (writes.ofFile_eq_ok loaded)
  · intro other
    obtain ⟨second, final, ranAgain, writesAgain⟩ :=
      run_writeIfMissing other path { before with files := changed }
    rw [ranAgain, writes.again writesAgain]
    refine ⟨rfl, ?_⟩
    rintro rfl
    exact (writesAgain.of_pathExists writes.pathExists_after).1
  · exact fun location node found => writes.find?_eq_some found
  · exact fun tree climbs location node found => writes.find?_eq_some_of_tree tree climbs found
  · rintro missing rfl
    exact writes.ofFile_of_missing missing

/-- A directory of secrets with quotes, a backslash and a line end, and a note that is no
configuration. -/
theorem writeIfMissing_invisible_sample :
    let config : Config := { secretsDirectory := "a\"b\\c\r\n".toList, keySource := .keyring }
    let note := Node.file 0o600 [0x68, 0x69]
    let before : Machine :=
      { files := { entries := [(["note".toList], note)], workingDirectory := [] } }
    let path := "/x/config.toml".toList
    parse? config.toText = some config ∧
      ofFile path (writeIfMissing {} path before).2.files = .ok {} ∧
      (config.writeIfMissing path (writeIfMissing {} path before).2) =
        (.ok (), (writeIfMissing {} path before).2) ∧
      (writeIfMissing {} path before).2.files.find? ["note".toList] = some note ∧
      ofFile path (config.writeIfMissing path before).2.files = .ok config := by
  intro config note before path
  have succeeded : (writeIfMissing {} path before).1 = .ok () := by decide +kernel
  obtain ⟨-, loads, again, -, stays, -⟩ := writeIfMissing_invisible {} path before
  obtain ⟨readBack, -, -, -, -, written⟩ := writeIfMissing_invisible config path before
  refine ⟨readBack, ?_, ?_, ?_, written (by decide +kernel) (by decide +kernel)⟩
  · refine (loads (by decide +kernel)).resolve_left ?_
    rintro ⟨failure, failed⟩
    cases succeeded.symm.trans failed
  · exact Prod.ext ((again config).2 succeeded) (again config).1
  · exact stays (by decide +kernel) (climbsFromThere_of_not_mem (by decide +kernel)) _ _
      (by decide +kernel)

/-- A configuration that was there is lost: the path leads to it only out of a directory that is
made for it, so that it is not seen at first. -/
theorem writeIfMissing_overwrites :
    let before : Machine :=
      { files :=
          { entries :=
              [(["config.toml".toList, ['b']],
                  .file 0o644 (Utf8.encode "key_source = \"keyring\"\n".toList)),
                ([['b']], .directory 0o755)]
            workingDirectory := [] } }
    let run := writeIfMissing {} "/a/../b/config.toml".toList before
    before.files.IsTree ∧
      ofFile "/a/../b/config.toml".toList before.files = .ok {} ∧
      ofFile "/b/config.toml".toList before.files = .ok { keySource := .keyring } ∧
      run.1 = .ok () ∧
      ofFile "/b/config.toml".toList run.2.files = .ok {} ∧
      run.2.files.content? ["config.toml".toList, ['b']] ≠
        before.files.content? ["config.toml".toList, ['b']] := by
  decide +kernel

end Config
end Lockbox
