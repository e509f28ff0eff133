import Lockbox.CommandLine.Program

/-!
# The command line

The program as people run it. What a run may look at is read into a machine first: the variables,
random bytes, the first line of the standard input where it is wanted, and what there is on the way
to every path that the run may use. The run itself is pure. What it has changed is written back
before its output is printed, so nothing is reported that has not been done.

No keyring is within reach of this program, so that every keyring it sees is locked. Two runs at the
same time are not kept apart.
-/

namespace Lockbox
namespace Host

/-- The variables that a run looks at. -/
def variableNames : List String :=
  ["HOME", "XDG_DATA_HOME", "XDG_CONFIG_HOME", "TMPDIR", Settings.directoryVariable,
    Settings.masterKeyVariable]

/-- The variables that are set. -/
def readEnvironment : IO Environment :=
  variableNames.filterMapM fun name => do
    return (← IO.getEnv name).map fun value => (name.toList, value.toList)

/-- The number of random bytes that a command may request. -/
def randomNeed : CommandLine.Command → Nat
  | .keygen length => 2 * min length 0x1000000 + 0x1000
  | _ => 0x1000

/-- A source of fresh random bytes. -/
def readRandom (count : Nat) : IO RandomSource := do
  return [.bytes (← IO.getRandomBytes count.toUSize).toList]

/-- One line of a stream with its end, byte by byte, so that nothing behind the line is taken. -/
def readLine (stream : IO.FS.Stream) : IO Bytes := do
  let mut line := #[]
  repeat
    match (← stream.read 1)[0]? with
    | none => break
    | some byte =>
      line := line.push byte
      if byte = 0x0A then break
  return line.toList

/-- The input that a command takes. -/
def readInput : CommandLine.Command → IO Bytes
  | .store _ none => do readLine (← IO.getStdin)
  | _ => return []

/-- The path of a place. -/
def pathOf (location : Location) : String :=
  String.ofList ('/' :: List.intercalate ['/'] location.reverse)

/-- What there is at a place. Permissions are not looked up: those assumed here are never the ones
of a private file or directory, so every change to those shows. -/
def nodeAt (location : Location) : IO (Option Node) := do
  match ← (IO.FS.readBinFile (pathOf location)).toBaseIO with
  | .ok content => return some (.file FileSystem.fileMode content.toList)
  | .error (.noFileOrDirectory ..) => return none
  | .error (.inappropriateType ..) => return some (.directory FileSystem.directoryMode)
  | .error failure => throw failure

/-- The tree with what there is on the way along the parts of a path. -/
def surveyParts : FileSystem → Location → List Text → IO FileSystem
  | files, _, [] => return files
  | files, location, part :: rest => do
    if Path.isIdle part then surveyParts files location rest
    else if part = ['.', '.'] then surveyParts files location.tail rest
    else if FileSystem.maximumName < Text.byteLength part then return files
    else
      match ← nodeAt (part :: location) with
      | none => return files
      | some node =>
        let extended := files.insert (part :: location) node
        if node.isDirectory then surveyParts extended (part :: location) rest else return extended

/-- The tree with what there is on the way along a path. -/
def survey (files : FileSystem) (path : Path) : IO FileSystem :=
  match FileSystem.checkPath path with
  | .error _ => return files
  | .ok () => surveyParts files (files.startOf path) (Path.parts path)

/-- A tree with the working directory and those above it. -/
def readWorkingDirectory : IO FileSystem := do
  let path := (← IO.currentDir).toString.toList
  let location := (Path.parts path).reverse.filter fun part => !Path.isIdle part
  survey { entries := [], workingDirectory := location } path

/-- The identity whose secret a command uses. -/
def identityOf? : CommandLine.Command → Option Identity
  | .store target _ => some (Identity.ofLabels target.service target.name)
  | .retrieve target => some (Identity.ofLabels target.service target.name)
  | .delete target => some (Identity.ofLabels target.service target.name)
  | .health => some CommandLine.trialIdentity
  | _ => none

/-- The paths that a store may use. -/
def storePaths (environment : Environment) (settings : Settings) (identity : Identity) :
    List Path :=
  let directories :=
    [settings.secretsDirectory.getD environment.secretsDirectory, environment.spareDirectory]
  let contents := directories.flatMap fun directory =>
    [MasterKey.filePath directory, Path.join directory identity.fileName]
  contents ++ contents.map PrivateFile.lockPath ++ (settings.masterKey.map Text.trim).toList

/-- The tree as far as a command may use it. -/
def readFiles (environment : Environment) (command : CommandLine.Command) : IO FileSystem := do
  let files ← survey (← readWorkingDirectory) environment.configFile
  match identityOf? command, Config.ofFile environment.configFile files with
  | some identity, .ok config =>
    (storePaths environment (CommandLine.settingsOf config environment) identity).foldlM survey
      files
  | _, _ => return files

/-- A keyring that opens entries but lets none of them be read. -/
def lockedKeyring : KeyringFaults where
  reading _ := some "Couldn't access platform secure storage: locked"

/-- The machine as a command finds it. -/
def readMachine (command : CommandLine.Command) : IO Machine := do
  let environment ← readEnvironment
  return {
    files := ← readFiles environment command
    environment := environment
    random := ← readRandom (randomNeed command)
    keyring := { faults := lockedKeyring }
    input := ← readInput command }

/-- Three bits of permissions. -/
def accessRight (bits : Nat) : IO.AccessRight where
  read := bits / 4 % 2 = 1
  write := bits / 2 % 2 = 1
  execution := bits % 2 = 1

/-- Permissions for the owner, the group and all others. -/
def fileRight (mode : Nat) : IO.FileRight where
  user := accessRight (mode / 64)
  group := accessRight (mode / 8)
  other := accessRight mode

/-- A file is written beside its place, with its permissions before its content, and then moved
there. -/
def writeFile (location : Location) (mode : Nat) (content : Bytes) : IO Unit := do
  let draft := pathOf (".lockbox-draft".toList :: location.tail)
  IO.FS.writeBinFile draft ⟨#[]⟩
  IO.setAccessRights draft (fileRight mode)
  IO.FS.writeBinFile draft ⟨content.toArray⟩
  IO.FS.rename draft (pathOf location)

/-- What was at a place becomes what is to be there. -/
def writeNode (location : Location) (before : Option Node) (after : Node) : IO Unit :=
  match before, after with
  | none, .directory mode => do
    IO.FS.createDir (pathOf location)
    IO.setAccessRights (pathOf location) (fileRight mode)
  | some (.file _ old), .file mode content =>
    if old = content then IO.setAccessRights (pathOf location) (fileRight mode)
    else writeFile location mode content
  | _, .directory mode => IO.setAccessRights (pathOf location) (fileRight mode)
  | _, .file mode content => writeFile location mode content

/-- The changes from one tree to another: what is there now, from the root on, and then what is
gone. -/
def writeChanges (before after : FileSystem) : IO Unit := do
  for (location, node) in after.entries.mergeSort fun one two => one.1.length ≤ two.1.length do
    if before.find? location != some node then writeNode location (before.find? location) node
  for (location, _) in before.entries do
    if (after.find? location).isNone then IO.FS.removeFile (pathOf location)

/-- What is said about a run that did not succeed. -/
def report : CommandLine.Outcome → IO Unit
  | .success => return ()
  | .misused => IO.eprint (String.ofList CommandLine.helpText)
  | .failed failure => IO.eprintln ("Error: " ++ "\nCaused by: ".intercalate failure.chain)

/-- The machine before a run. A run that is about no command looks at nothing. -/
def machineFor (arguments : List Text) : IO Machine :=
  match CommandLine.parse arguments with
  | some (.run command) => readMachine command
  | _ => return { files := { entries := [], workingDirectory := [] } }

/-- A run of the program and its exit code. -/
def run (arguments : List Text) : IO UInt32 := do
  let machine ← machineFor arguments
  let (outcome, after) := CommandLine.run arguments machine
  writeChanges machine.files after.files
  IO.print (String.ofList after.output)
  report outcome
  return outcome.exitCode.toUInt32

end Host
end Lockbox

/-- The program. -/
def main (arguments : List String) : IO UInt32 :=
  Lockbox.Host.run (arguments.map String.toList)
