import Lockbox.Base64.Runs
import Lockbox.CommandLine.Arguments
import Lockbox.CommandLine.Help
import Lockbox.Config.File
import Lockbox.Health

/-!
# The program

What each command does to the machine, and how a run of the program ends.
-/

namespace Lockbox
namespace CommandLine

/-- The version of the program. -/
def versionNumber : Text :=
  "0.1.0".toList

/-- The line that tells a version under a name. -/
def versionLine (name : Text) : Text :=
  name ++ [' '] ++ versionNumber

/-- The first line of an input without its end, which must be a text and not empty. -/
def readSecretLine (input : Bytes) : Except Failure Text :=
  match Utf8.decode (input.takeWhile (· != 0x0A)) with
  | .error _ => .error (.io .notText)
  | .ok line =>
    match trimEndWhile (· == '\r') line with
    | [] => .error .noSecretGiven
    | secret => .ok secret

/-- A text sealed exactly as it is. -/
def encryptText (codec : Codec) (data key : Text) : Drawing Failure Text := do
  let payload ← ExceptT.adapt Failure.codec (codec.sealText (Utf8.encode data) (Utf8.encode key))
  return Text.ofAscii payload

/-- The plaintext of a payload, or its Base64 form if it is no text. -/
def decryptText (data key : Text) : Except Failure Text :=
  match Codec.decrypt (Utf8.encode data) (Utf8.encode key) with
  | .error failure => .error (.codec failure)
  | .ok opened =>
    match Utf8.decode opened.plaintext with
    | .ok text => .ok text
    | .error _ => .ok (Text.ofAscii opened.encoded)

/-- The entry of the keyring that holds the master key. -/
def keyringName : KeyringName where
  service := "sealbox".toList
  account := "master-key".toList

/-- A store for an identity. An explicit master key leads past the keyring. -/
def openStore (config : Config) (identity : Identity) (settings : Settings) :
    Action Failure FileStore := do
  if config.keySource = .file ∨ settings.masterKey.isSome then
    Action.mapError (fun _ => .seedless) (FileStore.bootstrap identity settings config.codec)
  else
    let directory ← Directories.resolve settings.secretsDirectory
    let (store, _) ← Action.mapError .keyringStore
      (FileStore.openWith identity directory (.keyring keyringName) config.codec)
    return store

/-- The settings of a store, by the environment and, where that says nothing, the
configuration. -/
def settingsOf (config : Config) (environment : Environment) : Settings :=
  (Settings.ofEnvironment environment).orElse { secretsDirectory := config.secretsDirectory }

/-- A store for an identity, by the environment and the configuration. -/
def storeOf (config : Config) (identity : Identity) : Action Failure FileStore := do
  let environment ← Action.observe Machine.environment
  openStore config identity (settingsOf config environment)

/-- A store for the identity that a command is about. -/
def storeOfTarget (config : Config) (target : Target) : Action Failure FileStore :=
  storeOf config (Identity.ofLabels target.service target.name)

/-- The identity of the trial secret. -/
def trialIdentity : Identity :=
  Identity.ofLabels "sealbox".toList "health-check".toList

/-- What a command does. -/
def execute (config : Config) : Command → Action Failure Unit
  | .store target value => do
    let secret ←
      match value with
      | some secret => pure secret
      | none => do
        let input ← Action.observe Machine.input
        Action.lift (readSecretLine input)
    let store ← storeOfTarget config target
    Action.mapError .store (store.put secret)
    Action.printLine ("Stored ".toList ++ store.identity.display)
  | .retrieve target => do
    let store ← storeOfTarget config target
    let secret ← Action.mapError .store store.get
    Action.printLine secret
  | .delete target => do
    let store ← storeOfTarget config target
    Action.mapError .store store.delete
    Action.printLine ("Deleted ".toList ++ store.identity.display)
  | .encrypt key data => do
    let payload ← Action.draw (encryptText config.codec data key)
    Action.printLine payload
  | .decrypt key data => do
    let text ← Action.lift (decryptText data key)
    Action.printLine text
  | .keygen length => do
    let key ← Action.mapError .ofGeneration (Action.draw (Key.generateOnRequest length))
    Action.printLine (Text.ofAscii key)
  | .detect words =>
    (Base64.detect (List.intercalate [' '] words)).forM Action.printLine
  | .health => do
    Action.draw (Health.checkCodec config.codec)
    Action.printLine "Codec: ok".toList
    let store ← storeOf config trialIdentity
    Health.checkStore (.file store)
    Action.printLine ("Storage: ok (".toList ++ store.directory ++ [')'])
  | .establishConfig => do
    let path ← config.establish
    Action.printLine ("Config initialized at ".toList ++ path)
  | .version => Action.printLine (versionLine "sealbox".toList)

/-- How a run of the program ends. -/
inductive Outcome
  | success
  | failed (failure : Failure)
  /-- The arguments are at fault. -/
  | misused
  deriving DecidableEq, Repr

namespace Outcome

/-- The number that tells the caller how the run has ended. -/
def exitCode : Outcome → Nat
  | success => 0
  | failed .seedless => 101
  | failed .oversized => 101
  | failed _ => 1
  | misused => 2

end Outcome

/-- A run of the program: the arguments are read before the configuration, and that before any
command does something. -/
def run (arguments : List Text) (machine : Machine) : Outcome × Machine :=
  match parse arguments with
  | none => (.misused, machine)
  | some .showHelp => (.success, { machine with output := machine.output ++ helpText })
  | some (.showVersion name) =>
    (.success, { machine with output := machine.output ++ versionLine name ++ ['\n'] })
  | some (.run command) =>
    match (do execute (← Config.load) command : Action Failure Unit) machine with
    | (.ok (), after) => (.success, after)
    | (.error failure, after) => (.failed failure, after)

end CommandLine
end Lockbox
