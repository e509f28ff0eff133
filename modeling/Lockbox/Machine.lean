import Lockbox.FileSystem.Directories
import Lockbox.FileSystem.Files
import Lockbox.Generator
import Lockbox.Keyring
import Lockbox.Settings

/-!
# The machine

All that a program can see and change: files, variables, randomness, the keyring, and its own
standard input and output. An action may fail; what it has done before stays done.
-/

namespace Lockbox

/-- The state of the world around a program. -/
structure Machine where
  files : FileSystem
  environment : Environment := []
  random : RandomSource := []
  generator : Generator := {}
  /-- What stores in memory keep, one cell for each. -/
  cells : List (Option Bytes) := []
  keyring : Keyring := {}
  input : Bytes := []
  output : Text := []

/-- What a program does to the machine, and how that can fail. -/
abbrev Action (ε α : Type) := ExceptT ε (StateM Machine) α

namespace Action

/-- A look at the machine. -/
def observe {ε α : Type} (view : Machine → α) : Action ε α := fun machine =>
  (.ok (view machine), machine)

/-- A computation that draws from the random source of the machine. -/
def draw {ε α : Type} (drawing : Drawing ε α) : Action ε α := fun machine =>
  let (outcome, rest) := drawing machine.random
  (outcome, { machine with random := rest })

/-- A change of the files that happens wholly or not at all. -/
def changeFiles (change : FileSystem → Except IoError FileSystem) : Action IoError Unit :=
  fun machine =>
    match change machine.files with
    | .ok changed => (.ok (), { machine with files := changed })
    | .error failure => (.error failure, machine)

/-- A change of the files that may stop half-way. -/
def tryFiles {α : Type} (change : FileSystem → Except IoError α × FileSystem) :
    Action IoError α := fun machine =>
  let (outcome, changed) := change machine.files
  (outcome, { machine with files := changed })

/-- A look at the files that may fail. -/
def lookFiles {ε α : Type} (look : FileSystem → Except ε α) : Action ε α := fun machine =>
  (look machine.files, machine)

/-- A computation that has nothing to do with the machine. -/
def lift {ε α : Type} (outcome : Except ε α) : Action ε α := fun machine =>
  (outcome, machine)

/-- A call of the keyring, which may fail. -/
def tryKeyring {ε α : Type} (change : Keyring → Except ε α × Keyring) : Action ε α := fun machine =>
  let (outcome, changed) := change machine.keyring
  (outcome, { machine with keyring := changed })

/-- An action whose failures are looked at like any other outcome. -/
def attempt {ε ε' α : Type} (action : Action ε α) : Action ε' (Except ε α) := fun machine =>
  let (outcome, after) := action machine
  (.ok outcome, after)

/-- An action whose failures are told in another way. -/
def mapError {ε ε' α : Type} (retell : ε → ε') (action : Action ε α) : Action ε' α := fun machine =>
  let (outcome, after) := action machine
  (outcome.mapError retell, after)

/-- An action in whose place another one is taken when it fails. -/
def orElse {ε ε' α : Type} (first : Action ε α) (second : ε → Action ε' α) : Action ε' α :=
  fun machine =>
    match first machine with
    | (.ok value, after) => (.ok value, after)
    | (.error failure, after) => second failure after

/-- The number of a new cell, which keeps nothing yet. -/
def newCell {ε : Type} : Action ε Nat := fun machine =>
  (.ok machine.cells.length, { machine with cells := machine.cells ++ [none] })

/-- A cell keeps something else from now on. -/
def setCell {ε : Type} (cell : Nat) (kept : Option Bytes) : Action ε Unit := fun machine =>
  (.ok (), { machine with cells := machine.cells.set cell kept })

/-- A line of output. -/
def printLine {ε : Type} (line : Text) : Action ε Unit := fun machine =>
  (.ok (), { machine with output := machine.output ++ line ++ ['\n'] })

end Action
end Lockbox
