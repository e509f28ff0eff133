import Lockbox.Text.Utf8

/-!
# Keyrings

A keyring keeps texts under a service and an account. It is not part of this library, and any of its
calls may go wrong: an entry may not open, a read may fail, and a write may fail or, worse, keep
nothing or something else than what it was given. What goes wrong is up to the keyring, call by
call.
-/

namespace Lockbox

/-- Why an operation on a keyring fails. -/
inductive KeyringError
  | noEntry
  | notText
  /-- Anything else, in the words of the keyring. -/
  | failed (wording : String)
  deriving DecidableEq, Repr

namespace KeyringError

/-- The wording of a failure. -/
def message : KeyringError → String
  | noEntry => "No matching entry found in secure storage"
  | notText => "Data is not UTF-8 encoded"
  | failed wording => wording

end KeyringError

/-- How a keyring deals with a secret that it does not keep as it should. -/
structure WriteFault where
  /-- What the keyring says against it, if anything. -/
  failure : Option String := none
  /-- What the keyring keeps instead. If nothing, then it keeps what it kept before. -/
  kept : Option Bytes := none
  deriving DecidableEq, Repr

/-- The faults of a keyring: which of its calls go wrong, and how. Calls are numbered from the
first, so each of them can go wrong on its own. A call that reads is never wrong about what the
keyring keeps, and a missing entry is not a fault. -/
structure KeyringFaults where
  opening : Nat → Option String := fun _ => none
  reading : Nat → Option String := fun _ => none
  writing : Nat → Option WriteFault := fun _ => none

/-- The name of an entry of a keyring. -/
structure KeyringName where
  service : Text
  account : Text
  deriving DecidableEq, Repr

/-- A keyring: its faults, how many calls it has had, and what it keeps. -/
structure Keyring where
  faults : KeyringFaults := {}
  calls : Nat := 0
  entries : List (KeyringName × Bytes) := []

namespace Keyring

/-- What a keyring keeps under a name. -/
def find? (keyring : Keyring) (name : KeyringName) : Option Bytes :=
  List.lookup name keyring.entries

/-- A keyring that keeps something under a name, in place of what it kept. -/
def keep (keyring : Keyring) (name : KeyringName) (secret : Bytes) : Keyring :=
  { keyring with
    entries := (name, secret) :: keyring.entries.filter fun entry => entry.1 != name }

/-- A keyring that has had one more call. -/
def called (keyring : Keyring) : Keyring :=
  { keyring with calls := keyring.calls + 1 }

/-- Whether an entry can be opened, and the keyring after that. Opening reads and writes nothing. -/
def openEntry (keyring : Keyring) : Except KeyringError Unit × Keyring :=
  match keyring.faults.opening keyring.calls with
  | some wording => (.error (.failed wording), keyring.called)
  | none => (.ok (), keyring.called)

/-- The text that a keyring keeps under a name. -/
def textOf (keyring : Keyring) (name : KeyringName) : Except KeyringError Text :=
  match keyring.find? name with
  | none => .error .noEntry
  | some secret =>
    match Utf8.decode secret with
    | .ok text => .ok text
    | .error _ => .error .notText

/-- The text of an entry, and the keyring after it has been read. -/
def read (keyring : Keyring) (name : KeyringName) : Except KeyringError Text × Keyring :=
  match keyring.faults.reading keyring.calls with
  | some wording => (.error (.failed wording), keyring.called)
  | none => (keyring.textOf name, keyring.called)

/-- What comes of writing a secret to an entry. -/
def write (keyring : Keyring) (name : KeyringName) (secret : Bytes) :
    Except KeyringError Unit × Keyring :=
  match keyring.faults.writing keyring.calls with
  | none => (.ok (), (keyring.keep name secret).called)
  | some fault =>
    let outcome := match fault.failure with
      | some wording => .error (.failed wording)
      | none => .ok ()
    let after := match fault.kept with
      | some other => keyring.keep name other
      | none => keyring
    (outcome, after.called)

end Keyring
end Lockbox
