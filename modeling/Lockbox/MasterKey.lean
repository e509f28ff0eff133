import Lockbox.Base64.Decode
import Lockbox.Cipher.Sha256
import Lockbox.Text.Quoted
import Lockbox.Text.Utf8

/-!
# Master keys

Thirty-two bytes from which the key of the codec is derived, and where they came from.
-/

namespace Lockbox

/-- Where a master key came from. -/
inductive KeyOrigin
  /-- An explicit value. -/
  | environment
  /-- A key file that was there. -/
  | keyFile (path : Text)
  /-- A new key, kept in a key file. -/
  | generated (path : Text)
  | keyring
  /-- Nowhere that would outlive the process. -/
  | ephemeral
  deriving DecidableEq, Repr

namespace KeyOrigin

/-- The printed form of an origin. -/
def printed : KeyOrigin → Text
  | environment => "Environment".toList
  | keyFile path => "KeyFile(".toList ++ Text.quoted path ++ [')']
  | generated path => "Generated(".toList ++ Text.quoted path ++ [')']
  | keyring => "Keyring".toList
  | ephemeral => "Ephemeral".toList

end KeyOrigin

/-- A master key. -/
structure MasterKey where
  bytes : FixedBytes 32
  origin : KeyOrigin
  deriving DecidableEq, Repr

/-- Why a text is not a master key. -/
inductive MasterKeyFault
  /-- It is Base64 of another number of bytes. -/
  | decodedLength (length : Nat)
  /-- It is neither Base64 nor of the right length. -/
  | unreadable
  deriving DecidableEq, Repr

namespace MasterKeyFault

/-- The wording of a fault. -/
def message : MasterKeyFault → String
  | decodedLength length => s!"expected 32 bytes, got {length}"
  | unreadable => "expected Base64 of 32 bytes or 32 raw characters"

end MasterKeyFault

namespace MasterKey

/-- The bytes of a text, without white space around it, as padded standard Base64 or else as
URL-safe Base64 behind which any number of marks may stand. -/
def decodedText? (trimmed : Bytes) : Option Bytes :=
  match Base64.decode .standard .canonical trimmed with
  | .ok bytes => some bytes
  | .error _ =>
    (Base64.decode .urlSafe .absent (trimEndWhile (· == Base64.padMark) trimmed)).toOption

/-- The master key of a text: Base64 of its bytes, or its bytes themselves. -/
def parse (text : Text) (origin : KeyOrigin) : Except MasterKeyFault MasterKey :=
  let trimmed := Utf8.encode (Text.trim text)
  match (decodedText? trimmed).bind (FixedBytes.ofBytes? 32), FixedBytes.ofBytes? 32 trimmed,
      decodedText? trimmed with
  | some bytes, _, _ => .ok ⟨bytes, origin⟩
  | none, some bytes, _ => .ok ⟨bytes, origin⟩
  | none, none, some bytes => .error (.decodedLength bytes.length)
  | none, none, none => .error .unreadable

/-- The text in which a master key is kept: padded standard Base64. -/
def encode (key : MasterKey) : Bytes :=
  Base64.encodePadded .standard key.bytes.val

/-- The key of the codec: the digest of the master key, as Base64 text. -/
def cipherKeyText (key : MasterKey) : Bytes :=
  Base64.encodePadded .standard (Sha256.digest key.bytes.val).val

/-- A printed form that does not show the bytes. -/
def redacted (key : MasterKey) : Text :=
  "MasterKey \x7b bytes: \"[REDACTED]\", source: ".toList ++ key.origin.printed ++ " \x7d".toList

end MasterKey
end Lockbox
