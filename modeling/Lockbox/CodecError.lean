import Lockbox.Base64.Decode
import Lockbox.Text.Utf8
import Lockbox.Text.Hex

/-!
# Codec errors

The causes for which keys, payloads and texts are refused, and their wording.
-/

namespace Lockbox

/-- Why a key is refused. -/
inductive KeyFault
  /-- No reading of the key has the length of a cipher key. -/
  | unresolvable
  /-- A key was generated with another length than a cipher key has. -/
  | generatedLength (length : Nat)
  deriving DecidableEq, Repr

/-- The wording of the reason for which a key is refused. -/
def KeyFault.message : KeyFault → String
  | unresolvable => "key must be 32 bytes, raw or Base64-encoded"
  | generatedLength length => s!"generated key has {length} bytes, cipher needs 32"

/-- Why something cannot be decoded. -/
inductive DecodeFault
  /-- A text is not Base64. -/
  | notBase64 (fault : Base64.DecodeError)
  /-- A text spells no bytes. -/
  | nothingDecoded
  /-- A name is not the name of an algorithm. -/
  | unknownAlgorithm (name : Text)
  /-- A payload begins like an envelope but names no algorithm. -/
  | unsupportedTag (tag : UInt8)
  /-- An opened secret is not a text. -/
  | secretNotText (fault : Utf8.Fault)
  /-- A kept secret is not a text. -/
  | notText (fault : Utf8.Fault)
  deriving DecidableEq, Repr

/-- The wording of the reason for which something cannot be decoded. -/
def DecodeFault.message : DecodeFault → String
  | notBase64 fault => fault.message
  | nothingDecoded => "decoded data is empty"
  | unknownAlgorithm name => s!"unknown algorithm: {String.ofList name}"
  | unsupportedTag tag =>
    s!"unsupported envelope algorithm tag 0x{String.ofList (Hex.ofByte tag)}"
  | secretNotText fault => s!"secret is not valid UTF-8: {fault.message}"
  | notText fault => fault.message

/-- Why the codec refuses its input. -/
inductive CodecError
  /-- Nothing to encrypt or to decrypt. -/
  | emptyInput
  /-- The key cannot be used. -/
  | invalidKey (fault : KeyFault)
  /-- A payload cannot hold a nonce and a tag. -/
  | payloadTooShort (length minimum : Nat)
  /-- The tag of a payload does not match. -/
  | authenticationFailure
  /-- There is nothing to encode. -/
  | nothingToEncode
  /-- Something cannot be decoded. -/
  | undecodable (fault : DecodeFault)
  /-- The random source failed. -/
  | noRandomness
  deriving DecidableEq, Repr

/-- The wording of an error. -/
def CodecError.message : CodecError → String
  | emptyInput => "input is empty"
  | invalidKey fault => s!"invalid key: {fault.message}"
  | payloadTooShort length minimum =>
    s!"encrypted payload too short: {length} bytes, need at least {minimum}"
  | authenticationFailure => "authentication failed: wrong key or tampered payload"
  | nothingToEncode => "encode failure: data is empty"
  | undecodable fault => s!"decode failure: {fault.message}"
  | noRandomness => "random source failure: random source unavailable"

end Lockbox
