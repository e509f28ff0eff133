import Lockbox.Encoding
import Lockbox.Envelope
import Lockbox.Key

/-!
# The codec

Encryption of buffers with Base64 on both sides. Sealing takes a buffer exactly as it is.
Encrypting first looks at what the buffer is: a payload is left alone, a token is decoded.
Decrypting takes a payload raw, as Base64, or as Base64 of Base64, and gives buffers marked as
plaintext key material back as they are.
-/

namespace Lockbox

/-- The settings of a codec. -/
structure Codec where
  /-- The cipher of new payloads. Decryption follows the header of a payload. -/
  algorithm : Algorithm := .xChaCha20Poly1305
  /-- Whether a long buffer without a header counts as a payload. -/
  legacyDetection : Bool := false
  deriving DecidableEq, Repr

/-- What encryption gives. -/
structure Sealed where
  /-- The bytes that were sealed. -/
  plaintext : Bytes
  /-- The payload as Base64 text. -/
  ciphertext : Bytes
  deriving DecidableEq, Repr

/-- What decryption gives. -/
structure Opened where
  plaintext : Bytes
  /-- The plaintext as Base64 text. -/
  encoded : Bytes
  deriving DecidableEq, Repr

namespace Sealed

/-- A printed form that does not show the plaintext. -/
def redacted (result : Sealed) : Text :=
  "Sealed \x7b plaintext: \"[REDACTED]\", ciphertext: \"".toList ++
    Text.ofAscii result.ciphertext ++ "\" \x7d".toList

end Sealed

namespace Opened

/-- A printed form, the same for all results, that shows neither the plaintext nor its Base64
text. -/
def redacted (_ : Opened) : Text :=
  "Opened \x7b plaintext: \"[REDACTED]\", encoded: \"[REDACTED]\" \x7d".toList

end Opened

namespace Codec

/-- The bytes `BEGIN `, by which plaintext key material is known. -/
def plaintextMarker : Bytes := [0x42, 0x45, 0x47, 0x49, 0x4E, 0x20]

/-- Whether a buffer holds the marker of plaintext key material somewhere. -/
def holdsPlaintext : Bytes → Bool
  | [] => false
  | byte :: rest => plaintextMarker.isPrefixOf (byte :: rest) || holdsPlaintext rest

/-- Whether a buffer is a payload, raw, as a token, or as a token in a token. -/
def isEncrypted (codec : Codec) (data : Bytes) : Bool :=
  let once := Base64.Token.unwrap (Bytes.trim data)
  let twice := Base64.Token.unwrap once
  let looksSealed := fun candidate =>
    Envelope.isTagged candidate || (codec.legacyDetection && Envelope.looksHeaderless candidate)
  !(Bytes.trim data).isEmpty && (looksSealed once || looksSealed twice)

/-- The payload of a plaintext under a fresh nonce, as Base64 text. -/
def sealText (codec : Codec) (plaintext key : Bytes) : Drawing CodecError Bytes := do
  if plaintext.isEmpty then throw .emptyInput
  let cipherKey ← Key.resolve key
  let nonce ← Drawing.request .noRandomness codec.algorithm.nonceLength
  return Encoding.toBase64 (Envelope.create codec.algorithm cipherKey nonce plaintext).toBytes

/-- The encryption of a buffer: a payload stays as it is, a token is decoded and then sealed, any
other buffer is sealed. -/
def encrypt (codec : Codec) (data key : Bytes) : Drawing CodecError Sealed := do
  if data.isEmpty then throw .emptyInput
  if codec.isEncrypted data then
    return { plaintext := data, ciphertext := ← Encoding.present (Bytes.trim data) }
  let plaintext := Base64.Token.unwrap data
  return { plaintext := plaintext, ciphertext := ← codec.sealText plaintext key }

/-- The plaintext of a payload under a cipher key. -/
def openPayload (cipherKey : CipherKey) (payload : Bytes) : Except CodecError Opened := do
  let envelope ← Envelope.parse payload
  match envelope.decrypt? cipherKey with
  | none => throw .authenticationFailure
  | some plaintext => return { plaintext := plaintext, encoded := ← Encoding.present plaintext }

/-- A buffer given back as it is. -/
def passThrough (payload : Bytes) : Opened where
  plaintext := payload
  encoded := Encoding.toBase64 payload

/-- The decryption of a payload. When its tag does not match and it is itself a token, the bytes of
that token are tried once more; there is no further attempt. -/
def decrypt (data key : Bytes) : Except CodecError Opened :=
  if (Bytes.trim data).isEmpty then .error .emptyInput
  else
    let payload := Base64.Token.unwrap (Bytes.trim data)
    if holdsPlaintext payload then .ok (passThrough payload)
    else
      match Key.resolve key with
      | .error refusal => .error refusal
      | .ok cipherKey =>
        match openPayload cipherKey payload, Base64.Token.decode? payload with
        | .error .authenticationFailure, none => .error .authenticationFailure
        | .error .authenticationFailure, some inner =>
          if holdsPlaintext inner then .ok (passThrough inner) else openPayload cipherKey inner
        | outcome, _ => outcome

end Codec
end Lockbox
