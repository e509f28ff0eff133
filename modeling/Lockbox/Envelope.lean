import Lockbox.Algorithm

/-!
# Envelopes

A payload is a header, a nonce, and a masked text with its tag. The header is a format mark and the
tag of an algorithm; payloads of an older form have none and are under XChaCha20-Poly1305.
-/

namespace Lockbox

/-- What stands in front of the nonce of a payload. -/
inductive Header
  /-- The format mark and the tag of an algorithm. -/
  | tagged (algorithm : Algorithm)
  /-- Nothing. -/
  | headerless
  deriving DecidableEq, Repr

namespace Header

/-- The four bytes that begin every payload with a header. -/
def mark : Bytes := [0x53, 0x42, 0x58, 0x31]

/-- The algorithm of a payload with this header. -/
def algorithm : Header → Algorithm
  | tagged algorithm => algorithm
  | headerless => .xChaCha20Poly1305

/-- The bytes of a header. -/
def toBytes : Header → Bytes
  | tagged algorithm => mark ++ [algorithm.tag]
  | headerless => []

/-- The length of a header that is there. -/
def length : Nat := mark.length + 1

/-- What follows the format mark, if the payload begins with it. -/
def afterMark? (payload : Bytes) : Option Bytes :=
  if payload.take mark.length = mark then some (payload.drop mark.length) else none

theorem afterMark?_eq_some_iff {payload rest : Bytes} :
    afterMark? payload = some rest ↔ payload = mark ++ rest := by
  unfold afterMark?
  constructor
  · intro found
    split at found
    next marked =>
      rw [← Option.some.inj found]
      conv => rhs; lhs; rw [← marked]
      exact (List.take_append_drop _ _).symm
    next => cases found
  · rintro rfl
    simp

end Header

/-- A payload taken apart. -/
structure Envelope where
  header : Header
  nonce : FixedBytes header.algorithm.nonceLength
  /-- The masked text and its tag. -/
  sealed : Bytes
  tagLength_le : tagLength ≤ sealed.length

namespace Envelope

/-- The payload of an envelope. -/
def toBytes (envelope : Envelope) : Bytes :=
  envelope.header.toBytes ++ envelope.nonce.val ++ envelope.sealed

/-- The envelope with the given header and what follows it. -/
def ofBody (header : Header) (body : Bytes) : Except CodecError Envelope :=
  if enough : header.algorithm.minimumBody ≤ body.length then
    .ok {
      header := header
      nonce := ⟨body.take header.algorithm.nonceLength, List.length_take_of_le
        (Nat.le_trans (Nat.le_add_right _ _) enough)⟩
      sealed := body.drop header.algorithm.nonceLength
      tagLength_le := by
        rw [List.length_drop]
        exact Nat.le_sub_of_add_le' enough }
  else .error (.payloadTooShort body.length header.algorithm.minimumBody)

/-- A payload taken apart. A payload that begins with the format mark is never taken for one
without a header. -/
def parse (payload : Bytes) : Except CodecError Envelope :=
  match Header.afterMark? payload with
  | none => ofBody .headerless payload
  | some [] =>
    .error (.payloadTooShort payload.length
      (Header.length + Algorithm.xChaCha20Poly1305.minimumBody))
  | some (tag :: body) =>
    match Algorithm.ofTag? tag with
    | none => .error (.undecodable (.unsupportedTag tag))
    | some algorithm => ofBody (.tagged algorithm) body

/-- Whether a payload has a header and room behind it for a nonce and a tag. -/
def isTagged (payload : Bytes) : Bool :=
  match Header.afterMark? payload with
  | some (tag :: body) =>
    match Algorithm.ofTag? tag with
    | some algorithm => decide (algorithm.minimumBody ≤ body.length)
    | none => false
  | _ => false

/-- Whether a payload could be one without a header, judged by its length alone: it has room for a
key and a nonce. The answer is a hint. -/
def looksHeaderless (payload : Bytes) : Bool :=
  32 + Algorithm.xChaCha20Poly1305.nonceLength ≤ payload.length

/-- The envelope of a plaintext under a key and a nonce. -/
def create (algorithm : Algorithm) (key : CipherKey)
    (nonce : FixedBytes algorithm.nonceLength) (plaintext : Bytes) : Envelope where
  header := .tagged algorithm
  nonce := nonce
  sealed := algorithm.aead.encrypt key nonce.val plaintext
  tagLength_le := by simp

/-- The plaintext of an envelope, unless its tag does not match under the key. -/
def decrypt? (envelope : Envelope) (key : CipherKey) : Option Bytes :=
  envelope.header.algorithm.aead.decrypt? key envelope.nonce.val envelope.sealed

@[simp] theorem decrypt?_create (algorithm : Algorithm) (key : CipherKey)
    (nonce : FixedBytes algorithm.nonceLength) (plaintext : Bytes) :
    (create algorithm key nonce plaintext).decrypt? key = some plaintext :=
  algorithm.aead.decrypt?_encrypt key nonce.val plaintext

end Envelope
end Lockbox
