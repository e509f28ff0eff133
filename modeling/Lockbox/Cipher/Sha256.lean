import Lockbox.Bytes

/-!
# SHA-256

A message, filled up and followed by its length, is taken in blocks of sixteen words; each block
is stirred into a state of eight words.
-/

namespace Lockbox
namespace Sha256

/-- A word turned right by a number of bits below 32. -/
def rotateRight (word count : UInt32) : UInt32 :=
  (word >>> count) ||| (word <<< (32 - count))

/-- The constants of the sixty-four steps. -/
def constants : List UInt32 :=
  [0x428A2F98, 0x71374491, 0xB5C0FBCF, 0xE9B5DBA5, 0x3956C25B, 0x59F111F1, 0x923F82A4, 0xAB1C5ED5,
    0xD807AA98, 0x12835B01, 0x243185BE, 0x550C7DC3, 0x72BE5D74, 0x80DEB1FE, 0x9BDC06A7, 0xC19BF174,
    0xE49B69C1, 0xEFBE4786, 0x0FC19DC6, 0x240CA1CC, 0x2DE92C6F, 0x4A7484AA, 0x5CB0A9DC, 0x76F988DA,
    0x983E5152, 0xA831C66D, 0xB00327C8, 0xBF597FC7, 0xC6E00BF3, 0xD5A79147, 0x06CA6351, 0x14292967,
    0x27B70A85, 0x2E1B2138, 0x4D2C6DFC, 0x53380D13, 0x650A7354, 0x766A0ABB, 0x81C2C92E, 0x92722C85,
    0xA2BFE8A1, 0xA81A664B, 0xC24B8B70, 0xC76C51A3, 0xD192E819, 0xD6990624, 0xF40E3585, 0x106AA070,
    0x19A4C116, 0x1E376C08, 0x2748774C, 0x34B0BCB5, 0x391C0CB3, 0x4ED8AA4A, 0x5B9CCA4F, 0x682E6FF3,
    0x748F82EE, 0x78A5636F, 0x84C87814, 0x8CC70208, 0x90BEFFFA, 0xA4506CEB, 0xBEF9A3F7, 0xC67178F2]

/-- The eight words of the state. -/
structure State where
  a : UInt32
  b : UInt32
  c : UInt32
  d : UInt32
  e : UInt32
  f : UInt32
  g : UInt32
  h : UInt32
  deriving DecidableEq, Repr

namespace State

/-- The state before the first block. -/
def initial : State :=
  ⟨0x6A09E667, 0xBB67AE85, 0x3C6EF372, 0xA54FF53A, 0x510E527F, 0x9B05688C, 0x1F83D9AB, 0x5BE0CD19⟩

/-- One step, with the sum of its constant and its message word. -/
def step (state : State) (summand : UInt32) : State :=
  let sum1 := rotateRight state.e 6 ^^^ rotateRight state.e 11 ^^^ rotateRight state.e 25
  let choice := (state.e &&& state.f) ^^^ (~~~state.e &&& state.g)
  let sum0 := rotateRight state.a 2 ^^^ rotateRight state.a 13 ^^^ rotateRight state.a 22
  let majority := (state.a &&& state.b) ^^^ (state.a &&& state.c) ^^^ (state.b &&& state.c)
  let upper := state.h + sum1 + choice + summand
  ⟨upper + sum0 + majority, state.a, state.b, state.c, state.d + upper, state.e, state.f, state.g⟩

/-- Sums of corresponding words. -/
def add (left right : State) : State :=
  ⟨left.a + right.a, left.b + right.b, left.c + right.c, left.d + right.d, left.e + right.e,
    left.f + right.f, left.g + right.g, left.h + right.h⟩

/-- The bytes of the state, most significant first. -/
def toBytes (state : State) : FixedBytes 32 :=
  ⟨Bytes.ofNatBE 4 state.a.toNat ++ Bytes.ofNatBE 4 state.b.toNat ++
      Bytes.ofNatBE 4 state.c.toNat ++ Bytes.ofNatBE 4 state.d.toNat ++
      Bytes.ofNatBE 4 state.e.toNat ++ Bytes.ofNatBE 4 state.f.toNat ++
      Bytes.ofNatBE 4 state.g.toNat ++ Bytes.ofNatBE 4 state.h.toNat, by simp⟩

end State

/-- The message words with `count` more, newest first. -/
def extend : Nat → List UInt32 → List UInt32
  | 0, words => words
  | count + 1, words =>
    let before2 := words.getD 1 0
    let before15 := words.getD 14 0
    let sigma1 := rotateRight before2 17 ^^^ rotateRight before2 19 ^^^ (before2 >>> 10)
    let sigma0 := rotateRight before15 7 ^^^ rotateRight before15 18 ^^^ (before15 >>> 3)
    extend count ((sigma1 + words.getD 6 0 + sigma0 + words.getD 15 0) :: words)

/-- The sixty-four message words of a block of sixty-four bytes. -/
def messageWords (block : Bytes) : List UInt32 :=
  let words := (Bytes.pieces 4 block).map fun piece => UInt32.ofNat (Bytes.toNatBE piece)
  (extend 48 words.reverse).reverse

/-- The state after one more block. -/
def absorb (state : State) (block : Bytes) : State :=
  state.add ((List.zipWith (· + ·) constants (messageWords block)).foldl State.step state)

/-- The message with a one bit, enough zeros, and its length in bits. -/
def padded (message : Bytes) : Bytes :=
  message ++ [0x80] ++ Bytes.fillTo 64 (message.length + 9) ++ Bytes.ofNatBE 8 (8 * message.length)

/-- The digest of a message. -/
def digest (message : Bytes) : FixedBytes 32 :=
  ((Bytes.pieces 64 (padded message)).foldl absorb State.initial).toBytes

end Sha256
end Lockbox
