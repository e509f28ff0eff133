import Lockbox.Cipher.Aead
import Lockbox.Cipher.Keystream

/-!
# The ChaCha20 block function

The state is four rows of four words. A round mixes the four columns side by side; turning the
rows against each other lets the next round mix the diagonals.
-/

namespace Lockbox
namespace ChaCha

/-- A word turned left by a number of bits below 32. -/
def rotate (word : UInt32) (count : UInt32) : UInt32 :=
  (word <<< count) ||| (word >>> (32 - count))

/-- Four words. -/
structure Row where
  first : UInt32
  second : UInt32
  third : UInt32
  fourth : UInt32
  deriving DecidableEq, Repr

namespace Row

/-- An operation on corresponding words. -/
def zip (operation : UInt32 → UInt32 → UInt32) (left right : Row) : Row :=
  ⟨operation left.first right.first, operation left.second right.second,
    operation left.third right.third, operation left.fourth right.fourth⟩

/-- Sum modulo 2^32 of corresponding words. -/
def add : Row → Row → Row := zip (· + ·)

/-- Exclusive or of corresponding words, each then turned left. -/
def xorRotate (count : UInt32) : Row → Row → Row :=
  zip fun left right => rotate (left ^^^ right) count

/-- The row with its first word moved to the end. -/
def turn (row : Row) : Row :=
  ⟨row.second, row.third, row.fourth, row.first⟩

/-- The word at byte `offset` of a buffer, least significant byte first. -/
def wordAt (bytes : Bytes) (offset : Nat) : UInt32 :=
  UInt32.ofNat (Bytes.toNatLE ((bytes.drop offset).take 4))

/-- The four words at byte `offset` of a buffer. -/
def ofBytes (bytes : Bytes) (offset : Nat) : Row :=
  ⟨wordAt bytes offset, wordAt bytes (offset + 4), wordAt bytes (offset + 8),
    wordAt bytes (offset + 12)⟩

/-- The sixteen bytes of a row. -/
def toBytes (row : Row) : Bytes :=
  Bytes.ofNatLE 4 row.first.toNat ++ Bytes.ofNatLE 4 row.second.toNat ++
    Bytes.ofNatLE 4 row.third.toNat ++ Bytes.ofNatLE 4 row.fourth.toNat

@[simp] theorem length_toBytes (row : Row) : row.toBytes.length = 16 := by
  simp [toBytes]

end Row

/-- The constants, the key, and the counter with the nonce. -/
structure State where
  constants : Row
  upperKey : Row
  lowerKey : Row
  position : Row
  deriving DecidableEq, Repr

namespace State

/-- The words of `expand 32-byte k`. -/
def sigma : Row := ⟨0x61707865, 0x3320646E, 0x79622D32, 0x6B206574⟩

/-- The state for a key and the sixteen bytes of counter and nonce. -/
def initial (key : CipherKey) (position : Bytes) : State :=
  ⟨sigma, Row.ofBytes key.val 0, Row.ofBytes key.val 16, Row.ofBytes position 0⟩

/-- The four column mixings of a round. -/
def mix (state : State) : State :=
  let a := state.constants.add state.upperKey
  let d := state.position.xorRotate 16 a
  let c := state.lowerKey.add d
  let b := state.upperKey.xorRotate 12 c
  let a := a.add b
  let d := d.xorRotate 8 a
  let c := c.add d
  let b := b.xorRotate 7 c
  ⟨a, b, c, d⟩

/-- The state with its diagonals brought into columns. -/
def diagonalize (state : State) : State :=
  ⟨state.constants, state.upperKey.turn, state.lowerKey.turn.turn, state.position.turn.turn.turn⟩

/-- The state with its columns brought back onto diagonals. -/
def undiagonalize (state : State) : State :=
  ⟨state.constants, state.upperKey.turn.turn.turn, state.lowerKey.turn.turn, state.position.turn⟩

/-- One round on the columns and one on the diagonals. -/
def doubleRound (state : State) : State :=
  (state.mix.diagonalize.mix).undiagonalize

/-- Twenty rounds. -/
def permute (state : State) : State :=
  Nat.repeat doubleRound 10 state

end State

/-- The keystream block for a key and the sixteen bytes of counter and nonce. -/
def block (key : CipherKey) (position : Bytes) : FixedBytes 64 :=
  let initial := State.initial key position
  let final := initial.permute
  ⟨(initial.constants.add final.constants).toBytes ++
      (initial.upperKey.add final.upperKey).toBytes ++
      (initial.lowerKey.add final.lowerKey).toBytes ++
      (initial.position.add final.position).toBytes, by simp⟩

/-- The key derived from a key and the first sixteen bytes of an extended nonce: the first and
last row after twenty rounds. -/
def subkey (key : CipherKey) (position : Bytes) : CipherKey :=
  let final := (State.initial key position).permute
  ⟨final.constants.toBytes ++ final.position.toBytes, by simp⟩

/-- The sixteen bytes of a block counter and a twelve-byte nonce. -/
def position (counter : Nat) (nonce : Bytes) : Bytes :=
  Bytes.ofNatLE 4 counter ++ nonce

end ChaCha
end Lockbox
