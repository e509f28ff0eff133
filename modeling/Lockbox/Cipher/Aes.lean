import Lockbox.Cipher.Aead

/-!
# The AES-256 block cipher

A block is four columns of four bytes. The substitution box is computed from inversion in the
field of 256 elements, so that no table has to be trusted.
-/

namespace Lockbox
namespace Aes

/-- Multiplication by the polynomial x in the field of 256 elements. -/
def double (byte : UInt8) : UInt8 :=
  if byte < 0x80 then byte <<< 1 else (byte <<< 1) ^^^ 0x1B

/-- Multiplication in the field: the remaining bits of the second factor are taken from the lowest
on. -/
def multiplyBits : Nat → UInt8 → UInt8 → UInt8
  | 0, _, _ => 0
  | bits + 1, left, right =>
    (if right &&& 1 = 1 then left else 0) ^^^ multiplyBits bits (double left) (right >>> 1)

/-- Multiplication in the field of 256 elements. -/
def multiply (left right : UInt8) : UInt8 :=
  multiplyBits 8 left right

/-- The inverse in the field, with zero for zero: the power 254. -/
def inverse (byte : UInt8) : UInt8 :=
  let square := multiply byte byte
  let power4 := multiply square square
  let power8 := multiply power4 power4
  let power16 := multiply power8 power8
  let power32 := multiply power16 power16
  let power64 := multiply power32 power32
  let power128 := multiply power64 power64
  [power4, power8, power16, power32, power64, power128].foldl multiply square

/-- A byte turned left by a number of bits below eight. -/
def rotateByte (byte count : UInt8) : UInt8 :=
  (byte <<< count) ||| (byte >>> (8 - count))

/-- The substitution of one byte: inversion and an affine map. -/
def substituted (byte : UInt8) : UInt8 :=
  let inverted := inverse byte
  inverted ^^^ rotateByte inverted 1 ^^^ rotateByte inverted 2 ^^^ rotateByte inverted 3 ^^^
    rotateByte inverted 4 ^^^ 0x63

/-- The substitutions of all bytes, in order. -/
def substitutionBox : Array UInt8 :=
  Array.ofFn fun index : Fin 256 => substituted (UInt8.ofNat index.val)

/-- The substitution of one byte, looked up. -/
def substitute (byte : UInt8) : UInt8 :=
  substitutionBox.getD byte.toNat 0

/-- Four bytes of a block or of the key schedule. -/
structure Column where
  first : UInt8
  second : UInt8
  third : UInt8
  fourth : UInt8
  deriving DecidableEq, Repr

namespace Column

/-- An operation on corresponding bytes. -/
def zip (operation : UInt8 → UInt8 → UInt8) (left right : Column) : Column :=
  ⟨operation left.first right.first, operation left.second right.second,
    operation left.third right.third, operation left.fourth right.fourth⟩

/-- Exclusive or of corresponding bytes. -/
def xor : Column → Column → Column := zip (· ^^^ ·)

/-- Each byte substituted. -/
def substitute (column : Column) : Column :=
  ⟨Aes.substitute column.first, Aes.substitute column.second, Aes.substitute column.third,
    Aes.substitute column.fourth⟩

/-- The column with its first byte moved to the end. -/
def turn (column : Column) : Column :=
  ⟨column.second, column.third, column.fourth, column.first⟩

/-- The column times the fixed matrix of the cipher. -/
def mix (column : Column) : Column :=
  let entry := fun (own next afterNext last : UInt8) =>
    double own ^^^ (double next ^^^ next) ^^^ afterNext ^^^ last
  ⟨entry column.first column.second column.third column.fourth,
    entry column.second column.third column.fourth column.first,
    entry column.third column.fourth column.first column.second,
    entry column.fourth column.first column.second column.third⟩

/-- The four bytes at an offset of a buffer. -/
def ofBytes (bytes : Bytes) (offset : Nat) : Column :=
  ⟨bytes.getD offset 0, bytes.getD (offset + 1) 0, bytes.getD (offset + 2) 0,
    bytes.getD (offset + 3) 0⟩

/-- The bytes of a column. -/
def toBytes (column : Column) : Bytes :=
  [column.first, column.second, column.third, column.fourth]

end Column

/-- Sixteen bytes. -/
structure Block where
  first : Column
  second : Column
  third : Column
  fourth : Column
  deriving DecidableEq, Repr

namespace Block

/-- Exclusive or of corresponding bytes. -/
def xor (left right : Block) : Block :=
  ⟨left.first.xor right.first, left.second.xor right.second, left.third.xor right.third,
    left.fourth.xor right.fourth⟩

/-- The same operation on every column. -/
def map (operation : Column → Column) (block : Block) : Block :=
  ⟨operation block.first, operation block.second, operation block.third, operation block.fourth⟩

/-- The block with row number r turned left by r places. -/
def shiftRows (block : Block) : Block :=
  let shifted := fun (a b c d : Column) => (⟨a.first, b.second, c.third, d.fourth⟩ : Column)
  ⟨shifted block.first block.second block.third block.fourth,
    shifted block.second block.third block.fourth block.first,
    shifted block.third block.fourth block.first block.second,
    shifted block.fourth block.first block.second block.third⟩

/-- The block at the start of a buffer. -/
def ofBytes (bytes : Bytes) : Block :=
  ⟨Column.ofBytes bytes 0, Column.ofBytes bytes 4, Column.ofBytes bytes 8,
    Column.ofBytes bytes 12⟩

/-- The bytes of a block. -/
def toBytes (block : Block) : FixedBytes 16 :=
  ⟨block.first.toBytes ++ block.second.toBytes ++ block.third.toBytes ++ block.fourth.toBytes,
    rfl⟩

end Block

/-- The next two round keys after two round keys, with the round constant of the step. -/
def nextKeys (constant : UInt8) (upper lower : Block) : Block × Block :=
  let a := upper.first.xor (lower.fourth.turn.substitute.xor ⟨constant, 0, 0, 0⟩)
  let b := upper.second.xor a
  let c := upper.third.xor b
  let d := upper.fourth.xor c
  let e := lower.first.xor d.substitute
  let f := lower.second.xor e
  let g := lower.third.xor f
  let h := lower.fourth.xor g
  (⟨a, b, c, d⟩, ⟨e, f, g, h⟩)

/-- The round keys from two given ones on, two for each step. -/
def expandKeys : Nat → UInt8 → Block → Block → List Block
  | 0, _, upper, lower => [upper, lower]
  | steps + 1, constant, upper, lower =>
    let (nextUpper, nextLower) := nextKeys constant upper lower
    upper :: lower :: expandKeys steps (double constant) nextUpper nextLower

/-- The fifteen round keys of a key. -/
def roundKeys (key : CipherKey) : List Block :=
  (expandKeys 7 1 (Block.ofBytes key.val) (Block.ofBytes (key.val.drop 16))).take 15

/-- The rounds with the remaining keys; the last round does not mix columns. -/
def rounds (block : Block) : List Block → Block
  | [] => block
  | [last] => (block.map Column.substitute).shiftRows.xor last
  | key :: rest =>
    rounds (((block.map Column.substitute).shiftRows.map Column.mix).xor key) rest

/-- The encryption of one block under expanded keys. -/
def encryptBlock (keys : List Block) (block : Block) : Block :=
  match keys with
  | [] => block
  | first :: rest => rounds (block.xor first) rest

end Aes
end Lockbox
