import Lockbox.Text.Trim

/-!
# Hexadecimal digits

Bytes as pairs of digits, and digits as numbers.
-/

namespace Lockbox
namespace Hex

/-- The lower-case digit of a number below sixteen. -/
def digit (value : Nat) : Char :=
  if value < 10 then Char.ofNat (0x30 + value) else Char.ofNat (0x57 + value)

/-- The two lower-case digits of a byte. -/
def ofByte (byte : UInt8) : Text :=
  [digit (byte.toNat / 16), digit (byte.toNat % 16)]

/-- The digits of a buffer. -/
def ofBytes (bytes : Bytes) : Text :=
  bytes.flatMap ofByte

/-- The value of a digit of either case. -/
def value? (char : Char) : Option Nat :=
  if '0' ≤ char ∧ char ≤ '9' then some (char.toNat - 0x30)
  else if 'a' ≤ char ∧ char ≤ 'f' then some (char.toNat - 0x57)
  else if 'A' ≤ char ∧ char ≤ 'F' then some (char.toNat - 0x37)
  else none

/-- The buffer whose digits, of either case, are given. -/
def toBytes? : Text → Option Bytes
  | [] => some []
  | [_] => none
  | high :: low :: rest =>
    match value? high, value? low, toBytes? rest with
    | some upper, some lower, some bytes => some (UInt8.ofNat (upper * 16 + lower) :: bytes)
    | _, _, _ => none

/-- The number that a run of digits of either case spells. -/
def toNat? : Text → Option Nat
  | [] => none
  | digits => digits.foldl (fun accumulator char =>
      match accumulator, value? char with
      | some number, some digit => some (number * 16 + digit)
      | _, _ => none) (some 0)

end Hex
end Lockbox
