import Lockbox.Base64.Alphabet
import Lockbox.Base64.Encode

/-!
# Base64 decoding

Symbols are read in groups of four. The last group may be shorter and may end in padding marks; a
reader chooses how strictly these are held to the canonical form. A fault names the byte and its
place in the text. When several faults are present, the one reported is the first in this order:
a stray byte at the very end of a text one longer than a multiple of four, a byte outside the
alphabet from left to right, a last group of one symbol, wrong padding, non-zero unused bits.
-/

namespace Lockbox
namespace Base64

/-- Why a text is not Base64. Offsets and lengths count bytes of the text. -/
inductive DecodeError
  | invalidSymbol (symbol : UInt8) (offset : Nat)
  | invalidLastSymbol (symbol : UInt8) (offset : Nat)
  | invalidLength (length : Nat)
  | invalidPadding
  deriving DecidableEq, Repr

/-- The wording of a fault. -/
def DecodeError.message : DecodeError → String
  | invalidSymbol symbol offset => s!"Invalid symbol {symbol.toNat}, offset {offset}."
  | invalidLastSymbol symbol offset => s!"Invalid last symbol {symbol.toNat}, offset {offset}."
  | invalidLength length => s!"Invalid input length: {length}"
  | invalidPadding => "Invalid padding"

/-- What a reader asks of the padding of the last group. -/
inductive PaddingRule
  /-- Symbols and marks together make a full group. -/
  | canonical
  /-- No mark at all. -/
  | absent
  /-- Any number of marks that a group can hold, or none. -/
  | indifferent
  deriving DecidableEq, Repr

/-- Whether the padding of a last group obeys the rule. -/
def PaddingRule.allows (rule : PaddingRule) (symbols marks : Nat) : Bool :=
  match rule with
  | canonical => (symbols + marks) % 4 == 0
  | absent => marks == 0
  | indifferent => true

/-- The value of the symbol at an offset. -/
def readSymbol (alphabet : Alphabet) (offset : Nat) (symbol : UInt8) : Except DecodeError Nat :=
  match alphabet.value? symbol with
  | some value => .ok value
  | none => .error (.invalidSymbol symbol offset)

/-- The three bytes of four six-bit values. -/
def octets (first second third fourth : Nat) : Bytes :=
  [UInt8.ofNat (first * 4 + second / 16), UInt8.ofNat (second % 16 * 16 + third / 4),
    UInt8.ofNat (third % 4 * 64 + fourth)]

/-- The values of the symbols of the last group and the number of marks behind them. `index` is
the place in the group, which starts at `offset`. -/
def readLastGroup (alphabet : Alphabet) (offset : Nat) :
    Nat → Bytes → Except DecodeError (List Nat × Nat)
  | _, [] => .ok ([], 0)
  | index, symbol :: rest =>
    if symbol = padMark then
      if 2 ≤ index && rest.all (· == padMark) then .ok ([], rest.length + 1)
      else .error (.invalidSymbol padMark (offset + index))
    else
      match readSymbol alphabet (offset + index) symbol with
      | .error fault => .error fault
      | .ok value =>
        match readLastGroup alphabet offset (index + 1) rest with
        | .error fault => .error fault
        | .ok (values, marks) => .ok (value :: values, marks)

/-- The bytes of the values of a last group, unless the bits left over are not zero. -/
def lastOctets? : List Nat → Option Bytes
  | [first, second] =>
    if second % 16 = 0 then some ((octets first second 0 0).take 1) else none
  | [first, second, third] =>
    if third % 4 = 0 then some ((octets first second third 0).take 2) else none
  | [first, second, third, fourth] => some (octets first second third fourth)
  | _ => some []

/-- The bytes of the last group, of at most four symbols and marks. -/
def decodeLastGroup (alphabet : Alphabet) (rule : PaddingRule) (offset : Nat) (group : Bytes) :
    Except DecodeError Bytes :=
  match readLastGroup alphabet offset 0 group with
  | .error fault => .error fault
  | .ok ([_], _) => .error (.invalidLength (offset + 1))
  | .ok (values, marks) =>
    if rule.allows values.length marks then
      match lastOctets? values with
      | some bytes => .ok bytes
      | none =>
        let index := values.length - 1
        .error (.invalidLastSymbol (group.getD index 0) (offset + index))
    else .error .invalidPadding

/-- The bytes of the groups from `offset` on. -/
def decodeGroups (alphabet : Alphabet) (rule : PaddingRule) (offset : Nat) :
    Bytes → Except DecodeError Bytes
  | s0 :: s1 :: s2 :: s3 :: s4 :: rest => do
    let first ← readSymbol alphabet offset s0
    let second ← readSymbol alphabet (offset + 1) s1
    let third ← readSymbol alphabet (offset + 2) s2
    let fourth ← readSymbol alphabet (offset + 3) s3
    let remaining ← decodeGroups alphabet rule (offset + 4) (s4 :: rest)
    return octets first second third fourth ++ remaining
  | group => decodeLastGroup alphabet rule offset group

/-- The last byte of a text one longer than a multiple of four, when that byte is neither a mark
nor a symbol; a line end left on the text is found this way before anything else. -/
def strayEnd? (alphabet : Alphabet) (text : Bytes) : Option DecodeError :=
  match text.getLast? with
  | some last =>
    if text.length % 4 = 1 && last != padMark && !alphabet.contains last then
      some (.invalidSymbol last (text.length - 1))
    else none
  | none => none

/-- The bytes that a Base64 text spells. -/
def decode (alphabet : Alphabet) (rule : PaddingRule) (text : Bytes) : Except DecodeError Bytes :=
  match strayEnd? alphabet text with
  | some fault => .error fault
  | none => decodeGroups alphabet rule 0 text

/-- The bytes that a text without padding spells in the URL-safe alphabet or, failing that, in the
standard one, whose fault is reported when neither fits. -/
def decodeEither (text : Bytes) : Except DecodeError Bytes :=
  match decode .urlSafe .indifferent text with
  | .ok bytes => .ok bytes
  | .error _ => decode .standard .indifferent text

end Base64
end Lockbox
