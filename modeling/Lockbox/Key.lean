import Lockbox.Base64.Token
import Lockbox.Cipher.Aead
import Lockbox.CodecError
import Lockbox.Randomness

/-!
# Keys

A caller's key is a buffer that holds the 32 bytes of a cipher key raw, as a Base64 token, or as a
token wrapped in another one. Generated keys are raw and alphanumeric.
-/

namespace Lockbox
namespace Key

/-- Whether a key is as long as a cipher key, white space around it aside. -/
def isValid (key : Bytes) : Bool :=
  (Bytes.trim key).length == 32

/-- The buffers that a key can stand for: its decoding, the key itself without white space around
it, and the decoding of its decoding. -/
def readings (key : Bytes) : List Bytes :=
  let once := Base64.Token.decode? key
  once.toList ++ [Bytes.trim key] ++ (once.bind Base64.Token.decode?).toList

/-- The cipher key that a key stands for. -/
def resolve (key : Bytes) : Except CodecError CipherKey :=
  match (readings key).findSome? (FixedBytes.ofBytes? 32) with
  | some cipherKey => .ok cipherKey
  | none => .error (.invalidKey .unresolvable)

/-- The characters of generated keys. -/
def charset : Bytes :=
  (List.range 26).map (fun index => UInt8.ofNat (0x61 + index)) ++
    (List.range 26).map (fun index => UInt8.ofNat (0x41 + index)) ++
    (List.range 10).map (fun index => UInt8.ofNat (0x30 + index))

/-- The largest multiple of the number of characters that fits in a byte. Random bytes from it on
are rejected, so that every character is equally likely. -/
def acceptBelow : Nat := 256 - 256 % charset.length

/-- The number of random bytes drawn at a time. -/
def poolSize : Nat := 64

/-- The characters that the accepted bytes of a pool choose. -/
def chosen (pool : Bytes) : Bytes :=
  (pool.filter fun byte => byte.toNat < acceptBelow).map fun byte =>
    charset.getD (byte.toNat % charset.length) 0

/-- As many characters as are missing, from as few pools as hold them; none if a pool cannot be
drawn. -/
def gather (missing : Nat) (source : RandomSource) : Option Bytes × RandomSource :=
  if missing = 0 then (some [], source)
  else
    match met : source.draw poolSize with
    | (none, rest) => (none, rest)
    | (some pool, rest) =>
      have := RandomSource.left_of_draw_eq_some met
      let characters := (chosen pool.val).take missing
      let (more, final) := gather (missing - characters.length) rest
      (more.map (characters ++ ·), final)
termination_by source.left
decreasing_by
  simp only [poolSize] at this
  omega

/-- A random key of the given number of characters, where there is room for them. A key of another
length than a cipher key's is made and then refused. -/
def generateOfLength (length : Nat) : Drawing CodecError Bytes := fun source =>
  match gather length source with
  | (none, rest) => (.error .noRandomness, rest)
  | (some key, rest) =>
    if isValid key then (.ok key, rest) else (.error (.invalidKey (.generatedLength length)), rest)

/-- A random key. -/
def generate : Drawing CodecError Bytes :=
  generateOfLength 32

/-- Why a key is not generated on request. -/
inductive GenerationFailure
  | codec (failure : CodecError)
  /-- No buffer has room for so many characters. -/
  | oversized
  deriving DecidableEq, Repr

/-- A random key of any number of characters that is asked for. Before anything is drawn there has
to be a buffer with room for all of them. -/
def generateOnRequest (length : Nat) : Drawing GenerationFailure Bytes := fun source =>
  if Bytes.maximumLength < length then (.error .oversized, source)
  else
    match generateOfLength length source with
    | (.ok key, rest) => (.ok key, rest)
    | (.error failure, rest) => (.error (.codec failure), rest)

end Key
end Lockbox
