/-!
# Bytes

A buffer is a list of bytes, and a buffer whose length matters to its meaning (a key, a nonce,
an authentication tag) carries that length in its type.
-/

namespace Lockbox

/-- A finite buffer. -/
abbrev Bytes := List UInt8

/-- A buffer of exactly `length` bytes. -/
abbrev FixedBytes (length : Nat) := { bytes : Bytes // bytes.length = length }

namespace FixedBytes

/-- The buffer as one of fixed length, when it has that length. -/
def ofBytes? (length : Nat) (bytes : Bytes) : Option (FixedBytes length) :=
  if fits : bytes.length = length then some ⟨bytes, fits⟩ else none

theorem ofBytes?_eq_some_iff {length : Nat} {bytes : Bytes} {fixed : FixedBytes length} :
    ofBytes? length bytes = some fixed ↔ fixed.val = bytes := by
  unfold ofBytes?
  split
  next fits =>
    constructor
    · intro equality
      cases equality
      rfl
    · intro equality
      subst equality
      rfl
  next misfit =>
    constructor
    · intro equality
      cases equality
    · intro equality
      exact absurd (equality ▸ fixed.property) misfit

theorem ofBytes?_eq_none_iff {length : Nat} {bytes : Bytes} :
    ofBytes? length bytes = none ↔ bytes.length ≠ length := by
  unfold ofBytes?
  split <;> simp_all

@[simp] theorem ofBytes?_val {length : Nat} (fixed : FixedBytes length) :
    ofBytes? length fixed.val = some fixed :=
  ofBytes?_eq_some_iff.mpr rfl

end FixedBytes

namespace Bytes

/-- The length of the longest buffer that can be asked for. -/
def maximumLength : Nat := 0x7FFFFFFFFFFFFFFF

/-- Bytewise exclusive or, as long as the shorter of the two buffers. -/
def xor (left right : Bytes) : Bytes :=
  List.zipWith (· ^^^ ·) left right

@[simp] theorem length_xor (left right : Bytes) :
    (xor left right).length = min left.length right.length := by
  simp [xor]

/-- Masking twice with the same stream gives the buffer back. -/
theorem xor_xor_cancel (bytes stream : Bytes) (enough : bytes.length ≤ stream.length) :
    xor (xor bytes stream) stream = bytes := by
  induction bytes generalizing stream with
  | nil => simp [xor]
  | cons byte rest inductionHypothesis =>
    cases stream with
    | nil => simp at enough
    | cons mask masks =>
      have step := inductionHypothesis masks (by simpa using enough)
      simp only [xor, List.zipWith_cons_cons] at step ⊢
      rw [step, UInt8.xor_assoc, UInt8.xor_self, UInt8.xor_zero]

/-- The number a buffer spells with its least significant byte first. -/
def toNatLE : Bytes → Nat
  | [] => 0
  | byte :: rest => byte.toNat + 256 * toNatLE rest

/-- The number a buffer spells with its most significant byte first. -/
def toNatBE (bytes : Bytes) : Nat :=
  toNatLE bytes.reverse

/-- The `length` low bytes of a number, least significant first. -/
def ofNatLE : (length : Nat) → Nat → Bytes
  | 0, _ => []
  | length + 1, value => UInt8.ofNat value :: ofNatLE length (value / 256)

/-- The `length` low bytes of a number, most significant first. -/
def ofNatBE (length value : Nat) : Bytes :=
  (ofNatLE length value).reverse

@[simp] theorem length_ofNatLE (length value : Nat) : (ofNatLE length value).length = length := by
  induction length generalizing value with
  | zero => rfl
  | succ length inductionHypothesis => simp [ofNatLE, inductionHypothesis]

@[simp] theorem length_ofNatBE (length value : Nat) : (ofNatBE length value).length = length := by
  simp [ofNatBE]

/-- Consecutive pieces of `size` bytes; the last one may be shorter. -/
def pieces (size : Nat) (bytes : Bytes) : List Bytes :=
  (List.range ((bytes.length + size - 1) / size)).map fun index =>
    (bytes.drop (index * size)).take size

/-- Enough zero bytes to bring a buffer of this length to a multiple of `size`. -/
def fillTo (size length : Nat) : Bytes :=
  List.replicate ((size - length % size) % size) 0

end Bytes
end Lockbox
