import Lockbox.Bytes

/-!
# Keystreams

A keystream is given block by block and used byte by byte.
-/

namespace Lockbox
namespace Keystream

/-- The blocks from number zero on, one after the other, up to `blocks` of them. -/
def blocks {size : Nat} (block : Nat → FixedBytes size) (count : Nat) : Bytes :=
  (List.range count).flatMap fun index => (block index).val

@[simp] theorem length_blocks {size : Nat} (block : Nat → FixedBytes size) (count : Nat) :
    (blocks block count).length = count * size := by
  unfold blocks
  induction count with
  | zero => simp
  | succ count inductionHypothesis =>
    rw [List.range_succ, List.flatMap_append, List.length_append, inductionHypothesis]
    simp [(block count).property, Nat.succ_mul]

/-- The first `count` bytes of the blocks. -/
def take {size : Nat} (positive : 0 < size) (block : Nat → FixedBytes size) (count : Nat) :
    FixedBytes count :=
  ⟨(blocks block ((count + size - 1) / size)).take count, by
    rw [List.length_take, length_blocks, Nat.min_eq_left]
    have division := Nat.div_add_mod (count + size - 1) size
    have remainder := Nat.mod_lt (count + size - 1) positive
    rw [Nat.mul_comm]
    omega⟩

end Keystream
end Lockbox
