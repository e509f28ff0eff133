import Lockbox.Randomness

/-!
# The generator of a process

A generator of keys that needs the random source only once. It serves when the random source
fails at the moment a key is needed. Which keys it makes from its seed is its own affair: nothing in
this library depends on them.
-/

namespace Lockbox

/-- A generator: the keys that it makes from a seed one after another, its seed, once it has one,
and how many keys it has made. -/
structure Generator where
  keys : FixedBytes 32 → Nat → FixedBytes 32 := fun seed _ => seed
  seed : Option (FixedBytes 32) := none
  made : Nat := 0

namespace Generator

/-- The next key of a generator that has a seed. -/
def next (generator : Generator) (seed : FixedBytes 32) : FixedBytes 32 × Generator :=
  (generator.keys seed generator.made,
    { generator with seed := some seed, made := generator.made + 1 })

/-- The next key of a generator, which is seeded first if need be. It fails only when it has no
seed and cannot get one. -/
def key (generator : Generator) (source : RandomSource) :
    Option (FixedBytes 32 × Generator) × RandomSource :=
  match generator.seed with
  | some seed => (some (generator.next seed), source)
  | none =>
    match source.draw 32 with
    | (some seed, rest) => (some (generator.next seed), rest)
    | (none, rest) => (none, rest)

end Generator
end Lockbox
