import Lockbox.Toml.Scalar

/-!
# The range of TOML numbers

An integer fits in 128 bits, with or without sign. A number with a fraction or an exponent is less
than what a double rounds to infinity. A document may hold numbers out of range; only who reads
their value finds the fault.
-/

namespace Lockbox
namespace Toml

/-- Whether an integer fits in 128 bits, with or without sign. -/
def fitsInteger (value : Int) : Bool :=
  -((1 <<< 127 : Nat) : Int) ≤ value && value < ((1 <<< 128 : Nat) : Int)

/-- The least number that a double rounds to infinity: half a step above the greatest finite
double. -/
def doubleLimit : Nat :=
  ((1 <<< 54) - 1) <<< 970

/-- Whether the number that digits spell, times a power of ten, is less than what a double rounds to
infinity. The first tests settle the extreme powers, so that no power is worked out that is much
longer than the digits. -/
def fitsDouble (digits : Text) (power : Int) : Bool :=
  let coefficient := number 10 digits
  coefficient == 0 || (digits.length : Int) + power ≤ 308 ||
    (power ≤ 308 &&
      coefficient * Nat.pow 10 power.toNat < doubleLimit * Nat.pow 10 (-power).toNat)

/-- The number that a text of digits with perhaps a sign in front spells. Underscores count for
nothing. -/
def exponent (text : Text) : Int :=
  let (negative, unsigned) := signed text
  let magnitude : Int := number 10 (unsigned.filter Char.isDigit)
  if negative then -magnitude else magnitude

/-- Whether a number with a fraction or an exponent is in range. The special numbers are. -/
def isFloatInRange (literal : Text) : Bool :=
  let mantissa := literal.takeWhile fun char => !isExponentMark char
  let power := exponent ((literal.dropWhile fun char => !isExponentMark char).drop 1)
  let fraction := (mantissa.dropWhile (· != '.')).filter Char.isDigit
  fitsDouble (mantissa.filter Char.isDigit) (power - fraction.length)

mutual

/-- Whether all numbers in a value are in range. -/
def Value.isInRange : Value → Bool
  | .integer literal => (integer? literal).any fitsInteger
  | .float literal => isFloatInRange literal
  | .array items => areInRange items
  | .tables earlier entries => areInRange earlier && areEntriesInRange entries
  | .table _ entries => areEntriesInRange entries
  | _ => true

/-- Whether all numbers in some values are in range. -/
def areInRange : List Value → Bool
  | [] => true
  | value :: rest => value.isInRange && areInRange rest

/-- Whether all numbers in some entries are in range. -/
def areEntriesInRange : List (Text × Value) → Bool
  | [] => true
  | (_, value) :: rest => value.isInRange && areEntriesInRange rest

end

end Toml
end Lockbox
