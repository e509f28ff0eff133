import Lockbox.Text.Hex

/-!
# Hexadecimal digits of either case

Digits are read exactly when they are digits (`value?_eq_some_iff`), and a buffer is read from its
digits, of either case, and from nothing else (`toBytes?_eq_some_iff`).
-/

namespace Lockbox
namespace Hex

/-- The digit of a number, of either case. -/
def IsDigit (value : Nat) (char : Char) : Prop :=
  value < 16 ∧ (char = digit value ∨ char = (digit value).toUpper)

instance (value : Nat) (char : Char) : Decidable (IsDigit value char) :=
  inferInstanceAs (Decidable (_ ∧ _))

/-- No digit has a code above that of the last small letter among them. -/
theorem toNat_lt_of_value?
    {value : Nat}
    {char : Char}
    (read : value? char = some value) :
    char.toNat < 0x67 := by
  have bound {last : Char} (below : char ≤ last) : char.toNat ≤ last.toNat :=
    UInt32.le_iff_toNat_le.mp below
  unfold value? at read
  split at read
  next isDecimal => exact Nat.lt_of_le_of_lt (bound isDecimal.2) (by decide)
  next =>
    split at read
    next isSmall => exact Nat.lt_of_le_of_lt (bound isSmall.2) (by decide)
    next =>
      split at read
      next isCapital => exact Nat.lt_of_le_of_lt (bound isCapital.2) (by decide)
      next => cases read

theorem value?_eq_some_iff
    {value : Nat}
    {char : Char} :
    value? char = some value ↔ IsDigit value char := by
  constructor
  · intro read
    have everywhere : ∀ code < 0x67, ∀ value ∈ value? (Char.ofNat code),
        IsDigit value (Char.ofNat code) := by
      decide
    have here := everywhere char.toNat (toNat_lt_of_value? read)
    rw [Char.ofNat_toNat] at here
    exact here value read
  · have everywhere : ∀ value < 16,
        value? (digit value) = some value ∧ value? (digit value).toUpper = some value := by
      decide
    rintro ⟨small, rfl | rfl⟩
    · exact (everywhere value small).1
    · exact (everywhere value small).2

theorem isDigit_digit
    {value : Nat}
    (small : value < 16) :
    IsDigit value (digit value) :=
  ⟨small, Or.inl rfl⟩

/-- The digits of a buffer, each of either case. -/
inductive Spells : Bytes → Text → Prop
  | nil : Spells [] []
  | cons {byte : UInt8} {bytes : Bytes} {upper lower : Char} {digits : Text}
      (isUpper : IsDigit (byte.toNat / 16) upper)
      (isLower : IsDigit (byte.toNat % 16) lower)
      (others : Spells bytes digits) :
      Spells (byte :: bytes) (upper :: lower :: digits)

theorem spells_ofBytes (bytes : Bytes) : Spells bytes (ofBytes bytes) := by
  induction bytes with
  | nil => exact .nil
  | cons byte bytes inductionHypothesis =>
      have bound := byte.toNat_lt
      exact .cons (isDigit_digit (by omega)) (isDigit_digit (by omega)) inductionHypothesis

theorem Spells.length_eq
    {bytes : Bytes}
    {digits : Text}
    (spells : Spells bytes digits) :
    digits.length = 2 * bytes.length := by
  induction spells with
  | nil => rfl
  | cons isUpper isLower others inductionHypothesis =>
      simp only [List.length_cons, inductionHypothesis]
      omega

theorem length_ofBytes (bytes : Bytes) : (ofBytes bytes).length = 2 * bytes.length :=
  (spells_ofBytes bytes).length_eq

theorem ofBytes_append (first second : Bytes) :
    ofBytes (first ++ second) = ofBytes first ++ ofBytes second :=
  List.flatMap_append

/-- A buffer is read exactly from its digits. -/
theorem toBytes?_eq_some_iff
    {bytes : Bytes}
    {digits : Text} :
    toBytes? digits = some bytes ↔ Spells bytes digits := by
  constructor
  · intro read
    fun_induction toBytes? digits generalizing bytes with
    | case1 =>
        obtain rfl := Option.some.inj read
        exact .nil
    | case2 => cases read
    | case3 upper lower digits high low others readOthers readUpper readLower inductionHypothesis =>
        obtain rfl := Option.some.inj read
        have isUpper := value?_eq_some_iff.mp readUpper
        have isLower := value?_eq_some_iff.mp readLower
        have upperBound := isUpper.1
        have lowerBound := isLower.1
        have code : (UInt8.ofNat (high * 16 + low)).toNat = high * 16 + low := by
          rw [UInt8.toNat_ofNat']
          omega
        refine .cons ?_ ?_ (inductionHypothesis readOthers)
        · rwa [code, show (high * 16 + low) / 16 = high by omega]
        · rwa [code, show (high * 16 + low) % 16 = low by omega]
    | case4 => cases read
  · intro spells
    induction spells with
    | nil => rfl
    | cons isUpper isLower others inductionHypothesis =>
        rw [toBytes?, value?_eq_some_iff.mpr isUpper, value?_eq_some_iff.mpr isLower,
          inductionHypothesis]
        simp only
        rw [Nat.div_add_mod', UInt8.ofNat_toNat]

end Hex
end Lockbox
