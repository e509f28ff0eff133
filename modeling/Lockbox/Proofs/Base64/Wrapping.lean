import Lockbox.Proofs.Base64.Spelling

/-!
# Wrapping and unwrapping

A buffer shown as Base64 is read back as what the buffer was read as, provided that the buffer is a
token or long enough to become one (`Token.unwrap_wrap`); showing it once more changes nothing
(`Token.wrap_wrap`). Of the buffers that are not empty these are the only ones
(`Token.unwrap_wrap_iff`, `Token.wrap_wrap_iff`): what any other is shown as is too short for a
token (`Token.length_wrap_lt`). A buffer with a byte that no token has is none.
-/

namespace Lockbox
namespace Base64

/-- The symbols of a buffer have no white space around them. -/
theorem trim_encode (alphabet : Alphabet) (bytes : Bytes) :
    Bytes.trim (encode alphabet bytes) = encode alphabet bytes := by
  have trimmed : Bytes.trim ([] ++ (encode alphabet bytes ++ List.replicate 0 padMark) ++ []) =
      encode alphabet bytes ++ List.replicate 0 padMark :=
    trim_surrounded_encode alphabet bytes 0 (by simp) (by simp)
  simpa using trimmed

/-- A buffer that is not empty has more symbols than bytes. -/
theorem length_lt_encode
    (alphabet : Alphabet)
    {bytes : Bytes}
    (nonempty : bytes ≠ []) :
    bytes.length < (encode alphabet bytes).length := by
  have positive := List.length_pos_iff.mpr nonempty
  rw [length_encode]
  omega

namespace Token

/-- White space around a token does not matter. -/
@[simp] theorem decode?_trim (data : Bytes) : decode? (Bytes.trim data) = decode? data := by
  rw [decode?, decode?, Bytes.trim_trim]

/-- A buffer with a byte that no token has is no token. -/
theorem decode?_eq_none_of_mem
    {data : Bytes}
    {byte : UInt8}
    (member : byte ∈ Bytes.trim data)
    (foreign : isTokenByte byte = false) :
    decode? data = none := by
  have notAll : (Bytes.trim data).all isTokenByte = false := by
    rw [List.all_eq_false]
    exact ⟨byte, member, by simp [foreign]⟩
  simp [decode?, notAll]

/-- A buffer that is shorter than a token is none. -/
theorem decode?_eq_none_of_length_lt
    {data : Bytes}
    (short : data.length < minimumLength) :
    decode? data = none := by
  have noLonger : (Bytes.trim data).length ≤ data.length := length_trimWhile_le Bytes.isBlank data
  have tooShort : ¬minimumLength ≤ (Bytes.trim data).length := by omega
  simp [decode?, tooShort]

theorem unwrap_of_decode?_eq_none
    {data : Bytes}
    (noToken : decode? data = none) :
    unwrap data = data := by
  rw [unwrap, noToken, Option.getD_none]

/-- A token is shown without the white space around it. -/
theorem wrap_of_decode?
    {data bytes : Bytes}
    (decoded : decode? data = some bytes) :
    wrap data = Bytes.trim data := by
  rw [wrap, decoded, Option.isSome_some, if_pos rfl]

/-- A buffer that is no token is shown by its symbols. -/
theorem wrap_of_decode?_eq_none
    {data : Bytes}
    (noToken : decode? data = none) :
    wrap data = encode .urlSafe data := by
  rw [wrap, noToken]
  rfl

/-- Every token spells something. -/
theorem ne_nil_of_decode?
    {data bytes : Bytes}
    (decoded : decode? data = some bytes) :
    bytes ≠ [] := by
  rintro rfl
  dsimp only [decode?] at decoded
  split at decoded
  next =>
    split at decoded
    next => cases decoded
    next nonempty _ => exact nonempty (Option.some.inj decoded)
    next => cases decoded
  next => cases decoded

/-- A buffer stands for nothing only if it is empty itself. -/
theorem unwrap_eq_nil_iff
    {data : Bytes} :
    unwrap data = [] ↔ data = [] := by
  cases decoded : decode? data with
  | none => rw [unwrap_of_decode?_eq_none decoded]
  | some bytes =>
      have spells := ne_nil_of_decode? decoded
      rw [unwrap_of_decode? decoded]
      refine ⟨fun empty => absurd empty spells, ?_⟩
      rintro rfl
      cases decoded

/-- A buffer is shown as nothing only if it is empty itself. -/
theorem wrap_eq_nil_iff
    {data : Bytes} :
    wrap data = [] ↔ data = [] := by
  refine ⟨fun nothing => ?_, fun empty => by rw [empty]; rfl⟩
  cases decoded : decode? data with
  | none =>
      by_contra nonempty
      have longer := length_lt_encode .urlSafe nonempty
      rw [← wrap_of_decode?_eq_none decoded, nothing] at longer
      exact Nat.not_lt_zero _ longer
  | some bytes =>
      rw [wrap_of_decode? decoded] at nothing
      rw [← decode?_trim, nothing] at decoded
      cases decoded

/-- A buffer that is no token is not shown as it is. -/
theorem wrap_ne_self
    {data : Bytes}
    (nonempty : data ≠ [])
    (noToken : decode? data = none) :
    wrap data ≠ data := by
  intro same
  have longer := length_lt_encode .urlSafe nonempty
  rw [← wrap_of_decode?_eq_none noToken, same] at longer
  exact Nat.lt_irrefl _ longer

/-- A buffer that is a token, or that is one once it has been encoded. -/
def Wraps (data : Bytes) : Prop :=
  (decode? data).isSome = true ∨ 12 ≤ data.length

/-- What is shown as Base64 has no white space around it. -/
@[simp] theorem trim_wrap (data : Bytes) : Bytes.trim (wrap data) = wrap data := by
  rw [wrap]
  split
  · exact Bytes.trim_trim data
  · exact trim_encode _ _

/-- What is shown as Base64 spells what the buffer stands for. -/
theorem decode?_wrap
    {data : Bytes}
    (wraps : Wraps data) :
    decode? (wrap data) = some (unwrap data) := by
  cases decoded : decode? data with
  | some bytes =>
      rw [wrap_of_decode? decoded, decode?_trim, unwrap_of_decode? decoded, decoded]
  | none =>
      have long : 12 ≤ data.length := by simpa [Wraps, decoded] using wraps
      have spelled := decode?_of_spelling long (Spelling.refl (encode .urlSafe data))
      rw [decode?_trim] at spelled
      rw [unwrap_of_decode?_eq_none decoded, wrap_of_decode?_eq_none decoded, spelled]

/-- What is shown as Base64 stands for what the buffer stands for. -/
theorem unwrap_wrap
    {data : Bytes}
    (wraps : Wraps data) :
    unwrap (wrap data) = unwrap data :=
  unwrap_of_decode? (decode?_wrap wraps)

/-- What is shown as Base64 is shown as it is. -/
theorem wrap_wrap
    {data : Bytes}
    (wraps : Wraps data) :
    wrap (wrap data) = wrap data := by
  rw [wrap_of_decode? (decode?_wrap wraps), trim_wrap]

/-! ## Buffers too short to wrap -/

section Short

variable {data : Bytes} (short : ¬Wraps data)

include short

theorem decode?_eq_none_of_not_wraps : decode? data = none := by
  rw [Wraps, not_or, Bool.not_eq_true, Option.isSome_eq_false_iff, Option.isNone_iff_eq_none]
    at short
  exact short.1

/-- A buffer too short to wrap is shown by fewer symbols than a token has. -/
theorem length_wrap_lt : (wrap data).length < minimumLength := by
  have atMostEleven : ¬12 ≤ data.length := fun long => short (Or.inr long)
  rw [wrap_of_decode?_eq_none (decode?_eq_none_of_not_wraps short), length_encode, minimumLength]
  omega

/-- What a buffer too short to wrap is shown as is no token. -/
theorem decode?_wrap_of_not_wraps : decode? (wrap data) = none :=
  decode?_eq_none_of_length_lt (length_wrap_lt short)

end Short

/-- What a buffer is shown as stands for what the buffer stands for exactly when the buffer is a
token or long enough to become one. -/
theorem unwrap_wrap_iff
    {data : Bytes}
    (nonempty : data ≠ []) :
    unwrap (wrap data) = unwrap data ↔ Wraps data := by
  refine ⟨fun same => ?_, unwrap_wrap⟩
  by_contra short
  have noToken := decode?_eq_none_of_not_wraps short
  rw [unwrap_of_decode?_eq_none (decode?_wrap_of_not_wraps short),
    unwrap_of_decode?_eq_none noToken] at same
  exact wrap_ne_self nonempty noToken same

/-- What a buffer is shown as is shown as it is exactly when the buffer is a token or long enough to
become one. -/
theorem wrap_wrap_iff
    {data : Bytes}
    (nonempty : data ≠ []) :
    wrap (wrap data) = wrap data ↔ Wraps data := by
  refine ⟨fun same => ?_, wrap_wrap⟩
  by_contra short
  have shownNonempty : wrap data ≠ [] := mt wrap_eq_nil_iff.mp nonempty
  exact wrap_ne_self shownNonempty (decode?_wrap_of_not_wraps short) same

end Token
end Base64
end Lockbox
