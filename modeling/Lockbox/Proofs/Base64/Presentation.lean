import Lockbox.Proofs.Base64.Grammar

/-!
# Buffers shown as texts

What a buffer is shown as is a text of ASCII characters (`Base64.Token.ascii_of_mem_wrap`), and the
reader of texts finds in it what the buffer stands for, however short the buffer is
(`Encoding.ofBase64_of_wrap`). Whether the reader of tokens finds the same, and whether the text is
itself shown as it is, are one question, which the length of the buffer decides
(`Encoding.present_stable_iff_wraps`).
-/

namespace Lockbox

/-- What a buffer is shown as is ASCII. -/
theorem Base64.Token.ascii_of_mem_wrap
    {data : Bytes}
    {byte : UInt8}
    (member : byte ∈ wrap data) :
    byte.toNat < 0x80 := by
  cases decoded : decode? data with
  | none =>
      rw [wrap_of_decode?_eq_none decoded] at member
      exact ascii_of_mem_encode member
  | some bytes =>
      obtain ⟨-, -, alphabet, marks, -, trimmed⟩ := decode?_eq_some_iff.mp decoded
      rw [wrap_of_decode? decoded, trimmed] at member
      exact ascii_of_mem_marked_encode member

namespace Encoding

open Base64

/-- The reader of texts finds in what a buffer is shown as what the buffer stands for. -/
theorem ofBase64_of_wrap
    {data : Bytes}
    {text : Text}
    (nonempty : data ≠ [])
    (shown : Utf8.encode text = Token.wrap data) :
    ofBase64 text = .ok (Token.unwrap data) := by
  cases decoded : Token.decode? data with
  | none =>
      rw [Token.wrap_of_decode?_eq_none decoded,
        Utf8.encode_eq_iff_of_ascii fun _ => ascii_of_mem_encode] at shown
      rw [Token.unwrap_of_decode?_eq_none decoded, shown]
      exact ofBase64_toBase64 nonempty
  | some bytes =>
      have wraps : Token.Wraps data := Or.inl (by rw [decoded, Option.isSome_some])
      apply ofBase64_of_decode?
      rw [shown, Token.decode?_wrap wraps]

/-- Every buffer that is not empty is shown as a text. The text stands for what the buffer stands
for, and is itself shown as it is, exactly when the buffer is a token or has at least twelve bytes.
Otherwise it is shorter than a token and stands for itself, and the reader of texts finds the buffer
in it. -/
theorem present_stable_iff_wraps
    {data : Bytes}
    (nonempty : data ≠ []) :
    ∃ text : Text,
      present data = .ok (Utf8.encode text) ∧
        (Token.unwrap (Utf8.encode text) = Token.unwrap data ↔ Token.Wraps data) ∧
        (present (Utf8.encode text) = .ok (Utf8.encode text) ↔ Token.Wraps data) ∧
        (¬Token.Wraps data →
          text.length < 16 ∧
            Token.unwrap (Utf8.encode text) = Utf8.encode text ∧
            ofBase64 text = .ok data) := by
  have shown : Utf8.encode (Text.ofAscii (Token.wrap data)) = Token.wrap data :=
    Utf8.encode_ofAscii fun _ => Token.ascii_of_mem_wrap
  have shownNonempty : Token.wrap data ≠ [] := mt Token.wrap_eq_nil_iff.mp nonempty
  refine ⟨Text.ofAscii (Token.wrap data), ?_, ?_, ?_, fun short => ⟨?_, ?_, ?_⟩⟩
  · rw [shown, present_of_ne_nil nonempty]
  · rw [shown, Token.unwrap_wrap_iff nonempty]
  · rw [shown, present_of_ne_nil shownNonempty, Except.ok.injEq, Token.wrap_wrap_iff nonempty]
  · rw [Text.ofAscii, List.length_map]
    exact Token.length_wrap_lt short
  · rw [shown, Token.unwrap_of_decode?_eq_none (Token.decode?_wrap_of_not_wraps short)]
  · rw [ofBase64_of_wrap nonempty shown,
      Token.unwrap_of_decode?_eq_none (Token.decode?_eq_none_of_not_wraps short)]

/-- Eleven bytes have one symbol too few for a token, twelve have enough. -/
theorem present_stable_iff_wraps_twelveBytes :
    (∃ text : Text,
      present (List.replicate 11 0xFF) = .ok (Utf8.encode text) ∧
        text.length < 16 ∧
        Token.unwrap (Utf8.encode text) = Utf8.encode text ∧
        ofBase64 text = .ok (List.replicate 11 0xFF)) ∧
    ∃ text : Text,
      present (List.replicate 12 0xFF) = .ok (Utf8.encode text) ∧
        Token.unwrap (Utf8.encode text) = Token.unwrap (List.replicate 12 0xFF) ∧
        present (Utf8.encode text) = .ok (Utf8.encode text) := by
  have eleven : ¬Token.Wraps (List.replicate 11 0xFF) := by
    unfold Token.Wraps
    decide +kernel
  have twelve : Token.Wraps (List.replicate 12 0xFF) := Or.inr (by decide)
  constructor
  · obtain ⟨text, shown, -, -, whenShort⟩ :=
      present_stable_iff_wraps (by decide : List.replicate 11 (0xFF : UInt8) ≠ [])
    exact ⟨text, shown, whenShort eleven⟩
  · obtain ⟨text, shown, standsAlike, shownAsIs, -⟩ :=
      present_stable_iff_wraps (by decide : List.replicate 12 (0xFF : UInt8) ≠ [])
    exact ⟨text, shown, standsAlike.mpr twelve, shownAsIs.mpr twelve⟩

end Encoding
end Lockbox
