import Lockbox.Base64.Token
import Lockbox.Proofs.Base64.Canonical
import Lockbox.Proofs.Text.Trim

/-!
# Spellings of a token

The same bytes can be written in either alphabet, with up to two padding marks, and with white space
around them. All these spellings are read alike (`Token.decode?_of_spelling`).
-/

namespace Lockbox
namespace Base64

/-- An unpadded URL-safe text rewritten in an alphabet. -/
def Alphabet.respell (alphabet : Alphabet) (text : Bytes) : Bytes :=
  text.map fun byte =>
    if byte = urlSafe.minusOrPlus then alphabet.minusOrPlus
    else if byte = urlSafe.lowLineOrSolidus then alphabet.lowLineOrSolidus
    else byte

/-- Another way to write an unpadded URL-safe text. -/
inductive Spelling (text : Bytes) : Bytes → Prop
  | intro (alphabet : Alphabet) (marks : Nat) (atMostTwo : marks ≤ 2) (before after : Bytes)
      (blankBefore : ∀ byte ∈ before, Bytes.isBlank byte = true)
      (blankAfter : ∀ byte ∈ after, Bytes.isBlank byte = true) :
      Spelling text
        (before ++ (alphabet.respell text ++ List.replicate marks padMark) ++ after)

/-- A text spells itself. -/
theorem Spelling.refl (text : Bytes) : Spelling text text := by
  have same : Alphabet.urlSafe.respell text = text := by
    unfold Alphabet.respell
    conv => rhs; rw [← List.map_id text]
    apply List.map_congr_left
    intro byte _
    split
    next minus => exact minus.symm
    next =>
      split
      next lowLine => exact lowLine.symm
      next => rfl
  have spelled : Spelling text ([] ++ (Alphabet.urlSafe.respell text ++ []) ++ []) :=
    .intro .urlSafe 0 (by decide) [] [] (by simp) (by simp)
  simpa [same] using spelled

namespace Alphabet

theorem respell_symbol
    (alphabet : Alphabet)
    {value : Nat}
    (small : value < 64) :
    (if urlSafe.symbol value = urlSafe.minusOrPlus then alphabet.minusOrPlus
      else if urlSafe.symbol value = urlSafe.lowLineOrSolidus then alphabet.lowLineOrSolidus
      else urlSafe.symbol value) = alphabet.symbol value := by
  revert value
  cases alphabet <;> decide

/-- Rewriting the symbols of a buffer gives its symbols in the other alphabet. -/
theorem respell_encode (alphabet : Alphabet) (bytes : Bytes) :
    alphabet.respell (encode .urlSafe bytes) = encode alphabet bytes := by
  rw [encode_eq_map_values, encode_eq_map_values, respell, List.map_map]
  apply List.map_congr_left
  intro value member
  exact alphabet.respell_symbol (lt_of_mem_values member)

theorem isBlank_symbol
    (alphabet : Alphabet)
    {value : Nat}
    (small : value < 64) :
    Bytes.isBlank (alphabet.symbol value) = false := by
  revert value
  cases alphabet <;> decide

theorem isTokenByte_symbol
    (alphabet : Alphabet)
    {value : Nat}
    (small : value < 64) :
    Token.isTokenByte (alphabet.symbol value) = true := by
  revert value
  cases alphabet <;> decide

theorem symbol_ascii
    (alphabet : Alphabet)
    {value : Nat}
    (small : value < 64) :
    (alphabet.symbol value).toNat < 0x80 := by
  revert value
  cases alphabet <;> decide

end Alphabet

/-- Every symbol of a buffer is an ASCII byte. -/
theorem ascii_of_mem_encode
    {alphabet : Alphabet}
    {bytes : Bytes}
    {symbol : UInt8}
    (member : symbol ∈ encode alphabet bytes) :
    symbol.toNat < 0x80 := by
  rw [encode_eq_map_values] at member
  obtain ⟨value, inValues, rfl⟩ := List.mem_map.mp member
  exact alphabet.symbol_ascii (lt_of_mem_values inValues)

/-- The symbols of a buffer with marks behind them. -/
theorem mem_marked_encode
    {alphabet : Alphabet}
    {bytes : Bytes}
    {marks : Nat}
    {byte : UInt8}
    (member : byte ∈ encode alphabet bytes ++ List.replicate marks padMark) :
    (∃ value < 64, byte = alphabet.symbol value) ∨ byte = padMark := by
  rcases List.mem_append.mp member with inSymbols | inMarks
  · rw [encode_eq_map_values] at inSymbols
    obtain ⟨value, inValues, rfl⟩ := List.mem_map.mp inSymbols
    exact Or.inl ⟨value, lt_of_mem_values inValues, rfl⟩
  · exact Or.inr (List.eq_of_mem_replicate inMarks)

theorem ascii_of_mem_marked_encode
    {alphabet : Alphabet}
    {bytes : Bytes}
    {marks : Nat}
    {byte : UInt8}
    (member : byte ∈ encode alphabet bytes ++ List.replicate marks padMark) :
    byte.toNat < 0x80 := by
  rcases mem_marked_encode member with ⟨value, small, rfl⟩ | rfl
  · exact alphabet.symbol_ascii small
  · decide

/-- Trimming a spelling leaves the symbols and the marks. -/
theorem trim_surrounded_encode
    (alphabet : Alphabet)
    (bytes : Bytes)
    (marks : Nat)
    {before after : Bytes}
    (blankBefore : ∀ byte ∈ before, Bytes.isBlank byte = true)
    (blankAfter : ∀ byte ∈ after, Bytes.isBlank byte = true) :
    Bytes.trim (before ++ (encode alphabet bytes ++ List.replicate marks padMark) ++ after) =
      encode alphabet bytes ++ List.replicate marks padMark := by
  apply trimWhile_surrounded blankBefore _ blankAfter
  intro byte member
  rcases mem_marked_encode member with ⟨value, small, rfl⟩ | rfl
  · exact alphabet.isBlank_symbol small
  · rfl

theorem trimEndWhile_marked_encode
    (alphabet : Alphabet)
    (bytes : Bytes)
    (marks : Nat) :
    trimEndWhile (· == padMark) (encode alphabet bytes ++ List.replicate marks padMark) =
      encode alphabet bytes := by
  rw [trimEndWhile_append, trimEndWhile_of_forall]
  · intro byte member
    exact beq_eq_false_iff_ne.mpr (ne_padMark_of_mem_encode member)
  · intro byte member
    exact beq_iff_eq.mpr (List.eq_of_mem_replicate member)

namespace Token

/-- Symbols with at most two marks behind them, enough for a token, are read as one. -/
theorem decode?_marked_encode
    (alphabet : Alphabet)
    {bytes : Bytes}
    {marks : Nat}
    (long : minimumLength ≤ (encode alphabet bytes).length + marks)
    (atMostTwo : marks ≤ 2) :
    decode? (encode alphabet bytes ++ List.replicate marks padMark) = some bytes := by
  have trimmed : Bytes.trim ([] ++ (encode alphabet bytes ++ List.replicate marks padMark) ++ []) =
      encode alphabet bytes ++ List.replicate marks padMark :=
    trim_surrounded_encode alphabet bytes marks (by simp) (by simp)
  rw [List.nil_append, List.append_nil] at trimmed
  have tokenBytes : (encode alphabet bytes ++ List.replicate marks padMark).all isTokenByte := by
    rw [List.all_eq_true]
    intro byte member
    rcases mem_marked_encode member with ⟨value, small, rfl⟩ | rfl
    · exact alphabet.isTokenByte_symbol small
    · rfl
  have noMark : (encode alphabet bytes).contains padMark = false := by
    rw [List.contains_eq_mem, decide_eq_false_iff_not]
    intro member
    exact ne_padMark_of_mem_encode member rfl
  have nonempty : bytes ≠ [] := by
    rintro rfl
    simp only [encode, List.length_nil, minimumLength] at long
    omega
  have shaped :
      (decide (minimumLength ≤ (encode alphabet bytes ++ List.replicate marks padMark).length) &&
        (encode alphabet bytes ++ List.replicate marks padMark).all isTokenByte &&
        decide ((encode alphabet bytes ++ List.replicate marks padMark).length ≤
          (encode alphabet bytes).length + 2) &&
        !(encode alphabet bytes).contains padMark) = true := by
    rw [tokenBytes, noMark, List.length_append, List.length_replicate]
    simp only [Bool.and_true, Bool.not_false, Bool.and_eq_true, decide_eq_true_eq]
    omega
  simp only [decode?, trimmed, trimEndWhile_marked_encode, shaped, if_true, decodeEither_encode]

/-- Every spelling of at least twelve bytes is read as these bytes, trimmed or not. -/
theorem decode?_of_spelling
    {bytes text : Bytes}
    (long : 12 ≤ bytes.length)
    (spelling : Spelling (encode .urlSafe bytes) text) :
    decode? (Bytes.trim text) = some bytes := by
  cases spelling with
  | intro alphabet marks atMostTwo before after blankBefore blankAfter =>
      rw [Alphabet.respell_encode,
        trim_surrounded_encode alphabet bytes marks blankBefore blankAfter]
      apply decode?_marked_encode alphabet _ atMostTwo
      rw [length_encode, minimumLength]
      omega

/-- Every spelling of a buffer is ASCII. -/
theorem ascii_of_mem_spelling
    {bytes text : Bytes}
    (spelling : Spelling (encode .urlSafe bytes) text)
    {byte : UInt8}
    (member : byte ∈ text) :
    byte.toNat < 0x80 := by
  cases spelling with
  | intro alphabet marks atMostTwo before after blankBefore blankAfter =>
      rw [Alphabet.respell_encode, List.mem_append, List.mem_append] at member
      rcases member with (inBefore | inToken) | inAfter
      · exact Bytes.ascii_of_isBlank (blankBefore byte inBefore)
      · exact ascii_of_mem_marked_encode inToken
      · exact Bytes.ascii_of_isBlank (blankAfter byte inAfter)

/-- What a token spells stands for the token. -/
theorem unwrap_of_decode?
    {data bytes : Bytes}
    (decoded : decode? data = some bytes) :
    unwrap data = bytes := by
  rw [unwrap, decoded, Option.getD_some]

end Token
end Base64
end Lockbox
