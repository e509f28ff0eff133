import Lockbox.Encoding
import Lockbox.Proofs.Base64.Wrapping
import Lockbox.Proofs.Text.Utf8

/-!
# What the readers accept

A reader that knows how many marks to ask for accepts one text for some bytes
(`decode_canonical_eq_ok_iff`, `decode_absent_eq_ok_iff`). The forgiving readers of tokens and of
texts drop the marks at the end and try both alphabets (`decodeEither_trimEndWhile_eq_ok_iff`). Each
of these accepts a grammar that can be said without it
(`Token.decode?_eq_some_iff`, `Encoding.ofBase64_eq_ok_iff`), and every token is a text that spells
the same bytes (`Encoding.readers_accept_grammar`).
-/

namespace Lockbox
namespace Base64

/-- A reader that asks for all marks decodes the padded encoding of the bytes and nothing else. -/
theorem decode_canonical_eq_ok_iff
    {alphabet : Alphabet}
    {text bytes : Bytes} :
    decode alphabet .canonical text = .ok bytes ↔ text = encodePadded alphabet bytes := by
  constructor
  · intro decoded
    obtain ⟨marks, closes, rfl⟩ := decode_eq_ok_iff.mp decoded
    have full := beq_iff_eq.mp closes.allowed
    have fits := closes.fits
    have noneBehindFull := closes.noneBehindFull
    have count : marks = (4 - (encode alphabet bytes).length % 4) % 4 := by omega
    rw [encodePadded, ← count]
  · rintro rfl
    exact decode_encodePadded alphabet bytes

/-- A reader that asks for no marks decodes the encoding of the bytes and nothing else. -/
theorem decode_absent_eq_ok_iff
    {alphabet : Alphabet}
    {text bytes : Bytes} :
    decode alphabet .absent text = .ok bytes ↔ text = encode alphabet bytes := by
  constructor
  · intro decoded
    obtain ⟨marks, closes, rfl⟩ := decode_eq_ok_iff.mp decoded
    rw [beq_iff_eq.mp closes.allowed, List.replicate_zero, List.append_nil]
  · rintro rfl
    exact decode_encode (fun _ => rfl) alphabet bytes

/-- A text without the marks at its end is the encoding of the bytes exactly when it consists of
their symbols and of marks. -/
theorem trimEndWhile_eq_encode_iff
    {alphabet : Alphabet}
    {text bytes : Bytes} :
    trimEndWhile (· == padMark) text = encode alphabet bytes ↔
      ∃ marks, text = encode alphabet bytes ++ List.replicate marks padMark := by
  constructor
  · intro trimmed
    obtain ⟨removed, split, allMarks⟩ := exists_append_trimEndWhile (· == padMark) text
    have removedEq : removed = List.replicate removed.length padMark :=
      List.eq_replicate_iff.mpr ⟨rfl, fun mark member => beq_iff_eq.mp (allMarks mark member)⟩
    exact ⟨removed.length, by rw [← removedEq, ← trimmed]; exact split⟩
  · rintro ⟨marks, rfl⟩
    exact trimEndWhile_marked_encode alphabet bytes marks

/-- Marked encodings that are the same are encodings of the same bytes. -/
theorem eq_of_marked_encode_eq
    {alphabet other : Alphabet}
    {first second : Bytes}
    {marks otherMarks : Nat}
    (same : encode alphabet first ++ List.replicate marks padMark =
      encode other second ++ List.replicate otherMarks padMark) :
    first = second := by
  have symbols := trimEndWhile_marked_encode alphabet first marks
  rw [same, trimEndWhile_marked_encode] at symbols
  exact (eq_of_encode_eq_encode symbols).symm

/-- A text decodes without the marks at its end exactly when it consists of the symbols of the bytes
in some alphabet and of marks. -/
theorem decodeEither_trimEndWhile_eq_ok_iff
    {text bytes : Bytes} :
    decodeEither (trimEndWhile (· == padMark) text) = .ok bytes ↔
      ∃ alphabet marks, text = encode alphabet bytes ++ List.replicate marks padMark := by
  constructor
  · intro decoded
    obtain ⟨alphabet, decodedIn⟩ := exists_decode_of_decodeEither_eq_ok decoded
    obtain ⟨inner, -, bodyEq⟩ := decode_eq_ok_iff.mp decodedIn
    -- No mark is left at the end, so none of those that the decoder would let pass.
    have body : trimEndWhile (· == padMark) text = encode alphabet bytes := by
      rw [← trimEndWhile_trimEndWhile, bodyEq, trimEndWhile_marked_encode]
    exact ⟨alphabet, trimEndWhile_eq_encode_iff.mp body⟩
  · rintro ⟨alphabet, marks, rfl⟩
    rw [trimEndWhile_marked_encode, decodeEither_encode]

namespace Token

/-- A buffer is a token of some bytes exactly when, trimmed, it is long enough and consists of their
symbols in some alphabet and of at most two marks. -/
theorem decode?_eq_some_iff
    {data bytes : Bytes} :
    decode? data = some bytes ↔
      bytes ≠ [] ∧ minimumLength ≤ (Bytes.trim data).length ∧
        ∃ alphabet marks, marks ≤ 2 ∧
          Bytes.trim data = encode alphabet bytes ++ List.replicate marks padMark := by
  constructor
  · intro decoded
    have nonempty := ne_nil_of_decode? decoded
    dsimp only [decode?] at decoded
    split at decoded
    next shaped =>
      simp only [Bool.and_eq_true, decide_eq_true_eq] at shaped
      obtain ⟨⟨⟨long, -⟩, short⟩, -⟩ := shaped
      have spelled : decodeEither (trimEndWhile (· == padMark) (Bytes.trim data)) = .ok bytes := by
        split at decoded
        next => cases decoded
        next decodedBytes _ read => rw [read, Option.some.inj decoded]
        next => cases decoded
      obtain ⟨alphabet, marks, written⟩ := decodeEither_trimEndWhile_eq_ok_iff.mp spelled
      refine ⟨nonempty, long, alphabet, marks, ?_, written⟩
      rw [written, trimEndWhile_marked_encode, List.length_append, List.length_replicate] at short
      omega
    next => cases decoded
  · rintro ⟨-, long, alphabet, marks, atMostTwo, written⟩
    rw [written, List.length_append, List.length_replicate] at long
    rw [← decode?_trim, written]
    exact decode?_marked_encode alphabet long atMostTwo

/-- What a token spells is shorter than the token. -/
theorem length_lt_of_decode?
    {data bytes : Bytes}
    (decoded : decode? data = some bytes) :
    bytes.length < (Bytes.trim data).length := by
  obtain ⟨nonempty, -, alphabet, marks, -, trimmed⟩ := decode?_eq_some_iff.mp decoded
  rw [trimmed, List.length_append]
  exact Nat.lt_add_right _ (length_lt_encode alphabet nonempty)

end Token
end Base64

/-! ## Texts -/

namespace Base64

theorem Alphabet.textIsBlank_symbol
    (alphabet : Alphabet)
    {value : Nat}
    (small : value < 64) :
    Text.isBlank (Char.ofNat (alphabet.symbol value).toNat) = false := by
  revert value
  cases alphabet <;> decide

section Texts

variable (alphabet : Alphabet) (bytes : Bytes) (marks : Nat)

/-- Trimming a text of symbols and marks with white space around it leaves the symbols and the
marks. -/
theorem trim_ofAscii_surrounded_encode
    {before after : Text}
    (blankBefore : ∀ char ∈ before, Text.isBlank char = true)
    (blankAfter : ∀ char ∈ after, Text.isBlank char = true) :
    Text.trim
        (before ++ Text.ofAscii (encode alphabet bytes ++ List.replicate marks padMark) ++ after) =
      Text.ofAscii (encode alphabet bytes ++ List.replicate marks padMark) := by
  apply trimWhile_surrounded blankBefore _ blankAfter
  intro char member
  obtain ⟨byte, inText, rfl⟩ := List.mem_map.mp member
  rcases mem_marked_encode inText with ⟨value, small, rfl⟩ | rfl
  · exact alphabet.textIsBlank_symbol small
  · decide

theorem trim_ofAscii_marked_encode :
    Text.trim (Text.ofAscii (encode alphabet bytes ++ List.replicate marks padMark)) =
      Text.ofAscii (encode alphabet bytes ++ List.replicate marks padMark) := by
  have nothing : ∀ char ∈ ([] : Text), Text.isBlank char = true := by simp
  have trimmed := trim_ofAscii_surrounded_encode alphabet bytes marks nothing nothing
  rwa [List.nil_append, List.append_nil] at trimmed

end Texts
end Base64

/-- White space of buffers is white space of texts. -/
theorem Text.isBlank_of_bytes
    {byte : UInt8}
    (blank : Bytes.isBlank byte = true) :
    Text.isBlank (Char.ofNat byte.toNat) = true := by
  simp only [Bytes.isBlank, Bool.or_eq_true, beq_iff_eq] at blank
  rcases blank with (((rfl | rfl) | rfl) | rfl) | rfl <;> decide

/-- A text whose bytes are an ASCII text with white space around it consists of the same. -/
theorem Text.trim_of_trim_bytes
    {text : Text}
    {alphabet : Base64.Alphabet}
    {bytes : Bytes}
    {marks : Nat}
    (trimmed : Bytes.trim (Utf8.encode text) =
      Base64.encode alphabet bytes ++ List.replicate marks Base64.padMark) :
    Text.trim text =
      Text.ofAscii (Base64.encode alphabet bytes ++ List.replicate marks Base64.padMark) := by
  obtain ⟨before, after, split, blankBefore, blankAfter⟩ :=
    exists_surrounded_trimWhile Bytes.isBlank (Utf8.encode text)
  rw [← Bytes.trim, trimmed] at split
  have ascii : ∀ byte ∈ before ++
      (Base64.encode alphabet bytes ++ List.replicate marks Base64.padMark) ++ after,
      byte.toNat < 0x80 := by
    intro byte member
    rw [List.mem_append, List.mem_append] at member
    rcases member with (inBefore | inToken) | inAfter
    · exact Bytes.ascii_of_isBlank (blankBefore byte inBefore)
    · exact Base64.ascii_of_mem_marked_encode inToken
    · exact Bytes.ascii_of_isBlank (blankAfter byte inAfter)
  have blank : ∀ {surround : Bytes}, (∀ byte ∈ surround, Bytes.isBlank byte = true) →
      ∀ char ∈ Text.ofAscii surround, Text.isBlank char = true := by
    intro surround allBlank char member
    obtain ⟨byte, inSurround, rfl⟩ := List.mem_map.mp member
    exact Text.isBlank_of_bytes (allBlank byte inSurround)
  rw [(Utf8.encode_eq_iff_of_ascii ascii).mp split]
  simp only [Text.ofAscii, List.map_append]
  rw [← List.map_append]
  exact Base64.trim_ofAscii_surrounded_encode _ _ _ (blank blankBefore) (blank blankAfter)

namespace Encoding

/-- A text is read as some bytes exactly when, trimmed, it consists of their symbols in some
alphabet and of any number of marks. -/
theorem ofBase64_eq_ok_iff
    {text : Text}
    {bytes : Bytes} :
    ofBase64 text = .ok bytes ↔
      bytes ≠ [] ∧ ∃ alphabet marks,
        Text.trim text =
          Text.ofAscii (Base64.encode alphabet bytes ++ List.replicate marks Base64.padMark) := by
  have asBytes : ∀ alphabet marks,
      Text.trim text =
          Text.ofAscii (Base64.encode alphabet bytes ++ List.replicate marks Base64.padMark) ↔
        Utf8.encode (Text.trim text) =
          Base64.encode alphabet bytes ++ List.replicate marks Base64.padMark :=
    fun _ _ => (Utf8.encode_eq_iff_of_ascii fun _ => Base64.ascii_of_mem_marked_encode).symm
  simp only [asBytes]
  rw [← Base64.decodeEither_trimEndWhile_eq_ok_iff]
  dsimp only [ofBase64]
  cases decoded : Base64.decodeEither
      (trimEndWhile (· == Base64.padMark) (Utf8.encode (Text.trim text))) with
  | error fault => simp
  | ok decodedBytes =>
      cases decodedBytes with
      | nil =>
          simp only [reduceCtorEq, Except.ok.injEq, false_iff, not_and]
          exact fun nonempty empty => nonempty empty.symm
      | cons first others =>
          simp only [Except.ok.injEq, iff_and_self]
          rintro rfl
          simp

/-- What has been encoded is read again. -/
theorem ofBase64_toBase64
    {bytes : Bytes}
    (nonempty : bytes ≠ []) :
    ofBase64 (Text.ofAscii (toBase64 bytes)) = .ok bytes := by
  refine ofBase64_eq_ok_iff.mpr ⟨nonempty, .urlSafe, 0, ?_⟩
  have trimmed := Base64.trim_ofAscii_marked_encode .urlSafe bytes 0
  rw [List.replicate_zero, List.append_nil] at trimmed ⊢
  exact trimmed

/-- Every token is a text of the same bytes. -/
theorem ofBase64_of_decode?
    {text : Text}
    {bytes : Bytes}
    (decoded : Base64.Token.decode? (Utf8.encode text) = some bytes) :
    ofBase64 text = .ok bytes := by
  obtain ⟨nonempty, -, alphabet, marks, -, trimmed⟩ := Base64.Token.decode?_eq_some_iff.mp decoded
  exact ofBase64_eq_ok_iff.mpr ⟨nonempty, alphabet, marks, Text.trim_of_trim_bytes trimmed⟩

/-- The readers of tokens and of texts accept exactly their grammars: the symbols of the bytes in
either alphabet with marks behind them, at most two for a token and any number for a text. So what
has been encoded is read again, and every token is a text of the same bytes. -/
theorem readers_accept_grammar :
    (∀ data bytes,
      Base64.Token.decode? data = some bytes ↔
        bytes ≠ [] ∧ Base64.Token.minimumLength ≤ (Bytes.trim data).length ∧
          ∃ alphabet marks, marks ≤ 2 ∧
            Bytes.trim data =
              Base64.encode alphabet bytes ++ List.replicate marks Base64.padMark) ∧
    (∀ text bytes,
      ofBase64 text = .ok bytes ↔
        bytes ≠ [] ∧ ∃ alphabet marks,
          Text.trim text =
            Text.ofAscii
              (Base64.encode alphabet bytes ++ List.replicate marks Base64.padMark)) ∧
    (∀ bytes, bytes ≠ [] → ofBase64 (Text.ofAscii (toBase64 bytes)) = .ok bytes) ∧
    ∀ text bytes, Base64.Token.decode? (Utf8.encode text) = some bytes →
      ofBase64 text = .ok bytes :=
  ⟨fun _ _ => Base64.Token.decode?_eq_some_iff, fun _ _ => ofBase64_eq_ok_iff,
    fun _ => ofBase64_toBase64, fun _ _ => ofBase64_of_decode?⟩

end Encoding
end Lockbox
