import Lockbox.Proofs.MasterKey.KeyFile

/-!
# Texts that spell a key

A text spells a key in Base64 or by its own bytes (`MasterKey.Spells`). The readers that are tried
one after the other accept these texts and no others, whatever their order
(`MasterKey.parse_cases`); reading undoes `MasterKey.encode`.
-/

namespace Lockbox
namespace MasterKey

/-- The ways in which a text is Base64 of the bytes of a key: padded in the standard alphabet, or in
the URL-safe one with any number of marks behind it. -/
inductive IsBase64 : Text → Bytes → Prop
  | padded (bytes : Bytes) : IsBase64 (Text.ofAscii (Base64.encodePadded .standard bytes)) bytes
  | marked (bytes : Bytes) (marks : Nat) :
      IsBase64
        (Text.ofAscii (Base64.encode .urlSafe bytes ++ List.replicate marks Base64.padMark)) bytes

theorem isBase64_iff
    {trimmed : Text}
    {bytes : Bytes} :
    IsBase64 trimmed bytes ↔
      Utf8.encode trimmed = Base64.encodePadded .standard bytes ∨
        ∃ marks, Utf8.encode trimmed =
          Base64.encode .urlSafe bytes ++ List.replicate marks Base64.padMark := by
  have padded : Utf8.encode trimmed = Base64.encodePadded .standard bytes ↔
      trimmed = Text.ofAscii (Base64.encodePadded .standard bytes) :=
    Utf8.encode_eq_iff_of_ascii fun _ => Base64.ascii_of_mem_marked_encode
  have marked (marks : Nat) : Utf8.encode trimmed =
        Base64.encode .urlSafe bytes ++ List.replicate marks Base64.padMark ↔
      trimmed =
        Text.ofAscii (Base64.encode .urlSafe bytes ++ List.replicate marks Base64.padMark) :=
    Utf8.encode_eq_iff_of_ascii fun _ => Base64.ascii_of_mem_marked_encode
  simp only [padded, marked]
  constructor
  · rintro (_ | ⟨_, marks⟩)
    · exact Or.inl rfl
    · exact Or.inr ⟨marks, rfl⟩
  · rintro (rfl | ⟨marks, rfl⟩)
    · exact .padded bytes
    · exact .marked bytes marks

/-- The readers of Base64 that are tried one after the other accept these ways and no other. -/
theorem decodedText?_eq_some_iff
    {trimmed : Text}
    {bytes : Bytes} :
    decodedText? (Utf8.encode trimmed) = some bytes ↔ IsBase64 trimmed bytes := by
  rw [isBase64_iff, decodedText?]
  cases strict : Base64.decode .standard .canonical (Utf8.encode trimmed) with
  | ok decoded =>
      rw [Base64.decode_canonical_eq_ok_iff.mp strict, Option.some.injEq]
      constructor
      · rintro rfl
        exact Or.inl rfl
      · rintro (same | ⟨marks, same⟩)
        · exact Base64.eq_of_marked_encode_eq same
        · exact Base64.eq_of_marked_encode_eq same
  | error fault =>
      have notPadded : Utf8.encode trimmed ≠ Base64.encodePadded .standard bytes := by
        intro same
        rw [same, Base64.decode_encodePadded] at strict
        cases strict
      rw [or_iff_right notPadded, ← Base64.trimEndWhile_eq_encode_iff,
        ← Base64.decode_absent_eq_ok_iff]
      cases Base64.decode .urlSafe .absent
        (trimEndWhile (· == Base64.padMark) (Utf8.encode trimmed)) <;> simp [Except.toOption]

/-- Base64 of the bytes of a key is longer than they are. -/
theorem IsBase64.byteLength_ne
    {trimmed : Text}
    {bytes : Bytes}
    (isBase64 : IsBase64 trimmed bytes)
    (length : bytes.length = 32) :
    Text.byteLength trimmed ≠ 32 := by
  have symbols (alphabet : Base64.Alphabet) : (Base64.encode alphabet bytes).length = 43 := by
    rw [Base64.length_encode, length]
  rw [Text.byteLength]
  rcases isBase64_iff.mp isBase64 with written | ⟨marks, written⟩
  · rw [written, Base64.encodePadded, List.length_append, symbols]
    omega
  · rw [written, List.length_append, symbols]
    omega

/-- A text is one key, given in Base64 or raw. -/
def Spells (trimmed : Text) (bytes : Bytes) : Prop :=
  (bytes.length = 32 ∧ IsBase64 trimmed bytes) ∨
    (Text.byteLength trimmed = 32 ∧ bytes = Utf8.encode trimmed)

/-- The Base64 reading and the raw one exclude each other, so no order of them matters. -/
theorem Spells.unique
    {trimmed : Text}
    {bytes other : Bytes}
    (spells : Spells trimmed bytes)
    (spellsOther : Spells trimmed other) :
    other = bytes := by
  rcases spells with ⟨length, isBase64⟩ | ⟨length, rfl⟩
  · rcases spellsOther with ⟨otherLength, otherIsBase64⟩ | ⟨otherLength, -⟩
    · exact Option.some.inj ((decodedText?_eq_some_iff.mpr otherIsBase64).symm.trans
        (decodedText?_eq_some_iff.mpr isBase64))
    · exact absurd otherLength (isBase64.byteLength_ne length)
  · rcases spellsOther with ⟨otherLength, otherIsBase64⟩ | ⟨-, rfl⟩
    · exact absurd length (otherIsBase64.byteLength_ne otherLength)
    · rfl

/-- The outcome of reading a text: a key that it spells, or else a fault. -/
theorem parse_cases (text : Text) (origin : KeyOrigin) :
    (∃ bytes : FixedBytes 32, Spells (Text.trim text) bytes.val ∧
        parse text origin = .ok ⟨bytes, origin⟩) ∨
      (∀ bytes, ¬ Spells (Text.trim text) bytes) ∧ ∃ fault, parse text origin = .error fault := by
  cases base64 : (decodedText? (Utf8.encode (Text.trim text))).bind (FixedBytes.ofBytes? 32) with
  | some bytes =>
      obtain ⟨decoded, decodedText, sized⟩ := Option.bind_eq_some_iff.mp base64
      rw [← FixedBytes.ofBytes?_eq_some_iff.mp sized, decodedText?_eq_some_iff] at decodedText
      exact Or.inl ⟨bytes, Or.inl ⟨bytes.property, decodedText⟩, by simp only [parse, base64]⟩
  | none =>
      cases raw : FixedBytes.ofBytes? 32 (Utf8.encode (Text.trim text)) with
      | some bytes =>
          have whole := FixedBytes.ofBytes?_eq_some_iff.mp raw
          refine Or.inl ⟨bytes, Or.inr ⟨?_, whole⟩, by simp only [parse, base64, raw]⟩
          rw [Text.byteLength, ← whole, bytes.property]
      | none =>
          refine Or.inr ⟨?_, ?_⟩
          · rintro bytes (⟨length, isBase64⟩ | ⟨length, -⟩)
            · rw [decodedText?_eq_some_iff.mpr isBase64, Option.bind_some,
                FixedBytes.ofBytes?_eq_none_iff] at base64
              exact base64 length
            · exact FixedBytes.ofBytes?_eq_none_iff.mp raw length
          · cases decoded : decodedText? (Utf8.encode (Text.trim text)) with
            | some bytes =>
                rw [decoded] at base64
                exact ⟨.decodedLength bytes.length, by simp only [parse, decoded, base64, raw]⟩
            | none =>
                rw [decoded] at base64
                exact ⟨.unreadable, by simp only [parse, decoded, base64, raw]⟩

/-- White space around the text in which a key is kept is passed over. -/
theorem parse_surrounded_encode
    {key : MasterKey}
    {origin : KeyOrigin}
    {before after : Text}
    (blankBefore : ∀ char ∈ before, Text.isBlank char = true)
    (blankAfter : ∀ char ∈ after, Text.isBlank char = true) :
    parse (before ++ Text.ofAscii key.encode ++ after) origin =
      .ok { key with origin := origin } := by
  have trimmed : Text.trim (before ++ Text.ofAscii key.encode ++ after) =
      Text.trim (Text.ofAscii key.encode) := by
    rw [encode, Base64.encodePadded,
      Base64.trim_ofAscii_surrounded_encode _ _ _ blankBefore blankAfter,
      Base64.trim_ofAscii_marked_encode]
  rw [← parse_encode, parse, parse, trimmed]

/-- The texts that are read as a key are the ones that spell it, in Base64 or else raw; on any other
text the decoding fails. The text in which a key is kept is read as the key, whatever white space is
around it. -/
theorem ofText_spelled (text : Text) (origin : KeyOrigin) :
    (∀ bytes,
      (∃ key, ofText text origin = .ok key ∧ key.origin = origin ∧ key.bytes.val = bytes) ↔
        Spells (Text.trim text) bytes) ∧
    (∀ bytes, bytes.length = 32 → IsBase64 (Text.trim text) bytes →
      Text.byteLength (Text.trim text) ≠ 32) ∧
    ((∀ bytes, ¬ Spells (Text.trim text) bytes) →
      ∃ fault, ofText text origin = .error (.decode fault)) ∧
    ∀ (key : MasterKey) (before after : Text),
      (∀ char ∈ before, Text.isBlank char = true) →
      (∀ char ∈ after, Text.isBlank char = true) →
      text = before ++ Text.ofAscii key.encode ++ after →
      ofText text origin = .ok { key with origin := origin } := by
  refine ⟨?_, fun bytes length isBase64 => isBase64.byteLength_ne length, ?_, ?_⟩
  · intro bytes
    rcases parse_cases text origin with
      ⟨parsedBytes, spells, parsed⟩ | ⟨spellsNothing, fault, refused⟩
    · simp only [ofText, parsed, Except.mapError, Except.ok.injEq, exists_eq_left', true_and]
      constructor
      · rintro rfl
        exact spells
      · exact fun spellsToo => spellsToo.unique spells
    · simp only [ofText, refused, Except.mapError, reduceCtorEq, false_and, exists_false,
        spellsNothing bytes]
  · intro spellsNothing
    rcases parse_cases text origin with ⟨bytes, spells, -⟩ | ⟨-, fault, refused⟩
    · exact absurd spells (spellsNothing bytes.val)
    · exact ⟨fault, by rw [ofText, refused, Except.mapError]⟩
  · rintro key before after blankBefore blankAfter rfl
    rw [ofText_eq_ok_iff, parse_surrounded_encode blankBefore blankAfter]

/-- A key with every byte seven. -/
def keyOfSevens (origin : KeyOrigin) : MasterKey where
  bytes := ⟨List.replicate 32 7, rfl⟩
  origin := origin

/-- A key behind a line feed, one of thirty-two letters, and a text that is too short. -/
theorem ofText_spelled_samples :
    ofText ("\n".toList ++ Text.ofAscii (keyOfSevens .ephemeral).encode ++ " ".toList) .keyring =
      .ok (keyOfSevens .keyring) ∧
    (∃ key, ofText (List.replicate 32 'k') .environment = .ok key ∧
      key.origin = .environment ∧ key.bytes.val = List.replicate 32 0x6B) ∧
    ∃ fault, ofText "short".toList .environment = .error (.decode fault) := by
  have blankFront : ∀ char ∈ "\n".toList, Text.isBlank char = true := List.all_eq_true.mp rfl
  have blankBack : ∀ char ∈ " ".toList, Text.isBlank char = true := List.all_eq_true.mp rfl
  refine ⟨(ofText_spelled _ .keyring).2.2.2 _ _ _ blankFront blankBack rfl,
    ((ofText_spelled _ .environment).1 _).mpr (Or.inr ⟨by decide, by decide⟩),
    (ofText_spelled _ .environment).2.2.1 ?_⟩
  have undecoded : decodedText? (Utf8.encode (Text.trim "short".toList)) = none := by decide
  rintro bytes (⟨-, isBase64⟩ | ⟨length, -⟩)
  · rw [decodedText?_eq_some_iff.mpr isBase64] at undecoded
    cases undecoded
  · exact absurd length (by decide)

end MasterKey
end Lockbox
