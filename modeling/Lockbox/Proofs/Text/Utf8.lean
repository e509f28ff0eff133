import Lockbox.Text.Utf8
import Mathlib.Tactic.SplitIfs

/-!
# UTF-8 is a bijection onto its image

Reading gives back every text that has been written (`decode_encode`), and what is read is always
what would be written (`encode_of_decode_eq_ok`). Both follow from one equation of the reader for
each number of bytes that a character can take. Writing keeps the order of texts
(`encode_lt_encode`).
-/

namespace Lockbox
namespace Utf8

/-! ## The reader in terms of numbers -/

theorem isContinuation_iff (byte : UInt8) :
    isContinuation byte = true ↔ 0x80 ≤ byte.toNat ∧ byte.toNat < 0xC0 := by
  simp [isContinuation, UInt8.le_iff_toNat_le, UInt8.lt_iff_toNat_lt]

/-- A second byte continues its lead byte, within bounds that are tighter after four of these. -/
theorem isSecond_iff (lead second : UInt8) :
    isSecond lead second = true ↔
      (0x80 ≤ second.toNat ∧ second.toNat < 0xC0) ∧
        (lead.toNat = 0xE0 → 0xA0 ≤ second.toNat) ∧ (lead.toNat = 0xED → second.toNat < 0xA0) ∧
        (lead.toNat = 0xF0 → 0x90 ≤ second.toNat) ∧ (lead.toNat = 0xF4 → second.toNat < 0x90) := by
  unfold isSecond
  simp only [← UInt8.toNat_inj]
  split
  · simp_all [UInt8.le_iff_toNat_le, UInt8.lt_iff_toNat_lt]
    omega
  · split
    · simp_all [UInt8.le_iff_toNat_le, UInt8.lt_iff_toNat_lt]
      omega
    · split
      · simp_all [UInt8.le_iff_toNat_le, UInt8.lt_iff_toNat_lt]
        omega
      · split
        · simp_all [UInt8.le_iff_toNat_le, UInt8.lt_iff_toNat_lt]
          omega
        · simp_all [isContinuation_iff]

/-- The number that the bytes of a two-byte character spell. -/
def code2 (lead second : UInt8) : Nat :=
  (lead.toNat - 0xC0) * 64 + (second.toNat - 0x80)

/-- The number that the bytes of a three-byte character spell. -/
def code3 (lead second third : UInt8) : Nat :=
  (lead.toNat - 0xE0) * 4096 + (second.toNat - 0x80) * 64 + (third.toNat - 0x80)

/-- The number that the bytes of a four-byte character spell. -/
def code4 (lead second third fourth : UInt8) : Nat :=
  (lead.toNat - 0xF0) * 262144 + (second.toNat - 0x80) * 4096 + (third.toNat - 0x80) * 64 +
    (fourth.toNat - 0x80)

theorem decodeFrom_one
    {lead : UInt8}
    (ascii : lead.toNat < 0x80)
    (index : Nat)
    (rest : Bytes) :
    decodeFrom index (lead :: rest) =
      (decodeFrom (index + 1) rest).map (Char.ofNat lead.toNat :: ·) := by
  have isAscii : lead < 0x80 := UInt8.lt_iff_toNat_lt.mpr ascii
  rw [decodeFrom.eq_def]
  simp only [isAscii, if_true]

/-- The two tests that a lead byte of a longer character passes. -/
theorem lead_tests
    {lead : UInt8}
    (bounds : 0xC2 ≤ lead.toNat ∧ lead.toNat ≤ 0xF4) :
    ¬lead < 0x80 ∧ (decide (lead < 0xC2) || decide (0xF4 < lead)) = false := by
  simp only [UInt8.lt_iff_toNat_lt, UInt8.reduceToNat, Bool.or_eq_false_iff,
    decide_eq_false_iff_not]
  omega

theorem decodeFrom_two
    {lead second : UInt8}
    (bounds : 0xC2 ≤ lead.toNat ∧ lead.toNat < 0xE0)
    (secondFollows : isSecond lead second = true)
    (index : Nat)
    (rest : Bytes) :
    decodeFrom index (lead :: second :: rest) =
      (decodeFrom (index + 2) rest).map (Char.ofNat (code2 lead second) :: ·) := by
  obtain ⟨notAscii, isLead⟩ := lead_tests ⟨bounds.1, by omega⟩
  have two : lead < 0xE0 := UInt8.lt_iff_toNat_lt.mpr bounds.2
  rw [decodeFrom.eq_def]
  simp only [notAscii, isLead, secondFollows, two, if_true, if_false, Bool.not_true,
    Bool.false_eq_true]
  rfl

theorem decodeFrom_three
    {lead second third : UInt8}
    (bounds : 0xE0 ≤ lead.toNat ∧ lead.toNat < 0xF0)
    (secondFollows : isSecond lead second = true)
    (thirdFollows : isContinuation third = true)
    (index : Nat)
    (rest : Bytes) :
    decodeFrom index (lead :: second :: third :: rest) =
      (decodeFrom (index + 3) rest).map (Char.ofNat (code3 lead second third) :: ·) := by
  obtain ⟨notAscii, isLead⟩ := lead_tests ⟨Nat.le_trans (by decide) bounds.1, by omega⟩
  have notTwo : ¬lead < 0xE0 := fun below =>
    absurd (UInt8.lt_iff_toNat_lt.mp below) (Nat.not_lt.mpr bounds.1)
  have three : lead < 0xF0 := UInt8.lt_iff_toNat_lt.mpr bounds.2
  rw [decodeFrom.eq_def]
  simp only [notAscii, isLead, secondFollows, thirdFollows, notTwo, three, if_true,
    if_false, Bool.not_true, Bool.false_eq_true]
  rfl

theorem decodeFrom_four
    {lead second third fourth : UInt8}
    (bounds : 0xF0 ≤ lead.toNat ∧ lead.toNat ≤ 0xF4)
    (secondFollows : isSecond lead second = true)
    (thirdFollows : isContinuation third = true)
    (fourthFollows : isContinuation fourth = true)
    (index : Nat)
    (rest : Bytes) :
    decodeFrom index (lead :: second :: third :: fourth :: rest) =
      (decodeFrom (index + 4) rest).map (Char.ofNat (code4 lead second third fourth) :: ·) := by
  obtain ⟨notAscii, isLead⟩ := lead_tests ⟨by omega, bounds.2⟩
  have notThree : ¬lead < 0xF0 := fun below =>
    absurd (UInt8.lt_iff_toNat_lt.mp below) (Nat.not_lt.mpr bounds.1)
  have notTwo : ¬lead < 0xE0 := fun below =>
    absurd (UInt8.lt_iff_toNat_lt.mp below) (Nat.not_lt.mpr (Nat.le_trans (by decide) bounds.1))
  rw [decodeFrom.eq_def]
  simp only [notAscii, isLead, secondFollows, thirdFollows, fourthFollows, notTwo, notThree,
    if_false, Bool.not_true, Bool.false_eq_true]
  rfl

/-! ## Spellings of characters -/

/-- The bytes that spell the character of a number, in the shortest form. -/
inductive Spells : Bytes → Nat → Prop
  | one {lead : UInt8} (ascii : lead.toNat < 0x80) : Spells [lead] lead.toNat
  | two {lead second : UInt8} (bounds : 0xC2 ≤ lead.toNat ∧ lead.toNat < 0xE0)
      (secondFollows : isSecond lead second = true) : Spells [lead, second] (code2 lead second)
  | three {lead second third : UInt8} (bounds : 0xE0 ≤ lead.toNat ∧ lead.toNat < 0xF0)
      (secondFollows : isSecond lead second = true)
      (thirdFollows : isContinuation third = true) :
      Spells [lead, second, third] (code3 lead second third)
  | four {lead second third fourth : UInt8} (bounds : 0xF0 ≤ lead.toNat ∧ lead.toNat ≤ 0xF4)
      (secondFollows : isSecond lead second = true)
      (thirdFollows : isContinuation third = true)
      (fourthFollows : isContinuation fourth = true) :
      Spells [lead, second, third, fourth] (code4 lead second third fourth)

/-- A spelling is read as its character, whatever follows it. -/
theorem Spells.decodeFrom_append
    {bytes : Bytes}
    {code : Nat}
    (spelled : Spells bytes code)
    (index : Nat)
    (rest : Bytes) :
    decodeFrom index (bytes ++ rest) =
      (decodeFrom (index + bytes.length) rest).map (Char.ofNat code :: ·) := by
  cases spelled with
  | one ascii => exact decodeFrom_one ascii index rest
  | two bounds secondFollows => exact decodeFrom_two bounds secondFollows index rest
  | three bounds secondFollows thirdFollows =>
      exact decodeFrom_three bounds secondFollows thirdFollows index rest
  | four bounds secondFollows thirdFollows fourthFollows =>
      exact decodeFrom_four bounds secondFollows thirdFollows fourthFollows index rest

/-- The numbers of characters leave out the surrogates and end after the last plane. -/
theorem toNat_bounds (char : Char) :
    char.toNat < 0xD800 ∨ 0xDFFF < char.toNat ∧ char.toNat < 0x110000 :=
  char.valid

/-- A character with an admissible number has that number. -/
theorem toNat_ofNat
    {code : Nat}
    (admissible : code < 0xD800 ∨ 0xDFFF < code ∧ code < 0x110000) :
    (Char.ofNat code).toNat = code := by
  have valid : code.isValidChar := admissible
  rw [Char.ofNat, dif_pos valid]
  exact UInt32.toNat_ofNatLT

theorem toNat_byte
    {value : Nat}
    (small : value < 256) :
    (UInt8.ofNat value).toNat = value :=
  UInt8.toNat_ofNat_of_lt' small

theorem spells_two
    {code : Nat}
    (bounds : 0x80 ≤ code ∧ code < 0x800) :
    Spells [UInt8.ofNat (0xC0 + code / 64), UInt8.ofNat (0x80 + code % 64)] code := by
  have lead : (UInt8.ofNat (0xC0 + code / 64)).toNat = 0xC0 + code / 64 := toNat_byte (by omega)
  have second : (UInt8.ofNat (0x80 + code % 64)).toNat = 0x80 + code % 64 := toNat_byte (by omega)
  have same : code2 (UInt8.ofNat (0xC0 + code / 64)) (UInt8.ofNat (0x80 + code % 64)) = code := by
    unfold code2
    omega
  conv => rhs; rw [← same]
  apply Spells.two
  · omega
  · exact (isSecond_iff _ _).mpr (by omega)

theorem spells_three
    {code : Nat}
    (bounds : 0x800 ≤ code ∧ code < 0x10000)
    (noSurrogate : code < 0xD800 ∨ 0xDFFF < code) :
    Spells [UInt8.ofNat (0xE0 + code / 4096), UInt8.ofNat (0x80 + code / 64 % 64),
      UInt8.ofNat (0x80 + code % 64)] code := by
  have lead : (UInt8.ofNat (0xE0 + code / 4096)).toNat = 0xE0 + code / 4096 :=
    toNat_byte (by omega)
  have second : (UInt8.ofNat (0x80 + code / 64 % 64)).toNat = 0x80 + code / 64 % 64 :=
    toNat_byte (by omega)
  have third : (UInt8.ofNat (0x80 + code % 64)).toNat = 0x80 + code % 64 := toNat_byte (by omega)
  have same : code3 (UInt8.ofNat (0xE0 + code / 4096)) (UInt8.ofNat (0x80 + code / 64 % 64))
      (UInt8.ofNat (0x80 + code % 64)) = code := by
    unfold code3
    omega
  conv => rhs; rw [← same]
  apply Spells.three
  · omega
  · exact (isSecond_iff _ _).mpr (by omega)
  · exact (isContinuation_iff _).mpr (by omega)

theorem spells_four
    {code : Nat}
    (bounds : 0x10000 ≤ code ∧ code < 0x110000) :
    Spells [UInt8.ofNat (0xF0 + code / 262144), UInt8.ofNat (0x80 + code / 4096 % 64),
      UInt8.ofNat (0x80 + code / 64 % 64), UInt8.ofNat (0x80 + code % 64)] code := by
  have lead : (UInt8.ofNat (0xF0 + code / 262144)).toNat = 0xF0 + code / 262144 :=
    toNat_byte (by omega)
  have second : (UInt8.ofNat (0x80 + code / 4096 % 64)).toNat = 0x80 + code / 4096 % 64 :=
    toNat_byte (by omega)
  have third : (UInt8.ofNat (0x80 + code / 64 % 64)).toNat = 0x80 + code / 64 % 64 :=
    toNat_byte (by omega)
  have fourth : (UInt8.ofNat (0x80 + code % 64)).toNat = 0x80 + code % 64 := toNat_byte (by omega)
  have same : code4 (UInt8.ofNat (0xF0 + code / 262144)) (UInt8.ofNat (0x80 + code / 4096 % 64))
      (UInt8.ofNat (0x80 + code / 64 % 64)) (UInt8.ofNat (0x80 + code % 64)) = code := by
    unfold code4
    omega
  conv => rhs; rw [← same]
  apply Spells.four
  · omega
  · exact (isSecond_iff _ _).mpr (by omega)
  · exact (isContinuation_iff _).mpr (by omega)
  · exact (isContinuation_iff _).mpr (by omega)

/-- What is written for a character spells it. -/
theorem spells_encodeChar (char : Char) : Spells (encodeChar char) char.toNat := by
  have bounds := toNat_bounds char
  unfold encodeChar
  generalize char.toNat = code at bounds
  by_cases one : code < 0x80
  · have lead : (UInt8.ofNat code).toNat = code := toNat_byte (by omega)
    have spelled : Spells [UInt8.ofNat code] (UInt8.ofNat code).toNat := .one (by omega)
    simpa only [one, if_true, lead] using spelled
  by_cases two : code < 0x800
  · simpa only [one, two, if_false, if_true] using spells_two (by omega)
  by_cases three : code < 0x10000
  · simpa only [one, two, three, if_false, if_true] using spells_three (by omega) (by omega)
  · simpa only [one, two, three, if_false] using spells_four (by omega)

/-- A spelling is what is written for its character. -/
theorem Spells.encodeChar_eq
    {bytes : Bytes}
    {code : Nat}
    (spelled : Spells bytes code) :
    encodeChar (Char.ofNat code) = bytes := by
  cases spelled with
  | @one lead ascii =>
      unfold encodeChar
      rw [toNat_ofNat (by omega)]
      simp [ascii]
  | @two lead second bounds secondFollows =>
      obtain ⟨continues, -⟩ := (isSecond_iff _ _).mp secondFollows
      generalize codeEq : code2 lead second = code
      unfold code2 at codeEq
      unfold encodeChar
      rw [toNat_ofNat (by omega), if_neg (by omega), if_pos (by omega)]
      have leadEq : 0xC0 + code / 64 = lead.toNat := by omega
      have secondEq : 0x80 + code % 64 = second.toNat := by omega
      simp only [leadEq, secondEq, UInt8.ofNat_toNat]
  | @three lead second third bounds secondFollows thirdFollows =>
      have continues := (isSecond_iff _ _).mp secondFollows
      have ends := (isContinuation_iff _).mp thirdFollows
      generalize codeEq : code3 lead second third = code
      unfold code3 at codeEq
      unfold encodeChar
      rw [toNat_ofNat (by omega), if_neg (by omega), if_neg (by omega), if_pos (by omega)]
      have leadEq : 0xE0 + code / 4096 = lead.toNat := by omega
      have secondEq : 0x80 + code / 64 % 64 = second.toNat := by omega
      have thirdEq : 0x80 + code % 64 = third.toNat := by omega
      simp only [leadEq, secondEq, thirdEq, UInt8.ofNat_toNat]
  | @four lead second third fourth bounds secondFollows thirdFollows fourthFollows =>
      have continues := (isSecond_iff _ _).mp secondFollows
      have goesOn := (isContinuation_iff _).mp thirdFollows
      have ends := (isContinuation_iff _).mp fourthFollows
      generalize codeEq : code4 lead second third fourth = code
      unfold code4 at codeEq
      unfold encodeChar
      rw [toNat_ofNat (by omega), if_neg (by omega), if_neg (by omega), if_neg (by omega)]
      have leadEq : 0xF0 + code / 262144 = lead.toNat := by omega
      have secondEq : 0x80 + code / 4096 % 64 = second.toNat := by omega
      have thirdEq : 0x80 + code / 64 % 64 = third.toNat := by omega
      have fourthEq : 0x80 + code % 64 = fourth.toNat := by omega
      simp only [leadEq, secondEq, thirdEq, fourthEq, UInt8.ofNat_toNat]

/-! ## Writing and reading texts -/

theorem decodeFrom_encode (index : Nat) (text : Text) :
    decodeFrom index (encode text) = .ok text := by
  induction text generalizing index with
  | nil => rfl
  | cons char rest inductionHypothesis =>
      have split : encode (char :: rest) = encodeChar char ++ encode rest := rfl
      rw [split, (spells_encodeChar char).decodeFrom_append, inductionHypothesis,
        Char.ofNat_toNat]
      rfl

/-- What has been written is read back. -/
@[simp] theorem decode_encode (text : Text) : decode (encode text) = .ok text :=
  decodeFrom_encode 0 text

/-- A text that is not empty has bytes. -/
theorem encode_ne_nil
    {text : Text}
    (nonempty : text ≠ []) :
    encode text ≠ [] := by
  intro noBytes
  have readBack := decode_encode text
  rw [noBytes] at readBack
  exact nonempty (Except.ok.inj readBack).symm


/-- A buffer that is read and not empty begins with the spelling of a character. The cases are
those of the reader, by the tests that the lead byte passes. -/
theorem exists_spelling_of_decodeFrom_eq_ok
    {index : Nat}
    {lead : UInt8}
    {afterLead : Bytes}
    {text : Text}
    (read : decodeFrom index (lead :: afterLead) = .ok text) :
    ∃ bytes code rest, lead :: afterLead = bytes ++ rest ∧ Spells bytes code := by
  rw [decodeFrom.eq_def] at read
  simp only [Bool.not_eq_true', Bool.or_eq_true, decide_eq_true_eq] at read
  split at read
  next ascii => exact ⟨[lead], _, afterLead, rfl, .one (UInt8.lt_iff_toNat_lt.mp ascii)⟩
  next notAscii =>
  split at read
  next => cases read
  next isLead =>
  simp only [UInt8.lt_iff_toNat_lt, UInt8.reduceToNat] at notAscii isLead
  split at read
  next => cases read
  next second afterSecond =>
  split at read
  next => cases read
  next secondFollows =>
  rw [Bool.not_eq_false] at secondFollows
  split at read
  next two =>
    have below := UInt8.lt_iff_toNat_lt.mp two
    exact ⟨[lead, second], _, afterSecond, rfl, .two ⟨by omega, below⟩ secondFollows⟩
  next notTwo =>
  simp only [UInt8.lt_iff_toNat_lt, UInt8.reduceToNat] at notTwo
  split at read
  next => cases read
  next third afterThird =>
  split at read
  next => cases read
  next thirdFollows =>
  rw [Bool.not_eq_false] at thirdFollows
  split at read
  next three =>
    have below := UInt8.lt_iff_toNat_lt.mp three
    exact ⟨[lead, second, third], _, afterThird, rfl,
      .three ⟨by omega, below⟩ secondFollows thirdFollows⟩
  next notThree =>
  simp only [UInt8.lt_iff_toNat_lt, UInt8.reduceToNat] at notThree
  split at read
  next => cases read
  next fourth afterFourth =>
  split at read
  next => cases read
  next fourthFollows =>
  rw [Bool.not_eq_false] at fourthFollows
  exact ⟨[lead, second, third, fourth], _, afterFourth, rfl,
    .four ⟨by omega, by omega⟩ secondFollows thirdFollows fourthFollows⟩

theorem exists_spells_of_decodeFrom_eq_ok
    {index : Nat}
    {lead : UInt8}
    {afterLead : Bytes}
    {text : Text}
    (read : decodeFrom index (lead :: afterLead) = .ok text) :
    ∃ bytes code rest tail, lead :: afterLead = bytes ++ rest ∧ Spells bytes code ∧
      decodeFrom (index + bytes.length) rest = .ok tail ∧ text = Char.ofNat code :: tail := by
  obtain ⟨bytes, code, rest, split, spelled⟩ := exists_spelling_of_decodeFrom_eq_ok read
  rw [split, spelled.decodeFrom_append] at read
  cases tailRead : decodeFrom (index + bytes.length) rest with
  | error fault =>
      rw [tailRead] at read
      cases read
  | ok tail =>
      rw [tailRead] at read
      exact ⟨bytes, code, rest, tail, split, spelled, tailRead, (Except.ok.inj read).symm⟩

theorem encode_of_decodeFrom_eq_ok
    {index : Nat}
    {bytes : Bytes}
    {text : Text}
    (read : decodeFrom index bytes = .ok text) :
    encode text = bytes := by
  induction text generalizing index bytes with
  | nil =>
      cases bytes with
      | nil => rfl
      | cons lead afterLead =>
          obtain ⟨_, _, _, _, _, _, _, impossible⟩ := exists_spells_of_decodeFrom_eq_ok read
          cases impossible
  | cons char textRest inductionHypothesis =>
      cases bytes with
      | nil => cases read
      | cons lead afterLead =>
          obtain ⟨spelling, code, rest, tail, split, spelled, tailRead, textEq⟩ :=
            exists_spells_of_decodeFrom_eq_ok read
          obtain ⟨rfl, rfl⟩ := List.cons.inj textEq
          have written : encode (Char.ofNat code :: textRest) =
              encodeChar (Char.ofNat code) ++ encode textRest := rfl
          rw [written, spelled.encodeChar_eq, inductionHypothesis tailRead, split]

/-- What has been read is what would be written. -/
theorem encode_of_decode_eq_ok
    {bytes : Bytes}
    {text : Text}
    (read : decode bytes = .ok text) :
    encode text = bytes :=
  encode_of_decodeFrom_eq_ok read

/-! ## ASCII -/

/-- A byte of ASCII occurs only where it is a character of its own. -/
theorem Spells.eq_of_mem_of_ascii
    {bytes : Bytes}
    {code : Nat}
    {byte : UInt8}
    (spelled : Spells bytes code)
    (member : byte ∈ bytes)
    (ascii : byte.toNat < 0x80) :
    code = byte.toNat := by
  have noSecond {lead : UInt8} (follows : isSecond lead byte = true) : code = byte.toNat := by
    have continues := ((isSecond_iff _ _).mp follows).1
    omega
  have noContinuation (follows : isContinuation byte = true) : code = byte.toNat := by
    have continues := (isContinuation_iff _).mp follows
    omega
  cases spelled with
  | one => rw [List.mem_singleton.mp member]
  | two bounds secondFollows =>
      simp only [List.mem_cons, List.not_mem_nil, or_false] at member
      rcases member with rfl | rfl
      · omega
      · exact noSecond secondFollows
  | three bounds secondFollows thirdFollows =>
      simp only [List.mem_cons, List.not_mem_nil, or_false] at member
      rcases member with rfl | rfl | rfl
      · omega
      · exact noSecond secondFollows
      · exact noContinuation thirdFollows
  | four bounds secondFollows thirdFollows fourthFollows =>
      simp only [List.mem_cons, List.not_mem_nil, or_false] at member
      rcases member with rfl | rfl | rfl | rfl
      · omega
      · exact noSecond secondFollows
      · exact noContinuation thirdFollows
      · exact noContinuation fourthFollows

/-- A byte of ASCII in the bytes of a text is a character of the text. -/
theorem mem_of_mem_encode_of_ascii
    {text : Text}
    {byte : UInt8}
    (member : byte ∈ encode text)
    (ascii : byte.toNat < 0x80) :
    Char.ofNat byte.toNat ∈ text := by
  obtain ⟨char, inText, inChar⟩ := List.mem_flatMap.mp member
  rw [← (spells_encodeChar char).eq_of_mem_of_ascii inChar ascii, Char.ofNat_toNat]
  exact inText

theorem decodeFrom_ofAscii
    {bytes : Bytes}
    (ascii : ∀ byte ∈ bytes, byte.toNat < 0x80)
    (index : Nat) :
    decodeFrom index bytes = .ok (Text.ofAscii bytes) := by
  induction bytes generalizing index with
  | nil => rfl
  | cons byte rest inductionHypothesis =>
      have restRead := inductionHypothesis
        (fun other member => ascii other (List.mem_cons_of_mem byte member)) (index + 1)
      rw [decodeFrom_one (ascii byte (List.mem_cons_self ..)), restRead]
      rfl

/-- An ASCII buffer is read byte by byte. -/
theorem decode_ofAscii
    {bytes : Bytes}
    (ascii : ∀ byte ∈ bytes, byte.toNat < 0x80) :
    decode bytes = .ok (Text.ofAscii bytes) :=
  decodeFrom_ofAscii ascii 0

/-- The characters of an ASCII buffer are written as its bytes. -/
theorem encode_ofAscii
    {bytes : Bytes}
    (ascii : ∀ byte ∈ bytes, byte.toNat < 0x80) :
    encode (Text.ofAscii bytes) = bytes :=
  encode_of_decode_eq_ok (decode_ofAscii ascii)

/-- An ASCII text has as many bytes as characters. -/
theorem length_encode_of_ascii
    {text : Text}
    (ascii : ∀ char ∈ text, char.toNat < 0x80) :
    (encode text).length = text.length := by
  induction text with
  | nil => rfl
  | cons char rest inductionHypothesis =>
      have oneByte : encodeChar char = [UInt8.ofNat char.toNat] := by
        simp only [encodeChar, if_pos (ascii char (List.mem_cons_self ..))]
      have restLength := inductionHypothesis fun other member =>
        ascii other (List.mem_cons_of_mem char member)
      rw [encode] at restLength ⊢
      rw [List.flatMap_cons, oneByte, List.length_append, restLength, List.length_singleton,
        List.length_cons, Nat.add_comm]

theorem encode_injective : Function.Injective encode := by
  intro first second same
  have read := decode_encode first
  rw [same, decode_encode] at read
  exact (Except.ok.inj read).symm

/-- A text is written as an ASCII buffer exactly when it has the characters of the buffer. -/
theorem encode_eq_iff_of_ascii
    {text : Text}
    {bytes : Bytes}
    (ascii : ∀ byte ∈ bytes, byte.toNat < 0x80) :
    encode text = bytes ↔ text = Text.ofAscii bytes := by
  constructor
  · intro written
    apply encode_injective
    rw [written, encode_ofAscii ascii]
  · rintro rfl
    exact encode_ofAscii ascii

/-! ## Order -/

/-- The bytes of a smaller character are smaller, whatever follows them. -/
theorem encodeChar_append_lt
    {first second : Char}
    (less : first < second)
    (afterFirst afterSecond : Bytes) :
    encodeChar first ++ afterFirst < encodeChar second ++ afterSecond := by
  have codes : first.toNat < second.toNat := UInt32.lt_iff_toNat_lt.mp less
  have bounds := toNat_bounds second
  unfold encodeChar
  generalize first.toNat = code at codes
  generalize second.toNat = larger at codes bounds
  dsimp only
  split_ifs
  all_goals
    simp (disch := omega) only [List.cons_append, List.nil_append, List.cons_lt_cons_iff,
      UInt8.lt_iff_toNat_lt, ← UInt8.toNat_inj, toNat_byte]
    omega

/-- Texts in the order of their characters are in the order of their bytes. -/
theorem encode_lt_encode
    {first second : Text}
    (less : first < second) :
    encode first < encode second := by
  induction first generalizing second with
  | nil =>
      cases second with
      | nil => exact absurd less (List.lt_irrefl [])
      | cons char rest =>
          cases written : encode (char :: rest) with
          | nil => exact absurd written (encode_ne_nil (List.cons_ne_nil char rest))
          | cons byte bytes => exact List.nil_lt_cons byte bytes
  | cons char rest inductionHypothesis =>
      cases second with
      | nil => exact absurd less (List.not_lt_nil _)
      | cons other others =>
          rcases List.cons_lt_cons_iff.mp less with charLess | ⟨rfl, restLess⟩
          · exact encodeChar_append_lt charLess _ _
          · exact List.append_left_lt (inductionHypothesis restLess)

end Utf8
end Lockbox
