import Lockbox.Proofs.Base64.RoundTrip

/-!
# What decodes has been encoded

A reader accepts the symbols of a buffer, with the marks behind them that its rule asks for or lets
pass, and nothing else (`decode_eq_ok_iff`). So a reader that tries both alphabets is never misled
by the wrong one (`decodeEither_encode`).
-/

namespace Lockbox
namespace Base64

/-! ## Values and symbols -/

/-- A value that has been read is written as the symbol that it was read from. -/
theorem Alphabet.symbol_of_value?
    {alphabet : Alphabet}
    {symbol : UInt8}
    {value : Nat}
    (found : alphabet.value? symbol = some value) :
    value < 64 ∧ alphabet.symbol value = symbol := by
  have bound := symbol.toNat_lt
  simp only [value?, Bool.and_eq_true, decide_eq_true_eq, UInt8.le_iff_toNat_le,
    UInt8.reduceToNat] at found
  split at found
  next capital =>
    obtain rfl := Option.some.inj found
    refine ⟨by omega, ?_⟩
    rw [Alphabet.symbol, if_pos (by omega), Nat.add_sub_cancel' capital.1, UInt8.ofNat_toNat]
  split at found
  next small =>
    obtain rfl := Option.some.inj found
    refine ⟨by omega, ?_⟩
    rw [Alphabet.symbol, if_neg (by omega), if_pos (by omega), Nat.add_sub_cancel,
      Nat.add_sub_cancel' small.1, UInt8.ofNat_toNat]
  split at found
  next digit =>
    obtain rfl := Option.some.inj found
    refine ⟨by omega, ?_⟩
    rw [Alphabet.symbol, if_neg (by omega), if_neg (by omega), if_pos (by omega),
      Nat.add_sub_cancel, Nat.add_sub_cancel' digit.1, UInt8.ofNat_toNat]
  split at found
  next penultimate =>
    obtain rfl := Option.some.inj found
    exact ⟨by omega, penultimate.symm⟩
  split at found
  next last =>
    obtain rfl := Option.some.inj found
    exact ⟨by omega, last.symm⟩
  next => cases found

theorem value?_of_readSymbol_eq_ok
    {alphabet : Alphabet}
    {offset : Nat}
    {symbol : UInt8}
    {value : Nat}
    (read : readSymbol alphabet offset symbol = .ok value) :
    alphabet.value? symbol = some value := by
  unfold readSymbol at read
  split at read
  next found =>
    rw [found, Except.ok.inj read]
  next => cases read

/-! ## Values and bytes -/

section Bytes

variable {v0 v1 v2 v3 : Nat}

/-- The values of the bytes of four values are those values. -/
theorem sextets_of_octets
    (small0 : v0 < 64)
    (small1 : v1 < 64)
    (small2 : v2 < 64)
    (small3 : v3 < 64) :
    sextets (UInt8.ofNat (v0 * 4 + v1 / 16)) (UInt8.ofNat (v1 % 16 * 16 + v2 / 4))
      (UInt8.ofNat (v2 % 4 * 64 + v3)) = (v0, v1, v2, v3) := by
  simp only [sextets, UInt8.toNat_ofNat', Nat.reducePow, Prod.mk.injEq]
  omega

/-- The bytes of a full group are encoded as the group. -/
theorem encode_octets_append
    (alphabet : Alphabet)
    (small0 : v0 < 64)
    (small1 : v1 < 64)
    (small2 : v2 < 64)
    (small3 : v3 < 64)
    (rest : Bytes) :
    encode alphabet (octets v0 v1 v2 v3 ++ rest) =
      alphabet.symbol v0 :: alphabet.symbol v1 :: alphabet.symbol v2 :: alphabet.symbol v3 ::
        encode alphabet rest := by
  simp only [octets, List.cons_append, List.nil_append, encode,
    sextets_of_octets small0 small1 small2 small3]

end Bytes

/-- The bytes of the values of a last group are encoded as the group. -/
theorem encode_of_lastOctets?
    (alphabet : Alphabet)
    {values : List Nat}
    {bytes : Bytes}
    (small : ∀ value ∈ values, value < 64)
    (notSingle : ∀ value, values ≠ [value])
    (atMostFour : values.length ≤ 4)
    (spelled : lastOctets? values = some bytes) :
    encode alphabet bytes = values.map alphabet.symbol := by
  match values, spelled with
  | [], spelled =>
      obtain rfl := Option.some.inj spelled
      rfl
  | [value], _ => exact absurd rfl (notSingle value)
  | [first, second], spelled =>
      simp only [List.forall_mem_cons] at small
      have zero : 0 < 64 := by decide
      have written := sextets_of_octets small.1 small.2.1 zero zero
      simp only [lastOctets?] at spelled
      split at spelled
      next unused =>
        obtain rfl := Option.some.inj spelled
        simp only [unused] at written
        change sextets _ 0 0 = _ at written
        simp only [octets, List.take_succ_cons, List.take_zero, encode, written, List.map_cons,
          List.map_nil]
      next => cases spelled
  | [first, second, third], spelled =>
      simp only [List.forall_mem_cons] at small
      have zero : 0 < 64 := by decide
      have written := sextets_of_octets small.1 small.2.1 small.2.2.1 zero
      simp only [lastOctets?] at spelled
      split at spelled
      next unused =>
        obtain rfl := Option.some.inj spelled
        simp only [unused] at written
        change sextets _ _ 0 = _ at written
        simp only [octets, List.take_succ_cons, List.take_zero, encode, written, List.map_cons,
          List.map_nil]
      next => cases spelled
  | [first, second, third, fourth], spelled =>
      simp only [List.forall_mem_cons] at small
      obtain rfl := Option.some.inj spelled
      have written := encode_octets_append alphabet small.1 small.2.1 small.2.2.1 small.2.2.2.1 []
      rwa [List.append_nil] at written
  | _ :: _ :: _ :: _ :: _ :: rest, _ =>
      simp only [List.length_cons] at atMostFour
      omega

/-! ## Groups -/

variable {alphabet : Alphabet} {rule : PaddingRule}

/-- A last group that is read consists of the symbols of its values and of the marks behind them,
of which there are none before the third place. -/
theorem eq_of_readLastGroup_eq_ok
    {offset index : Nat}
    {group : Bytes}
    {values : List Nat}
    {marks : Nat}
    (read : readLastGroup alphabet offset index group = .ok (values, marks)) :
    group = values.map alphabet.symbol ++ List.replicate marks padMark ∧
      (∀ value ∈ values, value < 64) ∧ (marks ≠ 0 → 2 ≤ index + values.length) := by
  induction group generalizing index values marks with
  | nil =>
      cases read
      simp
  | cons head rest inductionHypothesis =>
      unfold readLastGroup at read
      split at read
      next isMark =>
        split at read
        next restMarks =>
          cases read
          rw [Bool.and_eq_true, List.all_eq_true, decide_eq_true_eq] at restMarks
          have restEq : rest = List.replicate rest.length padMark :=
            List.eq_replicate_iff.mpr
              ⟨rfl, fun symbol member => beq_iff_eq.mp (restMarks.2 symbol member)⟩
          refine ⟨?_, by simp, fun _ => restMarks.1⟩
          rw [isMark, List.map_nil, List.nil_append, List.replicate_succ, ← restEq]
        next => cases read
      next =>
        split at read
        next => cases read
        next value headRead =>
          split at read
          next => cases read
          next restValues restMarks restRead =>
            cases read
            obtain ⟨small, written⟩ :=
              Alphabet.symbol_of_value? (value?_of_readSymbol_eq_ok headRead)
            obtain ⟨restEq, restSmall, late⟩ := inductionHypothesis restRead
            refine ⟨?_, List.forall_mem_cons.mpr ⟨small, restSmall⟩, ?_⟩
            · rw [List.map_cons, written, List.cons_append, ← restEq]
            · rw [List.length_cons]
              omega

/-- The numbers of marks that may follow the given number of symbols under a rule: the marks fit
into the last group, and none stands behind a full one. -/
structure PaddingRule.Closes (rule : PaddingRule) (symbols marks : Nat) : Prop where
  allowed : rule.allows (symbols % 4) marks = true
  fits : symbols % 4 + marks ≤ 4
  noneBehindFull : symbols % 4 = 0 → marks = 0

/-- A full group of symbols in front changes nothing. -/
theorem PaddingRule.Closes.add_group
    {symbols marks : Nat}
    (closes : rule.Closes symbols marks) :
    rule.Closes (symbols + 4) marks where
  allowed := by rw [Nat.add_mod_right]; exact closes.allowed
  fits := by rw [Nat.add_mod_right]; exact closes.fits
  noneBehindFull := by rw [Nat.add_mod_right]; exact closes.noneBehindFull

/-- What a rule says of a full group it says of an empty one. -/
theorem PaddingRule.allows_mod
    (rule : PaddingRule)
    (symbols marks : Nat) :
    rule.allows (symbols % 4) marks = rule.allows symbols marks := by
  cases rule with
  | canonical => simp only [allows, Nat.mod_add_mod]
  | absent => rfl
  | indifferent => rfl

/-- A last group that decodes is the encoding of its bytes with marks that the rule allows. -/
theorem exists_marks_of_decodeLastGroup_eq_ok
    {offset : Nat}
    {group bytes : Bytes}
    (atMostFour : group.length ≤ 4)
    (decoded : decodeLastGroup alphabet rule offset group = .ok bytes) :
    ∃ marks, rule.Closes (encode alphabet bytes).length marks ∧
      group = encode alphabet bytes ++ List.replicate marks padMark := by
  unfold decodeLastGroup at decoded
  split at decoded
  next => cases decoded
  next => cases decoded
  next values marks notSingle read =>
    split at decoded
    next allowed =>
      split at decoded
      next spelled octetsEq =>
        obtain rfl := Except.ok.inj decoded
        obtain ⟨groupEq, small, late⟩ := eq_of_readLastGroup_eq_ok read
        have lengths := congrArg List.length groupEq
        rw [List.length_append, List.length_map, List.length_replicate] at lengths
        have written := encode_of_lastOctets? alphabet small notSingle (by omega) octetsEq
        refine ⟨marks, ?_, by rw [written, groupEq]⟩
        rw [written, List.length_map]
        exact {
          allowed := by rwa [rule.allows_mod]
          fits := by omega
          noneBehindFull := by omega }
      next => cases decoded
    next => cases decoded

/-- A text of several groups that decodes begins with four symbols, and the rest of it decodes as
well. -/
theorem exists_values_of_decodeGroups_eq_ok
    {offset : Nat}
    {s0 s1 s2 s3 s4 : UInt8}
    {rest bytes : Bytes}
    (decoded : decodeGroups alphabet rule offset (s0 :: s1 :: s2 :: s3 :: s4 :: rest) = .ok bytes) :
    ∃ v0 v1 v2 v3 restBytes,
      alphabet.value? s0 = some v0 ∧ alphabet.value? s1 = some v1 ∧
      alphabet.value? s2 = some v2 ∧ alphabet.value? s3 = some v3 ∧
      decodeGroups alphabet rule (offset + 4) (s4 :: rest) = .ok restBytes ∧
      bytes = octets v0 v1 v2 v3 ++ restBytes := by
  rw [decodeGroups] at decoded
  cases read0 : readSymbol alphabet offset s0 with
  | error fault => rw [read0] at decoded; cases decoded
  | ok v0 =>
  cases read1 : readSymbol alphabet (offset + 1) s1 with
  | error fault => rw [read0, read1] at decoded; cases decoded
  | ok v1 =>
  cases read2 : readSymbol alphabet (offset + 2) s2 with
  | error fault => rw [read0, read1, read2] at decoded; cases decoded
  | ok v2 =>
  cases read3 : readSymbol alphabet (offset + 3) s3 with
  | error fault => rw [read0, read1, read2, read3] at decoded; cases decoded
  | ok v3 =>
  cases remaining : decodeGroups alphabet rule (offset + 4) (s4 :: rest) with
  | error fault => rw [read0, read1, read2, read3, remaining] at decoded; cases decoded
  | ok restBytes =>
      rw [read0, read1, read2, read3, remaining] at decoded
      exact ⟨v0, v1, v2, v3, restBytes, value?_of_readSymbol_eq_ok read0,
        value?_of_readSymbol_eq_ok read1, value?_of_readSymbol_eq_ok read2,
        value?_of_readSymbol_eq_ok read3, rfl, (Except.ok.inj decoded).symm⟩

/-- A text that decodes is the encoding of its bytes with marks that the rule allows. -/
theorem exists_marks_of_decodeGroups_eq_ok
    {offset : Nat}
    {text bytes : Bytes}
    (decoded : decodeGroups alphabet rule offset text = .ok bytes) :
    ∃ marks, rule.Closes (encode alphabet bytes).length marks ∧
      text = encode alphabet bytes ++ List.replicate marks padMark := by
  induction offset, text using decodeGroups.induct generalizing bytes with
  | case1 offset s0 s1 s2 s3 s4 rest inductionHypothesis =>
      obtain ⟨v0, v1, v2, v3, restBytes, found0, found1, found2, found3, remaining, rfl⟩ :=
        exists_values_of_decodeGroups_eq_ok decoded
      obtain ⟨marks, closes, restEq⟩ := inductionHypothesis remaining
      obtain ⟨small0, written0⟩ := Alphabet.symbol_of_value? found0
      obtain ⟨small1, written1⟩ := Alphabet.symbol_of_value? found1
      obtain ⟨small2, written2⟩ := Alphabet.symbol_of_value? found2
      obtain ⟨small3, written3⟩ := Alphabet.symbol_of_value? found3
      have written := encode_octets_append alphabet small0 small1 small2 small3 restBytes
      rw [written0, written1, written2, written3] at written
      refine ⟨marks, ?_, ?_⟩
      · rw [written]
        exact closes.add_group
      · rw [written, restEq]
        rfl
  | case2 offset group notLonger =>
      have decodedLast : decodeLastGroup alphabet rule offset group = .ok bytes := by
        rwa [decodeGroups] at decoded
        exact notLonger
      apply exists_marks_of_decodeLastGroup_eq_ok _ decodedLast
      rcases group with _ | ⟨s0, _ | ⟨s1, _ | ⟨s2, _ | ⟨s3, _ | ⟨s4, rest⟩⟩⟩⟩⟩
      case cons.cons.cons.cons.cons => exact absurd rfl (notLonger s0 s1 s2 s3 s4 rest)
      all_goals simp

/-- A text is decoded exactly when it consists of the symbols of the bytes and of marks that the
rule allows. -/
theorem decode_eq_ok_iff
    {text bytes : Bytes} :
    decode alphabet rule text = .ok bytes ↔
      ∃ marks, rule.Closes (encode alphabet bytes).length marks ∧
        text = encode alphabet bytes ++ List.replicate marks padMark := by
  constructor
  · intro decoded
    unfold decode at decoded
    split at decoded
    next => cases decoded
    next => exact exists_marks_of_decodeGroups_eq_ok decoded
  · rintro ⟨marks, closes, rfl⟩
    have noStrayEnd : strayEnd? alphabet
        (encode alphabet bytes ++ List.replicate marks padMark) = none := by
      cases marks with
      | zero => simpa using strayEnd?_encode alphabet alphabet bytes
      | succ marks =>
          have last : (encode alphabet bytes ++ List.replicate (marks + 1) padMark).getLast? =
              some padMark := by
            rw [List.replicate_succ', ← List.append_assoc, List.getLast?_concat]
          simp [strayEnd?, last]
    rw [decode, noStrayEnd]
    exact decodeGroups_marked_encode closes.allowed closes.fits closes.noneBehindFull 0

/-! ## The wrong alphabet -/

theorem encode_injective (alphabet : Alphabet) : Function.Injective (encode alphabet) := by
  intro first second same
  have decoded : decode alphabet .indifferent (encode alphabet first) = .ok first :=
    decode_encode (fun _ => rfl) alphabet first
  rw [same, decode_encode (fun _ => rfl)] at decoded
  exact (Except.ok.inj decoded).symm

/-- A symbol of a buffer is contained in the alphabet. -/
theorem contains_of_mem_encode
    {bytes : Bytes}
    {symbol : UInt8}
    (member : symbol ∈ encode alphabet bytes) :
    alphabet.contains symbol = true := by
  rw [encode_eq_map_values] at member
  obtain ⟨value, inValues, rfl⟩ := List.mem_map.mp member
  rw [Alphabet.contains, alphabet.value?_symbol (lt_of_mem_values inValues), Option.isSome_some]

/-- Two alphabets that both contain the symbols of a buffer encode it alike. -/
theorem encode_eq_of_contains
    {alphabet other : Alphabet}
    {bytes : Bytes}
    (contained : ∀ symbol ∈ encode alphabet bytes, other.contains symbol = true) :
    encode alphabet bytes = encode other bytes := by
  rw [encode_eq_map_values] at contained ⊢
  rw [encode_eq_map_values]
  apply List.map_congr_left
  intro value member
  exact Alphabet.symbol_eq_of_contains alphabet other (lt_of_mem_values member)
    (contained _ (List.mem_map_of_mem member))

/-- Buffers that are encoded alike are the same, whatever the alphabets. -/
theorem eq_of_encode_eq_encode
    {alphabet other : Alphabet}
    {first second : Bytes}
    (same : encode alphabet first = encode other second) :
    first = second := by
  have contained : ∀ symbol ∈ encode alphabet first, other.contains symbol = true := by
    intro symbol member
    rw [same] at member
    exact contains_of_mem_encode member
  rw [encode_eq_of_contains contained] at same
  exact encode_injective other same

/-- A text without marks that decodes is the encoding of its bytes. -/
theorem eq_encode_of_decode_eq_ok
    {text bytes : Bytes}
    (unmarked : padMark ∉ text)
    (decoded : decode alphabet rule text = .ok bytes) :
    text = encode alphabet bytes := by
  obtain ⟨marks, -, rfl⟩ := decode_eq_ok_iff.mp decoded
  cases marks with
  | zero => simp
  | succ marks => exact absurd (by simp) unmarked

/-- A reader that tries both alphabets decodes what has been encoded in either of them. -/
theorem decodeEither_encode (alphabet : Alphabet) (bytes : Bytes) :
    decodeEither (encode alphabet bytes) = .ok bytes := by
  have unmarked : padMark ∉ encode alphabet bytes := fun member =>
    ne_padMark_of_mem_encode member rfl
  unfold decodeEither
  cases first : decode .urlSafe .indifferent (encode alphabet bytes) with
  | ok decoded => rw [eq_of_encode_eq_encode (eq_encode_of_decode_eq_ok unmarked first)]
  | error fault =>
      cases alphabet with
      | urlSafe =>
          rw [decode_encode (fun _ => rfl)] at first
          cases first
      | standard => exact decode_encode (fun _ => rfl) .standard bytes

/-- A reader that tries both alphabets decodes a text only if one of them does. -/
theorem exists_decode_of_decodeEither_eq_ok
    {text bytes : Bytes}
    (decoded : decodeEither text = .ok bytes) :
    ∃ alphabet, decode alphabet .indifferent text = .ok bytes := by
  unfold decodeEither at decoded
  split at decoded
  next urlSafeBytes first => exact ⟨.urlSafe, first.trans decoded⟩
  next => exact ⟨.standard, decoded⟩

end Base64
end Lockbox
