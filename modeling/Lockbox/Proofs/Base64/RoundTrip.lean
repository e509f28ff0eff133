import Lockbox.Base64.Decode

/-!
# Decoding undoes encoding

The symbols of a buffer in one alphabet decode to the buffer, with the marks behind them that the
rule of the reader allows (`decode_encode`, `decode_encodePadded`).
-/

namespace Lockbox
namespace Base64

/-! ## Symbols and values -/

namespace Alphabet

theorem value?_symbol
    (alphabet : Alphabet)
    {value : Nat}
    (small : value < 64) :
    alphabet.value? (alphabet.symbol value) = some value := by
  revert value
  cases alphabet <;> decide

/-- A symbol of one alphabet that another one contains stands for the same value there. -/
theorem symbol_eq_of_contains
    (alphabet other : Alphabet)
    {value : Nat}
    (small : value < 64)
    (contained : other.contains (alphabet.symbol value) = true) :
    alphabet.symbol value = other.symbol value := by
  revert value
  cases alphabet <;> cases other <;> decide

theorem symbol_ne_padMark
    (alphabet : Alphabet)
    {value : Nat}
    (small : value < 64) :
    alphabet.symbol value ≠ padMark := by
  revert value
  cases alphabet <;> decide

@[simp] theorem value?_padMark (alphabet : Alphabet) : alphabet.value? padMark = none := by
  cases alphabet <;> decide

theorem ne_padMark_of_value?
    {alphabet : Alphabet}
    {symbol : UInt8}
    {value : Nat}
    (found : alphabet.value? symbol = some value) :
    symbol ≠ padMark := by
  rintro rfl
  rw [value?_padMark] at found
  cases found

end Alphabet

/-! ## Bytes and six-bit values -/

/-- The values of three bytes are below sixty-four. -/
theorem sextets_bounds (first second third : UInt8) :
    (sextets first second third).1 < 64 ∧ (sextets first second third).2.1 < 64 ∧
      (sextets first second third).2.2.1 < 64 ∧ (sextets first second third).2.2.2 < 64 := by
  have firstBound := first.toNat_lt
  have secondBound := second.toNat_lt
  have thirdBound := third.toNat_lt
  simp only [sextets]
  omega

/-- The bytes of the values of three bytes are those bytes. -/
theorem octets_sextets (first second third : UInt8) :
    octets (sextets first second third).1 (sextets first second third).2.1
      (sextets first second third).2.2.1 (sextets first second third).2.2.2 =
      [first, second, third] := by
  have firstBound := first.toNat_lt
  have secondBound := second.toNat_lt
  have thirdBound := third.toNat_lt
  simp only [sextets, octets]
  have firstEq : first.toNat / 4 * 4 + (first.toNat % 4 * 16 + second.toNat / 16) / 16 =
      first.toNat := by omega
  have secondEq : (first.toNat % 4 * 16 + second.toNat / 16) % 16 * 16 +
      (second.toNat % 16 * 4 + third.toNat / 64) / 4 = second.toNat := by omega
  have thirdEq : (second.toNat % 16 * 4 + third.toNat / 64) % 4 * 64 + third.toNat % 64 =
      third.toNat := by omega
  rw [firstEq, secondEq, thirdEq]
  simp only [UInt8.ofNat_toNat]

/-- The six-bit values of a buffer. -/
def values : Bytes → List Nat
  | first :: second :: third :: rest =>
      (sextets first second third).1 :: (sextets first second third).2.1 ::
        (sextets first second third).2.2.1 :: (sextets first second third).2.2.2 :: values rest
  | [first, second] =>
      [(sextets first second 0).1, (sextets first second 0).2.1, (sextets first second 0).2.2.1]
  | [first] => [(sextets first 0 0).1, (sextets first 0 0).2.1]
  | [] => []

/-- Encoding writes the symbol of each value. -/
theorem encode_eq_map_values (alphabet : Alphabet) (bytes : Bytes) :
    encode alphabet bytes = (values bytes).map alphabet.symbol := by
  fun_induction encode alphabet bytes with
  | case1 first second third rest inductionHypothesis => rw [inductionHypothesis]; rfl
  | case2 first second => rfl
  | case3 first => rfl
  | case4 => rfl

theorem lt_of_mem_values
    {bytes : Bytes}
    {value : Nat}
    (member : value ∈ values bytes) :
    value < 64 := by
  fun_induction values bytes with
  | case1 first second third rest inductionHypothesis =>
      obtain ⟨bound0, bound1, bound2, bound3⟩ := sextets_bounds first second third
      simp only [List.mem_cons] at member
      rcases member with rfl | rfl | rfl | rfl | inRest
      · exact bound0
      · exact bound1
      · exact bound2
      · exact bound3
      · exact inductionHypothesis inRest
  | case2 first second =>
      obtain ⟨bound0, bound1, bound2, -⟩ := sextets_bounds first second 0
      simp only [List.mem_cons, List.not_mem_nil, or_false] at member
      rcases member with rfl | rfl | rfl
      · exact bound0
      · exact bound1
      · exact bound2
  | case3 first =>
      obtain ⟨bound0, bound1, -⟩ := sextets_bounds first 0 0
      simp only [List.mem_cons, List.not_mem_nil, or_false] at member
      rcases member with rfl | rfl
      · exact bound0
      · exact bound1
  | case4 => cases member

/-- Three bytes have four values, one or two left over have two or three. -/
theorem length_values (bytes : Bytes) : (values bytes).length = (4 * bytes.length + 2) / 3 := by
  fun_induction values bytes with
  | case1 first second third rest inductionHypothesis =>
      simp only [List.length_cons, inductionHypothesis]
      omega
  | case2 first second => simp
  | case3 first => simp
  | case4 => rfl

@[simp] theorem length_encode (alphabet : Alphabet) (bytes : Bytes) :
    (encode alphabet bytes).length = (4 * bytes.length + 2) / 3 := by
  rw [encode_eq_map_values, List.length_map, length_values]

/-! ## Groups -/

variable {alphabet : Alphabet} {rule : PaddingRule} {offset : Nat}

theorem readSymbol_of_value?
    {symbol : UInt8}
    {value : Nat}
    (found : alphabet.value? symbol = some value) :
    readSymbol alphabet offset symbol = .ok value := by
  simp [readSymbol, found]

/-- One symbol of a last group is read before the others. -/
theorem readLastGroup_cons
    {symbol : UInt8}
    {value : Nat}
    (found : alphabet.value? symbol = some value)
    (index : Nat)
    (rest : Bytes) :
    readLastGroup alphabet offset index (symbol :: rest) =
      (readLastGroup alphabet offset (index + 1) rest).map
        fun (values, marks) => (value :: values, marks) := by
  rw [readLastGroup, if_neg (Alphabet.ne_padMark_of_value? found),
    readSymbol_of_value? found]
  cases readLastGroup alphabet offset (index + 1) rest <;> rfl

@[simp] theorem decodeGroups_nil : decodeGroups alphabet rule offset [] = .ok [] := by
  cases rule <;> rfl

/-- A full group is decoded before the others. -/
theorem decodeGroups_quad
    {s0 s1 s2 s3 : UInt8}
    {v0 v1 v2 v3 : Nat}
    (found0 : alphabet.value? s0 = some v0)
    (found1 : alphabet.value? s1 = some v1)
    (found2 : alphabet.value? s2 = some v2)
    (found3 : alphabet.value? s3 = some v3)
    (rest : Bytes) :
    decodeGroups alphabet rule offset (s0 :: s1 :: s2 :: s3 :: rest) =
      (decodeGroups alphabet rule (offset + 4) rest).map (octets v0 v1 v2 v3 ++ ·) := by
  cases rest with
  | nil =>
      have read : readLastGroup alphabet offset 0 [s0, s1, s2, s3] = .ok ([v0, v1, v2, v3], 0) := by
        rw [readLastGroup_cons found0, readLastGroup_cons found1, readLastGroup_cons found2,
          readLastGroup_cons found3]
        rfl
      rw [decodeGroups_nil, decodeGroups, decodeLastGroup, read]
      · cases rule <;> simp [PaddingRule.allows, lastOctets?, Except.map]
      · simp
  | cons s4 rest =>
      rw [decodeGroups, readSymbol_of_value? found0, readSymbol_of_value? found1,
        readSymbol_of_value? found2, readSymbol_of_value? found3]
      cases decodeGroups alphabet rule (offset + 4) (s4 :: rest) <;> rfl

/-- The symbols of a buffer decode to the buffer when the marks behind them, which fit into the last
group, are allowed by the rule. -/
theorem decodeGroups_marked_encode
    {bytes : Bytes}
    {marks : Nat}
    (allowed : rule.allows ((encode alphabet bytes).length % 4) marks = true)
    (fits : (encode alphabet bytes).length % 4 + marks ≤ 4)
    (noneBehindFull : (encode alphabet bytes).length % 4 = 0 → marks = 0)
    (offset : Nat) :
    decodeGroups alphabet rule offset (encode alphabet bytes ++ List.replicate marks padMark) =
      .ok bytes := by
  fun_induction encode alphabet bytes generalizing offset with
  | case1 first second third rest inductionHypothesis =>
      obtain ⟨bound0, bound1, bound2, bound3⟩ := sextets_bounds first second third
      simp only [List.length_cons, Nat.add_mod_right, Nat.add_assoc, Nat.reduceAdd]
        at allowed fits noneBehindFull
      simp only [List.cons_append]
      rw [decodeGroups_quad (alphabet.value?_symbol bound0) (alphabet.value?_symbol bound1)
        (alphabet.value?_symbol bound2) (alphabet.value?_symbol bound3),
        inductionHypothesis allowed fits noneBehindFull, octets_sextets]
      rfl
  | case2 first second =>
      obtain ⟨bound0, bound1, bound2, -⟩ := sextets_bounds first second 0
      have unused : (sextets first second 0).2.2.1 % 4 = 0 := by
        simp only [sextets, UInt8.toNat_zero]
        omega
      have last : (sextets first second 0).2.2.2 = 0 := rfl
      have spelled := octets_sextets first second 0
      rw [last] at spelled
      have atMostOne : marks = 0 ∨ marks = 1 := by
        simp only [List.length_cons, List.length_nil] at fits
        omega
      rcases atMostOne with rfl | rfl
      all_goals
        rw [List.cons_append, List.cons_append, List.cons_append, decodeGroups, decodeLastGroup,
          readLastGroup_cons (alphabet.value?_symbol bound0),
          readLastGroup_cons (alphabet.value?_symbol bound1),
          readLastGroup_cons (alphabet.value?_symbol bound2)]
        · simpa [readLastGroup, Except.map, lastOctets?, unused, spelled] using allowed
        · simp
  | case3 first =>
      obtain ⟨bound0, bound1, -⟩ := sextets_bounds first 0 0
      have unused : (sextets first 0 0).2.1 % 16 = 0 := by
        simp only [sextets, UInt8.toNat_zero]
        omega
      have thirdAndFourth : (sextets first 0 0).2.2 = (0, 0) := rfl
      have spelled := octets_sextets first 0 0
      rw [thirdAndFourth] at spelled
      have atMostTwo : marks = 0 ∨ marks = 1 ∨ marks = 2 := by
        simp only [List.length_cons, List.length_nil] at fits
        omega
      rcases atMostTwo with rfl | rfl | rfl
      all_goals
        rw [List.cons_append, List.cons_append, decodeGroups, decodeLastGroup,
          readLastGroup_cons (alphabet.value?_symbol bound0),
          readLastGroup_cons (alphabet.value?_symbol bound1)]
        · simpa [readLastGroup, Except.map, lastOctets?, unused, spelled] using allowed
        · simp
  | case4 =>
      obtain rfl := noneBehindFull rfl
      exact decodeGroups_nil

/-- The symbols of a buffer decode to the buffer under every rule that does not ask for marks. -/
theorem decodeGroups_encode
    (unmarked : ∀ symbols, rule.allows symbols 0 = true)
    (offset : Nat)
    (bytes : Bytes) :
    decodeGroups alphabet rule offset (encode alphabet bytes) = .ok bytes := by
  have decoded : decodeGroups alphabet rule offset
      (encode alphabet bytes ++ List.replicate 0 padMark) = .ok bytes :=
    decodeGroups_marked_encode (unmarked _) (by omega) (fun _ => rfl) offset
  rwa [List.replicate_zero, List.append_nil] at decoded

/-- The symbols of a buffer do not end in a stray byte. -/
theorem strayEnd?_encode (other alphabet : Alphabet) (bytes : Bytes) :
    strayEnd? other (encode alphabet bytes) = none := by
  have notOneMore : ¬(encode alphabet bytes).length % 4 = 1 := by
    rw [length_encode]
    omega
  unfold strayEnd?
  split
  · simp only [notOneMore, decide_false, Bool.false_and, Bool.false_eq_true, if_false]
  · rfl

/-- What has been encoded is decoded again. -/
theorem decode_encode
    (unmarked : ∀ symbols, rule.allows symbols 0 = true)
    (alphabet : Alphabet)
    (bytes : Bytes) :
    decode alphabet rule (encode alphabet bytes) = .ok bytes := by
  rw [decode, strayEnd?_encode]
  exact decodeGroups_encode unmarked 0 bytes

/-- What has been encoded with all its marks is decoded by a reader that asks for them. -/
theorem decode_encodePadded (alphabet : Alphabet) (bytes : Bytes) :
    decode alphabet .canonical (encodePadded alphabet bytes) = .ok bytes := by
  have notOneMore : (encode alphabet bytes).length % 4 ≠ 1 := by
    rw [length_encode]
    omega
  have full : (encodePadded alphabet bytes).length % 4 = 0 := by
    simp only [encodePadded, List.length_append, List.length_replicate]
    omega
  have noStrayEnd : strayEnd? alphabet (encodePadded alphabet bytes) = none := by
    unfold strayEnd?
    split <;> simp [full]
  have allowed : PaddingRule.canonical.allows ((encode alphabet bytes).length % 4)
      ((4 - (encode alphabet bytes).length % 4) % 4) = true := by
    simp only [PaddingRule.allows, beq_iff_eq]
    omega
  rw [decode, noStrayEnd]
  exact decodeGroups_marked_encode allowed (by omega) (by omega) 0

/-- No mark stands among the symbols of a buffer. -/
theorem ne_padMark_of_mem_encode
    {alphabet : Alphabet}
    {bytes : Bytes}
    {symbol : UInt8}
    (member : symbol ∈ encode alphabet bytes) :
    symbol ≠ padMark := by
  rw [encode_eq_map_values] at member
  obtain ⟨value, inValues, rfl⟩ := List.mem_map.mp member
  exact alphabet.symbol_ne_padMark (lt_of_mem_values inValues)

end Base64
end Lockbox
