import Lockbox.Proofs.Base64.Patterns

/-!
# Detected tokens

The tokens of a text are listed in the order of their bytes (`pairwise_detect`). Rounds of repair
that begin with a stretch of the text end in a stretch of it, or in one with a symbol of the
standard alphabet in the place of what stood right behind it (`Stem.repair`). What makes a token
meaningful is also what the forgiving reader of texts returns for it
(`ofBase64_of_decode_canonical`). -/

namespace Lockbox
namespace Base64

/-! ## Order -/

/-- An increasing list is increasing with one more element. -/
theorem pairwise_insertSorted
    {text : Text}
    {list : List Text}
    (increasing : list.Pairwise (· < ·)) :
    (insertSorted text list).Pairwise (· < ·) := by
  induction list with
  | nil => exact List.pairwise_singleton _ _
  | cons head tail inductionHypothesis =>
      obtain ⟨below, tailIncreasing⟩ := List.pairwise_cons.mp increasing
      rw [insertSorted]
      split
      next less =>
        refine List.pairwise_cons.mpr ⟨fun other member => ?_, increasing⟩
        rcases List.mem_cons.mp member with rfl | inTail
        · exact less
        · exact List.lt_trans less (below other inTail)
      next notLess =>
        split
        next => exact increasing
        next different =>
          have more : head < text := by
            by_contra notMore
            exact different (List.le_antisymm notMore notLess)
          refine List.pairwise_cons.mpr
            ⟨fun other member => ?_, inductionHypothesis tailIncreasing⟩
          rcases mem_insertSorted.mp member with rfl | inTail
          · exact more
          · exact below other inTail

/-- The tokens of a text are listed in increasing order, by their characters and so by their
bytes. -/
theorem pairwise_detect (text : Text) :
    (detect text).Pairwise (fun first second => Utf8.encode first < Utf8.encode second) := by
  have increasing : ∀ list : List Text, (list.foldr insertSorted []).Pairwise (· < ·) := by
    intro list
    induction list with
    | nil => exact List.Pairwise.nil
    | cons head tail inductionHypothesis => exact pairwise_insertSorted inductionHypothesis
  exact (increasing _).imp Utf8.encode_lt_encode

/-! ## Stems -/

/-- What rounds of repair can make of a stretch of a text: a stretch of it, or one with a symbol of
the standard alphabet in the place of the low lines or minus signs that stand right behind it. -/
inductive Stem (text : Text) : Text → Prop
  | plain {stretch : Text} (within : stretch <:+: text) : Stem text stretch
  | solidus {stretch : Text} (lowLine : stretch ++ ['_'] <:+: text) : Stem text (stretch ++ ['/'])
  | plusSign {stretch : Text} (minus : stretch ++ ['-'] <:+: text) : Stem text (stretch ++ ['+'])

section Stems

variable {text token : Text}

/-- In front of the last stretch of a character stands what that character follows. -/
theorem isPrefix_trimEndWhile_concat (front : Text) (last : Char) :
    trimEndWhile (· == last) front ++ [last] <+: front ++ [last] := by
  obtain ⟨removed, split, allLast⟩ := exists_append_trimEndWhile (· == last) front
  have removedEq : removed = List.replicate removed.length last :=
    List.eq_replicate_iff.mpr ⟨rfl, fun char member => beq_iff_eq.mp (allLast char member)⟩
  refine ⟨removed, ?_⟩
  conv => rhs; rw [split]
  rw [removedEq, List.append_assoc, List.append_assoc, List.singleton_append,
    ← List.replicate_succ, List.replicate_succ']

/-- What a stretch is replaced by is a symbol for a low line or a minus sign, or nothing. -/
theorem eq_of_endReplacement?
    {last : Char}
    {replacement : Text}
    (replaced : endReplacement? last = some replacement) :
    last = '_' ∧ replacement = ['/'] ∨ last = '-' ∧ replacement = ['+'] ∨ replacement = [] := by
  unfold endReplacement? at replaced
  split at replaced <;> cases replaced <;> simp

/-- One round of repair. -/
theorem Stem.of_repairRound?
    {next : Text}
    (stem : Stem text token)
    (repaired : repairRound? token = some next) :
    Stem text next := by
  obtain ⟨front, last, replacement, split, -, replaced, rfl⟩ :=
    exists_of_repairRound?_eq_some repaired
  cases stem with
  | plain within =>
      rw [split] at within
      have behind := (isPrefix_trimEndWhile_concat front last).isInfix.trans within
      rcases eq_of_endReplacement? replaced with ⟨rfl, rfl⟩ | ⟨rfl, rfl⟩ | rfl
      · exact .solidus behind
      · exact .plusSign behind
      · rw [List.append_nil]
        exact .plain ((List.prefix_append _ _).isInfix.trans behind)
  | solidus | plusSign =>
      -- A symbol that a round has put there is not replaced again.
      obtain ⟨-, sameLast⟩ := List.append_inj' split rfl
      rw [← List.singleton_inj.mp sameLast] at replaced
      cases replaced

/-- All rounds of repair. -/
theorem Stem.repair
    (stem : Stem text token) :
    Stem text (repair token) := by
  induction token using wellFounded_repairRound.induction with
  | _ token inductionHypothesis =>
      cases repaired : repairRound? token with
      | none => rwa [repair_of_none repaired]
      | some next =>
          rw [repair_of_some repaired]
          exact inductionHypothesis next repaired (stem.of_repairRound? repaired)

/-- Marks at the end may be dropped. -/
theorem Stem.trimEnd_marks
    (stem : Stem text token) :
    Stem text (trimEndWhile (· == padChar) token) := by
  have unmarked : ∀ {stretch : Text} {symbol : Char}, (symbol == padChar) = false →
      trimEndWhile (· == padChar) (stretch ++ [symbol]) = stretch ++ [symbol] := by
    intro stretch symbol noMark
    refine trimEndWhile_eq_self_iff.mpr fun last isLast => ?_
    rw [List.getLast?_concat] at isLast
    rwa [← Option.some.inj isLast]
  cases stem with
  | plain within =>
      obtain ⟨marks, split, -⟩ := exists_append_trimEndWhile (· == padChar) token
      have inFront : trimEndWhile (· == padChar) token <+: token := ⟨marks, split.symm⟩
      exact .plain (inFront.isInfix.trans within)
  | solidus lowLine =>
      rw [unmarked rfl]
      exact .solidus lowLine
  | plusSign minus =>
      rw [unmarked rfl]
      exact .plusSign minus

end Stems

/-! ## Meaning -/

section Meaning

variable {token : Text} {bytes : Bytes}

/-- What decodes with all its marks has full groups only. -/
theorem length_mod_four_of_decode_canonical
    {alphabet : Alphabet}
    {text : Bytes}
    (decoded : decode alphabet .canonical text = .ok bytes) :
    text.length % 4 = 0 := by
  obtain ⟨marks, closes, rfl⟩ := decode_eq_ok_iff.mp decoded
  have full := closes.allowed
  rw [PaddingRule.allows_mod, PaddingRule.allows, beq_iff_eq] at full
  rwa [List.length_append, List.length_replicate]

/-- What decodes with all its marks is read by the reader of texts. -/
theorem ofBase64_of_decode_canonical
    {alphabet : Alphabet}
    (decoded : decode alphabet .canonical (Utf8.encode token) = .ok bytes)
    (nonempty : bytes ≠ []) :
    Encoding.ofBase64 token = .ok bytes := by
  obtain ⟨marks, -, written⟩ := decode_eq_ok_iff.mp decoded
  refine Encoding.ofBase64_eq_ok_iff.mpr ⟨nonempty, alphabet, marks, ?_⟩
  rw [(Utf8.encode_eq_iff_of_ascii fun _ => ascii_of_mem_marked_encode).mp written]
  exact trim_ofAscii_marked_encode alphabet bytes marks

end Meaning

/-! ## Soundness -/

/-- A token without its marks is what rounds of repair have made of a match. -/
theorem stem_of_mem_detect
    {text token : Text}
    (detected : token ∈ detect text) :
    Stem text (trimEndWhile (· == padChar) token) := by
  obtain ⟨-, pattern, -, words, finds, word, member, rfl⟩ := mem_detect_iff_finds.mp detected
  obtain ⟨isMatch, within⟩ := finds.matches_and_within member
  have stem : Stem text (repair (Text.trim word)) := by
    rw [isMatch.trim]
    exact (Stem.plain within).repair
  rw [fillEnd, trimEndWhile_append _ (by simp)]
  exact stem.trimEnd_marks

/-- Rounds of repair come to an end, a search with a pattern takes one list of words and no other,
and the tokens of a text are listed in the increasing order of their bytes. They are the meaningful
ones among what rounds of repair make of the words that searches take. Each consists of full groups,
one at least, and decodes with all its marks to bytes that are not all blank, the same in whichever
alphabet and for the reader of texts. Without its marks it is a stretch of the text, or one with a
solidus for the low lines or a plus sign for the minus signs right behind it. -/
theorem detect_sound (text : Text) :
    (WellFounded fun next token : Text => repairRound? token = some next) ∧
    (∀ pattern ∈ patterns, ∃! words, pattern.Finds text words) ∧
    (detect text).Pairwise (fun first second => Utf8.encode first < Utf8.encode second) ∧
    (∀ token, token ∈ detect text ↔
      (∃ alphabet bytes, decode alphabet .canonical (Utf8.encode token) = .ok bytes ∧
        ∃ byte ∈ bytes, Bytes.isBlank byte = false) ∧
      ∃ pattern ∈ patterns, ∃ words, pattern.Finds text words ∧
        ∃ word ∈ words, fillEnd (repair (Text.trim word)) = token) ∧
    ∀ token ∈ detect text,
      (0 < (Utf8.encode token).length ∧ 4 ∣ (Utf8.encode token).length) ∧
      (∃ bytes,
        (∃ alphabet, decode alphabet .canonical (Utf8.encode token) = .ok bytes) ∧
        (∀ alphabet other, decode alphabet .canonical (Utf8.encode token) = .ok other →
          other = bytes) ∧
        (∃ byte ∈ bytes, Bytes.isBlank byte = false) ∧
        Encoding.ofBase64 token = .ok bytes) ∧
      Stem text (trimEndWhile (· == padChar) token) := by
  refine ⟨wellFounded_repairRound, fun pattern _ => ?_, pairwise_detect text, fun token => ?_,
    fun token detected => ?_⟩
  · exact ⟨_, Pattern.finds_select pattern text,
      fun _ finds => finds.unique (Pattern.finds_select pattern text)⟩
  · rw [mem_detect_iff_finds, isMeaningful_iff]
  · obtain ⟨meaningful, -⟩ := mem_detect_iff_finds.mp detected
    obtain ⟨alphabet, bytes, decoded, notBlank⟩ := isMeaningful_iff.mp meaningful
    have nonempty : bytes ≠ [] := by
      obtain ⟨byte, member, -⟩ := notBlank
      exact List.ne_nil_of_mem member
    have positive : 0 < (Utf8.encode token).length := by
      obtain ⟨marks, -, written⟩ := decode_eq_ok_iff.mp decoded
      have someBytes := List.length_pos_iff.mpr nonempty
      rw [written, List.length_append, length_encode]
      omega
    exact ⟨⟨positive, Nat.dvd_of_mod_eq_zero (length_mod_four_of_decode_canonical decoded)⟩,
      ⟨bytes, ⟨alphabet, decoded⟩, fun _ _ decodedToo => eq_of_decode_eq_ok decodedToo decoded,
        notBlank, ofBase64_of_decode_canonical decoded nonempty⟩,
      stem_of_mem_detect detected⟩

/-- Two low lines behind fifteen symbols stand for the sixteenth. -/
example : detect "QUJDREVGR0hJSkt__".toList = ["QUJDREVGR0hJSkt/".toList] := by decide +kernel

end Base64
end Lockbox
