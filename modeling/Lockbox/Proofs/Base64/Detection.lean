import Lockbox.Base64.Runs
import Lockbox.Proofs.Base64.Grammar

/-!
# What detection finds

Symbols between characters that are none of the same alphabet are a run of the text around them
(`exists_mem_runs_surrounded`). The symbols of a buffer are mended to its padded encoding and to
nothing else, because the last symbol of a group that is not full is never one of the two that
mending replaces (`mend_encode`). So a buffer that is encoded anywhere in a text is detected
(`detect_surrounded_encode`).
-/

namespace Lockbox
namespace Base64

/-! ## Detected tokens -/

theorem mem_insertSorted
    {text token : Text}
    {list : List Text} :
    token ∈ insertSorted text list ↔ token = text ∨ token ∈ list := by
  induction list with
  | nil => simp [insertSorted]
  | cons head tail inductionHypothesis =>
      rw [insertSorted]
      split
      next => simp
      next =>
        split
        next same => simp [same]
        next =>
          rw [List.mem_cons, inductionHypothesis, List.mem_cons]
          exact or_left_comm

theorem mem_foldr_insertSorted
    {token : Text}
    {list : List Text} :
    token ∈ list.foldr insertSorted [] ↔ token ∈ list := by
  induction list with
  | nil => rfl
  | cons head tail inductionHypothesis =>
      rw [List.foldr_cons, mem_insertSorted, inductionHypothesis, List.mem_cons]

/-- The tokens of a text are the mended candidates of its runs that are meaningful. -/
theorem mem_detect_iff
    {text token : Text} :
    token ∈ detect text ↔
      isMeaningful token = true ∧
        ∃ alphabet, ∃ run ∈ runs alphabet text, ∃ candidate ∈ run.candidates,
          mend candidate = token := by
  have eitherAlphabet : ∀ {property : Alphabet → Prop},
      (∃ alphabet, property alphabet) ↔ property .standard ∨ property .urlSafe := by
    intro property
    constructor
    · rintro ⟨_ | _, holds⟩
      · exact Or.inr holds
      · exact Or.inl holds
    · rintro (holds | holds)
      · exact ⟨_, holds⟩
      · exact ⟨_, holds⟩
  rw [detect, mem_foldr_insertSorted, List.mem_filter, and_comm, List.map_append, List.mem_append,
    eitherAlphabet]
  simp only [List.mem_map, List.mem_flatMap]
  grind

/-! ## Runs of a text with more in front -/

section Runs

variable {alphabet : Alphabet} {text : Text} {char : Char}

theorem containsChar_padChar (alphabet : Alphabet) : alphabet.containsChar padChar = false := by
  cases alphabet <;> decide

/-- A text has at least one run. -/
theorem exists_runs_eq_cons (alphabet : Alphabet) (text : Text) :
    ∃ first later, runs alphabet text = first :: later := by
  cases text with
  | nil => exact ⟨_, _, rfl⟩
  | cons char rest =>
      rw [runs]
      split
      next => exact ⟨_, _, rfl⟩
      next => split_ifs <;> exact ⟨_, _, rfl⟩

/-- Symbols in front of a text join its first run. -/
theorem runs_append_symbols
    {symbols : Text}
    {first : Run}
    {later : List Run}
    (contained : ∀ char ∈ symbols, alphabet.containsChar char = true)
    (known : runs alphabet text = first :: later) :
    runs alphabet (symbols ++ text) = ⟨symbols ++ first.symbols, first.marks⟩ :: later := by
  induction symbols with
  | nil => exact known
  | cons char rest inductionHypothesis =>
      have restRuns := inductionHypothesis fun other member =>
        contained other (List.mem_cons_of_mem char member)
      rw [List.cons_append, runs, restRuns]
      exact if_pos (contained char (List.mem_cons_self ..))

/-- A text that does not begin with a symbol has no symbols in its first run. -/
theorem exists_runs_eq_cons_of_apart
    (apart : ∀ char ∈ text.head?, alphabet.containsChar char = false) :
    ∃ marks later, runs alphabet text = ⟨[], marks⟩ :: later := by
  cases text with
  | nil => exact ⟨0, [], rfl⟩
  | cons char rest =>
      have noSymbol : alphabet.containsChar char = false := apart char rfl
      obtain ⟨next, later, known⟩ := exists_runs_eq_cons alphabet rest
      rw [runs, known]
      simp only [noSymbol, Bool.false_eq_true, if_false]
      split_ifs <;> exact ⟨_, _, rfl⟩

/-- What stands in front of a text changes its first run at most. -/
theorem mem_tail_runs_append
    {run : Run}
    (member : run ∈ (runs alphabet text).tail)
    (front : Text) :
    run ∈ (runs alphabet (front ++ text)).tail := by
  induction front with
  | nil => exact member
  | cons char rest inductionHypothesis =>
      obtain ⟨first, later, known⟩ := exists_runs_eq_cons alphabet (rest ++ text)
      rw [known, List.tail_cons] at inductionHypothesis
      rw [List.cons_append, runs, known]
      dsimp only
      split_ifs
      · exact inductionHypothesis
      · exact inductionHypothesis
      · exact List.mem_cons_of_mem _ inductionHypothesis
      · exact List.mem_cons_of_mem _ inductionHypothesis

/-- A first run that has symbols is left alone by what is no symbol. -/
theorem mem_tail_runs_cons
    {first : Run}
    {later : List Run}
    (known : runs alphabet text = first :: later)
    (nonempty : first.symbols ≠ [])
    (noSymbol : alphabet.containsChar char = false) :
    first ∈ (runs alphabet (char :: text)).tail := by
  have notEmpty : first.symbols.isEmpty = false := by simpa using nonempty
  rw [runs, known]
  simp only [noSymbol, notEmpty, Bool.false_eq_true, if_false]
  split_ifs <;> exact List.mem_cons_self ..

/-- Symbols between characters that are no symbols are a run. -/
theorem exists_mem_runs_surrounded
    {before symbols after : Text}
    (nonempty : symbols ≠ [])
    (contained : ∀ char ∈ symbols, alphabet.containsChar char = true)
    (apartBefore : ∀ char ∈ before.getLast?, alphabet.containsChar char = false)
    (apartAfter : ∀ char ∈ after.head?, alphabet.containsChar char = false) :
    ∃ marks, ⟨symbols, marks⟩ ∈ runs alphabet (before ++ (symbols ++ after)) := by
  obtain ⟨marks, later, afterRuns⟩ := exists_runs_eq_cons_of_apart apartAfter
  have known := runs_append_symbols contained afterRuns
  rw [List.append_nil] at known
  refine ⟨marks, ?_⟩
  cases last : before.getLast? with
  | none =>
      rw [List.getLast?_eq_none_iff.mp last, List.nil_append, known]
      exact List.mem_cons_self ..
  | some char =>
      obtain ⟨front, rfl⟩ := List.getLast?_eq_some_iff.mp last
      have inTail := mem_tail_runs_cons known nonempty (apartBefore char last)
      rw [List.append_assoc, List.singleton_append]
      exact List.mem_of_mem_tail (mem_tail_runs_append inTail front)

end Runs

/-! ## Mending -/

/-- The last value of a group that is not full has zero low bits. -/
theorem mod_four_of_getLast?_values
    {bytes : Bytes}
    {value : Nat}
    (notFull : (values bytes).length % 4 ≠ 0)
    (isLast : (values bytes).getLast? = some value) :
    value % 4 = 0 := by
  fun_induction values bytes with
  | case1 first second third rest inductionHypothesis =>
      simp only [List.length_cons, Nat.add_assoc, Nat.reduceAdd, Nat.add_mod_right] at notFull
      have nonempty : values rest ≠ [] := by
        intro empty
        rw [empty] at notFull
        exact notFull rfl
      apply inductionHypothesis notFull
      simpa [List.getLast?_cons, List.getLast?_eq_some_getLast nonempty] using isLast
  | case2 first second =>
      simp only [List.getLast?_cons_cons, List.getLast?_singleton, Option.some.injEq] at isLast
      simp only [← isLast, sextets, UInt8.toNat_zero]
      omega
  | case3 first =>
      simp only [List.getLast?_cons_cons, List.getLast?_singleton, Option.some.injEq] at isLast
      simp only [← isLast, sextets, UInt8.toNat_zero]
      omega
  | case4 => exact absurd rfl notFull

/-- The symbols of an alphabet are ASCII. -/
theorem Alphabet.ascii_of_containsChar
    {alphabet : Alphabet}
    {char : Char}
    (contained : alphabet.containsChar char = true) :
    char.toNat < 0x80 := by
  have code : char.toNat = char.val.toNat := rfl
  have alphanumeric : char.isAlphanum =
      (decide ('A'.val ≤ char.val ∧ char.val ≤ 'Z'.val) ||
        (decide ('a'.val ≤ char.val) && decide (char.val ≤ 'z'.val)) ||
        (decide ('0'.val ≤ char.val) && decide (char.val ≤ '9'.val))) := rfl
  cases alphabet
  all_goals
    simp only [containsChar, alphanumeric, Bool.or_eq_true, Bool.and_eq_true, decide_eq_true_eq,
      beq_iff_eq, UInt32.le_iff_toNat_le, Char.reduceVal, UInt32.reduceToNat] at contained
    rcases contained with inRange | rfl | rfl
    · omega
    · decide
    · decide

/-- A character that an alphabet contains is the symbol for some value. -/
theorem Alphabet.exists_symbol_of_containsChar
    {alphabet : Alphabet}
    {char : Char}
    (contained : alphabet.containsChar char = true) :
    ∃ value < 64, char = Char.ofNat (alphabet.symbol value).toNat := by
  have known : ∀ code < 0x80, alphabet.containsChar (Char.ofNat code) = true →
      ∃ value < 64, Char.ofNat code = Char.ofNat (alphabet.symbol value).toNat := by
    cases alphabet <;> decide +kernel
  have ascii := ascii_of_containsChar contained
  rw [← Char.ofNat_toNat char] at contained ⊢
  exact known _ ascii contained

section Symbols

variable (alphabet : Alphabet) {value : Nat}

theorem Alphabet.containsChar_symbol
    (small : value < 64) :
    alphabet.containsChar (Char.ofNat (alphabet.symbol value).toNat) = true := by
  revert value
  cases alphabet <;> decide

/-- A symbol for a value with zero low bits is none that mending replaces. -/
theorem Alphabet.symbol_notReplaced
    (small : value < 64)
    (lowBits : value % 4 = 0) :
    Char.ofNat (alphabet.symbol value).toNat ≠ '_' ∧
      Char.ofNat (alphabet.symbol value).toNat ≠ '-' := by
  revert value
  cases alphabet <;> decide

end Symbols

theorem ofAscii_encode_ne_nil
    (alphabet : Alphabet)
    {bytes : Bytes}
    (nonempty : 0 < bytes.length) :
    Text.ofAscii (encode alphabet bytes) ≠ [] := by
  rw [← List.length_pos_iff, Text.ofAscii, List.length_map, length_encode]
  omega

theorem containsChar_of_mem_encode
    {alphabet : Alphabet}
    {bytes : Bytes}
    {char : Char}
    (member : char ∈ Text.ofAscii (encode alphabet bytes)) :
    alphabet.containsChar char = true := by
  obtain ⟨symbol, inSymbols, rfl⟩ := List.mem_map.mp member
  rw [encode_eq_map_values] at inSymbols
  obtain ⟨value, inValues, rfl⟩ := List.mem_map.mp inSymbols
  exact alphabet.containsChar_symbol (lt_of_mem_values inValues)

/-- Nothing is replaced at the end of the symbols of a buffer. -/
theorem replaceEnd_encode (alphabet : Alphabet) (bytes : Bytes) :
    replaceEnd (Text.ofAscii (encode alphabet bytes)) = Text.ofAscii (encode alphabet bytes) := by
  rw [replaceEnd]
  split
  next => rfl
  next notFull =>
    have lastKept : ∀ char, (Text.ofAscii (encode alphabet bytes)).getLast? = some char →
        char ≠ '_' ∧ char ≠ '-' := by
      intro char isLast
      rw [Text.ofAscii, List.length_map, encode_eq_map_values, List.length_map] at notFull
      rw [Text.ofAscii, encode_eq_map_values, List.map_map, List.getLast?_map,
        Option.map_eq_some_iff] at isLast
      obtain ⟨value, lastValue, rfl⟩ := isLast
      exact alphabet.symbol_notReplaced (lt_of_mem_values (List.mem_of_getLast? lastValue))
        (mod_four_of_getLast?_values notFull lastValue)
    split
    next lowLine => exact absurd rfl (lastKept _ lowLine).1
    next minus => exact absurd rfl (lastKept _ minus).2
    next => rfl

theorem dropSurplusMarks_encode (alphabet : Alphabet) (bytes : Bytes) :
    dropSurplusMarks (Text.ofAscii (encode alphabet bytes)) =
      Text.ofAscii (encode alphabet bytes) := by
  rw [dropSurplusMarks]
  split
  next => rfl
  next =>
    apply trimEndWhile_of_forall
    intro char member
    rw [beq_eq_false_iff_ne]
    rintro rfl
    have contained := containsChar_of_mem_encode member
    rw [containsChar_padChar] at contained
    cases contained

/-- The symbols of a buffer are mended to its padded encoding. -/
theorem mend_encode (alphabet : Alphabet) (bytes : Bytes) :
    mend (Text.ofAscii (encode alphabet bytes)) = Text.ofAscii (encodePadded alphabet bytes) := by
  rw [mend, dropSurplusMarks_encode, replaceEnd_encode, fillEnd, encodePadded, Text.ofAscii,
    Text.ofAscii, List.length_map, List.map_append, List.map_replicate]
  rfl

/-! ## Meaning -/

/-- Whichever readers decode a text decode it to the same bytes. -/
theorem eq_of_decode_eq_ok
    {alphabet other : Alphabet}
    {rule otherRule : PaddingRule}
    {text bytes otherBytes : Bytes}
    (read : decode alphabet rule text = .ok bytes)
    (readToo : decode other otherRule text = .ok otherBytes) :
    bytes = otherBytes := by
  obtain ⟨marks, -, rfl⟩ := decode_eq_ok_iff.mp read
  obtain ⟨otherMarks, -, split⟩ := decode_eq_ok_iff.mp readToo
  have symbols := congrArg (trimEndWhile (· == padMark)) split
  rw [trimEndWhile_marked_encode, trimEndWhile_marked_encode] at symbols
  exact eq_of_encode_eq_encode symbols

/-- A token is meaningful when it decodes with all its marks, in some alphabet, to bytes that are
not all blank. -/
theorem isMeaningful_iff
    {token : Text} :
    isMeaningful token = true ↔
      ∃ alphabet bytes, decode alphabet .canonical (Utf8.encode token) = .ok bytes ∧
        ∃ byte ∈ bytes, Bytes.isBlank byte = false := by
  have kept_iff : ∀ {bytes : Bytes}, (!(Bytes.trim bytes).isEmpty) = true ↔
      ∃ byte ∈ bytes, Bytes.isBlank byte = false := by
    intro bytes
    rw [Bool.not_eq_true', List.isEmpty_eq_false_iff]
    exact trimWhile_ne_nil_iff
  constructor
  · intro meaningful
    dsimp only [isMeaningful] at meaningful
    split at meaningful
    next bytes decoded => exact ⟨_, bytes, decoded, kept_iff.mp meaningful⟩
    next =>
      split at meaningful
      next bytes decoded => exact ⟨_, bytes, decoded, kept_iff.mp meaningful⟩
      next => cases meaningful
  · rintro ⟨alphabet, bytes, decoded, notBlank⟩
    have kept := kept_iff.mpr notBlank
    dsimp only [isMeaningful]
    split
    next urlSafeBytes decodedToo => rwa [eq_of_decode_eq_ok decodedToo decoded]
    next fault notUrlSafe =>
      cases alphabet with
      | urlSafe => cases decoded.symm.trans notUrlSafe
      | standard =>
          rw [decoded]
          exact kept

/-- The padded encoding of a buffer that is not blank is meaningful. -/
theorem isMeaningful_encodePadded
    (alphabet : Alphabet)
    {bytes : Bytes}
    (notBlank : ∃ byte ∈ bytes, Bytes.isBlank byte = false) :
    isMeaningful (Text.ofAscii (encodePadded alphabet bytes)) = true := by
  have written : Utf8.encode (Text.ofAscii (encodePadded alphabet bytes)) =
      encodePadded alphabet bytes :=
    Utf8.encode_ofAscii fun _ => ascii_of_mem_marked_encode
  apply isMeaningful_iff.mpr
  refine ⟨alphabet, bytes, ?_, notBlank⟩
  rw [written]
  exact decode_encodePadded alphabet bytes

/-! ## Texts around a token -/

section Texts

variable {alphabet : Alphabet} {bytes : Bytes} {before after : Text}

/-- The symbols of a buffer of twelve bytes or more are detected wherever they stand apart. -/
theorem mem_detect_surrounded_encode
    (long : 12 ≤ bytes.length)
    (notBlank : ∃ byte ∈ bytes, Bytes.isBlank byte = false)
    (apartBefore : ∀ char ∈ before.getLast?, alphabet.containsChar char = false)
    (apartAfter : ∀ char ∈ after.head?, alphabet.containsChar char = false) :
    Text.ofAscii (encodePadded alphabet bytes) ∈
      detect (before ++ (Text.ofAscii (encode alphabet bytes) ++ after)) := by
  have longEnough : Token.minimumLength ≤ (Text.ofAscii (encode alphabet bytes)).length := by
    rw [Text.ofAscii, List.length_map, length_encode, Token.minimumLength]
    omega
  have nonempty := ofAscii_encode_ne_nil alphabet (Nat.lt_of_lt_of_le (by decide) long)
  obtain ⟨marks, isRun⟩ := exists_mem_runs_surrounded nonempty
    (fun _ => containsChar_of_mem_encode) apartBefore apartAfter
  refine mem_detect_iff.mpr ⟨isMeaningful_encodePadded alphabet notBlank, alphabet, _, isRun,
    Text.ofAscii (encode alphabet bytes), ?_, mend_encode alphabet bytes⟩
  rw [Run.candidates, if_pos longEnough]
  simp

/-- What follows symbols stays apart from them when its end is trimmed, with marks in front of it or
without. -/
theorem apart_of_trimEndWhile
    (marks : Nat)
    (apartAfter : ∀ char ∈ after.head?, alphabet.containsChar char = false) :
    (∀ char ∈ (List.replicate marks padChar ++ after).head?, alphabet.containsChar char = false) ∧
      ∀ char ∈ (trimEndWhile Text.isBlank (List.replicate marks padChar ++ after)).head?,
        alphabet.containsChar char = false := by
  have marked : ∀ char ∈ (List.replicate marks padChar ++ after).head?,
      alphabet.containsChar char = false := by
    intro char first
    cases marks with
    | zero => exact apartAfter char first
    | succ marks =>
        obtain rfl := Option.some.inj first
        exact containsChar_padChar alphabet
  refine ⟨marked, fun char first => marked char ?_⟩
  obtain ⟨removed, split, -⟩ :=
    exists_append_trimEndWhile Text.isBlank (List.replicate marks padChar ++ after)
  obtain ⟨rest, begins⟩ := List.head?_eq_some_iff.mp first
  rw [split, begins]
  rfl

/-- What stands before symbols stays apart from them when its front is trimmed. -/
theorem apart_of_dropWhile
    (apartBefore : ∀ char ∈ before.getLast?, alphabet.containsChar char = false) :
    ∀ char ∈ (before.dropWhile Text.isBlank).getLast?, alphabet.containsChar char = false := by
  intro char last
  apply apartBefore
  obtain ⟨front, ends⟩ := List.getLast?_eq_some_iff.mp last
  rw [← List.takeWhile_append_dropWhile (p := Text.isBlank) (l := before), ends,
    ← List.append_assoc, List.getLast?_concat]
  rfl

/-- A buffer of twelve bytes or more that is not blank is detected wherever it stands encoded, with
any number of marks behind it, if the characters around it are no symbols of the alphabet; what is
detected is its padded encoding. -/
theorem detect_surrounded_encode
    (marks : Nat)
    (long : 12 ≤ bytes.length)
    (notBlank : ∃ byte ∈ bytes, Bytes.isBlank byte = false)
    (apartBefore : ∀ char ∈ before.getLast?, alphabet.containsChar char = false)
    (apartAfter : ∀ char ∈ after.head?, alphabet.containsChar char = false) :
    Text.ofAscii (encodePadded alphabet bytes) ∈
        detect (before ++ (Text.ofAscii (encode alphabet bytes) ++
          (List.replicate marks padChar ++ after))) ∧
      holdsToken (before ++ (Text.ofAscii (encode alphabet bytes) ++
        (List.replicate marks padChar ++ after))) = true := by
  obtain ⟨apartMarked, apartTrimmed⟩ := apart_of_trimEndWhile marks apartAfter
  have detected := mem_detect_surrounded_encode long notBlank apartBefore apartMarked
  refine ⟨detected, ?_⟩
  have nonempty := ofAscii_encode_ne_nil alphabet (Nat.lt_of_lt_of_le (by decide) long)
  have symbolsWanted : ∀ char ∈ Text.ofAscii (encode alphabet bytes),
      Text.isBlank char = false := by
    intro char member
    obtain ⟨symbol, inSymbols, rfl⟩ := List.mem_map.mp member
    rw [encode_eq_map_values] at inSymbols
    obtain ⟨value, inValues, rfl⟩ := List.mem_map.mp inSymbols
    exact alphabet.textIsBlank_symbol (lt_of_mem_values inValues)
  have stillDetected := mem_detect_surrounded_encode long notBlank
    (apart_of_dropWhile apartBefore) apartTrimmed
  rw [holdsToken, Text.trim, trimWhile_append_wanted before _ nonempty symbolsWanted,
    Bool.and_eq_true]
  constructor
  · simp [nonempty]
  · rw [Bool.not_eq_true', List.isEmpty_eq_false_iff]
    exact List.ne_nil_of_mem stillDetected

end Texts

/-- A buffer whose standard encoding has both symbols of its own, between minus signs. -/
theorem detect_surrounded_encode_plusSigns :
    "+++/QUJDREVGR0hJSg==".toList ∈ detect "see -+++/QUJDREVGR0hJSg===-_ ".toList ∧
      holdsToken "see -+++/QUJDREVGR0hJSg===-_ ".toList = true := by
  have apartBefore : ∀ char ∈ "see -".toList.getLast?,
      Alphabet.standard.containsChar char = false := by
    rintro char ⟨⟩
    decide
  have apartAfter : ∀ char ∈ "-_ ".toList.head?, Alphabet.standard.containsChar char = false := by
    rintro char ⟨⟩
    decide
  exact @detect_surrounded_encode .standard
    [0xFB, 0xEF, 0xBF, 0x41, 0x42, 0x43, 0x44, 0x45, 0x46, 0x47, 0x48, 0x49, 0x4A]
    "see -".toList "-_ ".toList 3 (by decide) (by decide) apartBefore apartAfter

end Base64
end Lockbox
