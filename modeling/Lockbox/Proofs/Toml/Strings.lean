import Lockbox.Toml.Writer
import Mathlib.Data.List.TakeWhile

/-!
# Written strings

Whatever the text, the form in which it is written is read back as the text (`readString_written`).
Escapes are undone one character at a time; the forms without escapes are only chosen for texts
that cannot be taken for their end.
-/

namespace Lockbox
namespace Toml

variable {char : Char} {text rest : Text}

/-! ## Characters -/

theorem isPlain_of_needsEscape
    (harmless : needsEscape char = false)
    (notLineFeed : char ≠ '\n') :
    isPlain char = true := by
  by_cases tab : char = '\t'
  · simp [isPlain, tab]
  · simp_all [needsEscape, isPlain]

/-- The digits of a code are read back. -/
theorem toNat?_digits :
    ∀ code < 0x80,
      Hex.toNat? (['0', '0'] ++ (Hex.ofByte (UInt8.ofNat code)).map Char.toUpper) =
        some code := by
  decide +kernel

theorem scalar?_toNat
    (ascii : char.toNat < 0x80) :
    scalar? char.toNat = some char := by
  rw [scalar?, if_pos (Or.inl (by omega)), Char.ofNat_toNat]

/-- How a character can be spelled in a string with escapes. -/
inductive Spelling (multiline : Bool) (char : Char) : Text → Prop
  /-- A letter stands for it. -/
  | letter {letter : Char}
      (stands : escaped? letter = some char) :
      Spelling multiline char ['\\', letter]
  /-- Four digits give its code. -/
  | code {a b c d : Char}
      (spelled : (Hex.toNat? [a, b, c, d]).bind scalar? = some char) :
      Spelling multiline char ['\\', 'u', a, b, c, d]
  /-- It stands for itself. -/
  | itself
      (allowed : isPlain char = true ∨ (multiline = true ∧ char = '\n'))
      (notQuote : char ≠ '"')
      (notBackslash : char ≠ '\\') :
      Spelling multiline char [char]

theorem spelling_escape
    (multiline : Bool)
    (notQuote : char ≠ '"') :
    Spelling multiline char (escape multiline char) := by
  unfold escape
  split
  next => exact .letter rfl
  next => exact .letter rfl
  next =>
    cases multiline with
    | true => exact .itself (.inr ⟨rfl, rfl⟩) (by decide) (by decide)
    | false => exact .letter rfl
  next => exact .letter rfl
  next => exact .letter rfl
  next => exact .letter rfl
  next _ _ notLineFeed _ _ notBackslash =>
    split
    next needed =>
      have ascii : char.toNat < 0x80 := by
        simp [needsEscape] at needed
        omega
      have digits := congrArg (Option.bind · scalar?) (toNat?_digits char.toNat ascii)
      exact .code (digits.trans (scalar?_toNat ascii))
    next harmless =>
      have plain := isPlain_of_needsEscape (by simpa using harmless) notLineFeed
      exact .itself (.inl plain) notQuote notBackslash

/-! ## Strings with escapes on one line -/

/-- A character is read back from its spelling. -/
theorem readBasic_spelling
    {spelled : Text}
    (spelling : Spelling false char spelled)
    (rest : Text) :
    readBasic (spelled ++ rest) = prepend (some char) (readBasic rest) := by
  cases spelling with
  | letter stands =>
      rw [← stands]
      unfold escaped? at stands
      split at stands <;> first | rfl | cases stands
  | code spelled =>
      rw [← spelled]
      rfl
  | itself allowed _ notBackslash =>
      have plain : isPlain char = true := by simpa using allowed
      simp [readBasic, plain, notBackslash]

/-- A string with escapes on one line is read back. -/
theorem readBasic_escapeAll (quotes : Nat) (text rest : Text) :
    readBasic (escapeAll false quotes text ++ '"' :: rest) = some (text, rest) := by
  induction text generalizing quotes with
  | nil => rfl
  | cons char text inductionHypothesis =>
      rw [escapeAll]
      by_cases quote : char = '"'
      · subst quote
        have read := readBasic_spelling (.letter rfl : Spelling false '"' ['\\', '"'])
          (escapeAll false 0 text ++ '"' :: rest)
        rw [inductionHypothesis] at read
        exact read
      · rw [if_neg quote, List.append_assoc,
          readBasic_spelling (spelling_escape false quote), inductionHypothesis]
        rfl

/-! ## Strings with escapes on several lines -/

/-- A character that is no part of an escape or of the closing quotes stands for itself. -/
theorem readMultiBasic_itself
    (allowed : (isPlain char || char == '\n') = true)
    (notBackslash : char ≠ '\\')
    (notClosing : char = '"' → ∀ more, rest ≠ '"' :: '"' :: more) :
    readMultiBasic false (char :: rest) = prepend (some char) (readMultiBasic false rest) := by
  have notReturn : char ≠ '\r' := by
    rintro rfl
    revert allowed
    decide
  rw [readMultiBasic]
  · simp [allowed, notBackslash]
  all_goals simp_all

theorem readMultiBasic_spelling
    {spelled : Text}
    (spelling : Spelling true char spelled)
    (rest : Text) :
    readMultiBasic false (spelled ++ rest) = prepend (some char) (readMultiBasic false rest) := by
  cases spelling with
  | letter stands =>
      rw [← stands]
      unfold escaped? at stands
      split at stands <;> first | rfl | cases stands
  | code spelled =>
      rw [← spelled]
      rfl
  | itself allowed notQuote notBackslash =>
      exact readMultiBasic_itself (by simpa using allowed) notBackslash (absurd · notQuote)

/-- A text does not start with a quote. -/
def StartsUnquoted (quote : Char) (text : Text) : Prop :=
  ∀ more, text ≠ quote :: more

theorem Spelling.startsUnquoted
    {multiline : Bool}
    {spelled : Text}
    (spelling : Spelling multiline char spelled)
    (rest : Text) :
    StartsUnquoted '"' (spelled ++ rest) := by
  intro more same
  cases spelling with
  | letter => simp at same
  | code => simp at same
  | itself _ notQuote => exact notQuote (List.cons.inj same).1

/-- After two quotes no third one stands alone. -/
theorem startsUnquoted_escapeAll
    {quotes : Nat}
    (full : 2 ≤ quotes ∨ char ≠ '"')
    (rest : Text) :
    StartsUnquoted '"' (escapeAll true quotes (char :: text) ++ rest) := by
  rw [escapeAll]
  by_cases quote : char = '"'
  · have notFew : ¬ quotes < 2 := by
      rcases full with many | other
      · omega
      · exact absurd quote other
    rw [if_pos quote, if_neg (by simpa using notFew)]
    exact fun more same => by simp at same
  · rw [if_neg quote, List.append_assoc]
    exact (spelling_escape true quote).startsUnquoted _

/-- After a quote that stands for itself there are two more only at the end of the string. -/
theorem escapeAll_not_closing
    {quotes : Nat}
    (few : quotes < 2)
    (inside : text ≠ [] ∧ ¬ (quotes = 0 ∧ text = ['"']))
    (rest more : Text) :
    escapeAll true (quotes + 1) text ++ rest ≠ '"' :: '"' :: more := by
  obtain ⟨nonempty, notLast⟩ := inside
  obtain ⟨char, after, rfl⟩ := List.exists_cons_of_ne_nil nonempty
  by_cases free : 2 ≤ quotes + 1 ∨ char ≠ '"'
  · exact startsUnquoted_escapeAll free rest _
  · obtain ⟨single, isQuote⟩ := not_or.mp free
    obtain rfl : quotes = 0 := by omega
    obtain rfl : char = '"' := Decidable.not_not.mp isQuote
    obtain ⟨next, others, rfl⟩ := List.exists_cons_of_ne_nil fun empty : after = [] =>
      notLast ⟨rfl, by rw [empty]⟩
    intro same
    exact startsUnquoted_escapeAll (Or.inl (Nat.le_refl 2)) rest _ (List.cons.inj same).2

/-- One quote in front of the closing ones belongs to the string. -/
theorem readMultiBasic_quote
    (unquoted : StartsUnquoted '"' rest) :
    readMultiBasic false ('"' :: '"' :: '"' :: '"' :: rest) = some (['"'], rest) := by
  rw [readMultiBasic]
  exact fun more same => unquoted more same

/-- A string with escapes on several lines is read back. The quotes that stand just before the rest
of the text have been read by themselves. -/
theorem readMultiBasic_escapeAll
    (quotes : Nat)
    (text : Text)
    (unquoted : StartsUnquoted '"' rest) :
    readMultiBasic false (escapeAll true quotes text ++ '"' :: '"' :: '"' :: rest) =
      some (text, rest) := by
  induction text generalizing quotes with
  | nil =>
      rw [escapeAll, List.nil_append, readMultiBasic]
      · rintro more rfl
        exact unquoted _ rfl
      · exact unquoted
  | cons char text inductionHypothesis =>
      rw [escapeAll]
      by_cases quote : char = '"'
      · subst quote
        rw [if_pos rfl]
        by_cases few : quotes < 2
        · rw [if_pos (by simpa using few), List.cons_append]
          by_cases inside : text ≠ [] ∧ ¬ (quotes = 0 ∧ text = ['"'])
          · rw [readMultiBasic_itself rfl (by decide)
              fun _ more => escapeAll_not_closing few inside _ more, inductionHypothesis]
            rfl
          · -- The last one or two quotes of the text are read together with the closing ones.
            obtain rfl | ⟨rfl, rfl⟩ : text = [] ∨ quotes = 0 ∧ text = ['"'] := by
              by_cases empty : text = []
              · exact .inl empty
              · exact .inr (by simpa [empty] using inside)
            · exact readMultiBasic_quote unquoted
            · rfl
        · rw [if_neg (by simpa using few)]
          have read := readMultiBasic_spelling (.letter rfl : Spelling true '"' ['\\', '"'])
            (escapeAll true 0 text ++ '"' :: '"' :: '"' :: rest)
          rw [inductionHypothesis] at read
          exact read
      · rw [if_neg quote, List.append_assoc,
          readMultiBasic_spelling (spelling_escape true quote), inductionHypothesis]
        rfl

/-! ## Strings without escapes -/

/-- A string without escapes on one line is read back. -/
theorem readLiteral_append
    (plain : ∀ char ∈ text, isPlain char = true)
    (unquoted : '\'' ∉ text)
    (rest : Text) :
    readLiteral (text ++ '\'' :: rest) = some (text, rest) := by
  induction text with
  | nil => rfl
  | cons char text inductionHypothesis =>
      obtain ⟨notQuote, others⟩ := not_or.mp (List.mem_cons.not.mp unquoted)
      have read := inductionHypothesis
        (fun other member => plain other (List.mem_cons_of_mem _ member)) others
      rw [List.cons_append, readLiteral, if_pos (plain char (List.mem_cons_self ..)), read]
      · rfl
      · exact fun same => notQuote same.symm

theorem le_longestRun (char : Char) (current : Nat) (text : Text) :
    current ≤ longestRun char current text := by
  induction text generalizing current with
  | nil => exact Nat.le_refl _
  | cons head rest inductionHypothesis =>
      rw [longestRun]
      split
      next => exact Nat.le_trans (Nat.le_succ _) (inductionHypothesis _)
      next => exact Nat.le_max_left ..

theorem longestRun_mono (char : Char) {fewer more : Nat} (text : Text) (order : fewer ≤ more) :
    longestRun char fewer text ≤ longestRun char more text := by
  induction text generalizing fewer more with
  | nil => exact order
  | cons head rest inductionHypothesis =>
      rw [longestRun, longestRun]
      split
      next => exact inductionHypothesis (Nat.succ_le_succ order)
      next => omega

/-- The runs of the rest of a text are no longer than those of the text. -/
theorem longestRun_tail_le (char head : Char) (text : Text) :
    longestRun char 0 text ≤ longestRun char 0 (head :: text) := by
  rw [longestRun]
  split
  next => exact longestRun_mono char text (Nat.zero_le _)
  next => exact Nat.le_max_right ..

/-- A character of a text makes a run. -/
theorem not_mem_of_longestRun_eq_zero
    (noRun : longestRun char 0 text = 0) :
    char ∉ text := by
  induction text with
  | nil => simp
  | cons head rest inductionHypothesis =>
      have tail := inductionHypothesis
        (Nat.le_zero.mp ((longestRun_tail_le char head rest).trans_eq noRun))
      rw [List.mem_cons, not_or]
      refine ⟨?_, tail⟩
      rintro rfl
      have run := le_longestRun char (0 + 1) rest
      rw [longestRun, if_pos rfl] at noRun
      omega

theorem readMultiLiteral_itself
    (allowed : (isPlain char || char == '\n') = true)
    (notClosing : char = '\'' → ∀ more, rest ≠ '\'' :: '\'' :: more) :
    readMultiLiteral (char :: rest) = prepend (some char) (readMultiLiteral rest) := by
  have notReturn : char ≠ '\r' := by
    rintro rfl
    revert allowed
    decide
  rw [readMultiLiteral]
  · exact if_pos allowed
  all_goals simp_all

/-- After an apostrophe of a text without long runs there are two more only at the end. -/
theorem append_not_closing
    (short : longestRun '\'' 0 ('\'' :: text) ≤ 2)
    (inside : text ≠ [] ∧ text ≠ ['\''])
    (rest more : Text) :
    text ++ rest ≠ '\'' :: '\'' :: more := by
  intro same
  match text, inside with
  | [second], ⟨_, notLast⟩ => exact notLast (by rw [(List.cons.inj same).1])
  | second :: third :: after, _ =>
      obtain ⟨rfl, tail⟩ := List.cons.inj same
      obtain ⟨rfl, -⟩ := List.cons.inj tail
      have run := le_longestRun '\'' (0 + 1 + 1 + 1) after
      rw [longestRun, if_pos rfl, longestRun, if_pos rfl, longestRun, if_pos rfl] at short
      omega

/-- A string without escapes on several lines is read back. -/
theorem readMultiLiteral_append
    (plain : ∀ char ∈ text, (isPlain char || char == '\n') = true)
    (short : longestRun '\'' 0 text ≤ 2)
    (unquoted : StartsUnquoted '\'' rest) :
    readMultiLiteral (text ++ '\'' :: '\'' :: '\'' :: rest) = some (text, rest) := by
  induction text with
  | nil =>
      rw [List.nil_append, readMultiLiteral]
      · rintro more rfl
        exact unquoted _ rfl
      · exact unquoted
  | cons char text inductionHypothesis =>
      have read := inductionHypothesis
        (fun other member => plain other (List.mem_cons_of_mem _ member))
        ((longestRun_tail_le _ _ _).trans short)
      by_cases ending : char = '\'' ∧ (text = [] ∨ text = ['\''])
      · -- As for quotes: what is left and the closing apostrophes are read at once.
        obtain ⟨rfl, rfl | rfl⟩ := ending
        · rw [List.cons_append, List.nil_append, readMultiLiteral]
          exact fun more same => unquoted more same
        · rfl
      · rw [List.cons_append, readMultiLiteral_itself (plain char (List.mem_cons_self ..)) ?_, read]
        · rfl
        · rintro rfl more
          exact append_not_closing short (by simpa using ending) _ more

/-! ## Strings in any form -/

/-- A line end at the start of a string on several lines is none of the string. -/
theorem skipLineEnd_lead
    {body : Text}
    (plain : '\n' ∉ text → ∀ char more, body = char :: more → isPlain char = true) :
    skipLineEnd ((if text.contains '\n' then ['\n'] else []) ++ body) = body := by
  split
  next => rfl
  next noLineFeed =>
    have starts := plain (by simpa using noLineFeed)
    rw [List.nil_append]
    unfold skipLineEnd
    split
    next => cases starts _ _ rfl
    next => cases starts _ _ rfl
    next => rfl

theorem isPlain_head_escapeAll
    (noLineFeed : '\n' ∉ text)
    (rest : Text)
    (char : Char)
    (more : Text)
    (same : escapeAll true 0 text ++ '"' :: rest = char :: more) :
    isPlain char = true := by
  cases text with
  | nil =>
      obtain ⟨rfl, -⟩ := List.cons.inj same
      rfl
  | cons first text =>
      rw [escapeAll] at same
      by_cases quote : first = '"'
      · rw [if_pos quote] at same
        obtain ⟨rfl, -⟩ := List.cons.inj same
        rfl
      · rw [if_neg quote, List.append_assoc] at same
        generalize spelled : escape true first = spelling at same
        have spells := spelling_escape true quote
        rw [spelled] at spells
        cases spells with
        | letter =>
            obtain ⟨rfl, -⟩ := List.cons.inj same
            rfl
        | code =>
            obtain ⟨rfl, -⟩ := List.cons.inj same
            rfl
        | itself allowed =>
            obtain ⟨rfl, -⟩ := List.cons.inj same
            rcases allowed with plain | ⟨-, rfl⟩
            · exact plain
            · simp at noLineFeed

/-- An escaped text on one line does not look like the end of its string. -/
theorem escapeAll_not_empty
    (unquoted : StartsUnquoted '"' rest)
    (text more : Text) :
    escapeAll false 0 text ++ '"' :: rest ≠ '"' :: '"' :: more := by
  intro same
  cases text with
  | nil => exact unquoted more (List.cons.inj same).2
  | cons char text =>
      rw [escapeAll] at same
      by_cases quote : char = '"'
      · simp [quote] at same
      · rw [if_neg quote, List.append_assoc] at same
        exact (spelling_escape false quote).startsUnquoted _ _ same

/-- A text that is written between apostrophes on one line can be. -/
theorem of_choose_eq_literal
    (chosen : StringForm.choose text = .literal) :
    (∀ char ∈ text, needsEscape char = false) ∧ '\'' ∉ text ∧ '\n' ∉ text := by
  have conditions : text.any needsEscape = false ∧ longestRun '\'' 0 text = 0 ∧
      text.contains '\n' = false := by
    grind [StringForm.choose]
  obtain ⟨harmless, noRun, noLineFeed⟩ := conditions
  exact ⟨by simpa using harmless, not_mem_of_longestRun_eq_zero noRun, by simpa using noLineFeed⟩

/-- A text that is written between apostrophes on several lines can be. -/
theorem of_choose_eq_multiLiteral
    (chosen : StringForm.choose text = .multiLiteral) :
    (∀ char ∈ text, needsEscape char = false) ∧ longestRun '\'' 0 text ≤ 2 := by
  have conditions : text.any needsEscape = false ∧ longestRun '\'' 0 text ≤ 2 := by
    grind [StringForm.choose]
  exact ⟨by simpa using conditions.1, conditions.2⟩

/-- A written string is read back, whatever its text, unless a quote follows it. -/
theorem readString_written
    (text : Text)
    (unquoted : StartsUnquoted '"' rest)
    (unquotedToo : StartsUnquoted '\'' rest) :
    readString (written text ++ rest) = some (text, rest) := by
  unfold written
  dsimp only
  cases chosen : StringForm.choose text with
  | basic =>
      rw [List.append_assoc, List.append_assoc, List.singleton_append, List.singleton_append,
        readString]
      · exact readBasic_escapeAll 0 text rest
      · exact escapeAll_not_empty unquoted text
  | literal =>
      obtain ⟨harmless, noQuote, noLineFeed⟩ := of_choose_eq_literal chosen
      rw [List.append_assoc, List.append_assoc, List.singleton_append, List.singleton_append,
        readString]
      · apply readLiteral_append _ noQuote
        intro char member
        exact isPlain_of_needsEscape (harmless char member) (ne_of_mem_of_not_mem member noLineFeed)
      · intro more same
        cases text with
        | nil => exact unquotedToo more (List.cons.inj same).2
        | cons char text => exact noQuote (by simp [(List.cons.inj same).1])
  | multiBasic =>
      have spread : "\"\"\"".toList ++ (if text.contains '\n' then ['\n'] else []) ++
          escapeAll true 0 text ++ "\"\"\"".toList ++ rest =
        '"' :: '"' :: '"' :: ((if text.contains '\n' then ['\n'] else []) ++
          (escapeAll true 0 text ++ '"' :: '"' :: '"' :: rest)) := by
        simp
      rw [spread, readString,
        skipLineEnd_lead fun noLineFeed => isPlain_head_escapeAll noLineFeed _]
      exact readMultiBasic_escapeAll 0 text unquoted
  | multiLiteral =>
      obtain ⟨harmless, short⟩ := of_choose_eq_multiLiteral chosen
      have spread : "'''".toList ++ (if text.contains '\n' then ['\n'] else []) ++
          text ++ "'''".toList ++ rest =
        '\'' :: '\'' :: '\'' :: ((if text.contains '\n' then ['\n'] else []) ++
          (text ++ '\'' :: '\'' :: '\'' :: rest)) := by
        simp
      have plain (char : Char) (member : char ∈ text) : (isPlain char || char == '\n') = true := by
        by_cases lineFeed : char = '\n'
        · simp [lineFeed]
        · simp [isPlain_of_needsEscape (harmless char member) lineFeed]
      rw [spread, readString, skipLineEnd_lead ?_]
      · exact readMultiLiteral_append plain short unquotedToo
      · intro noLineFeed char more same
        cases text with
        | nil =>
            obtain ⟨rfl, -⟩ := List.cons.inj same
            rfl
        | cons first text =>
            obtain ⟨rfl, -⟩ := List.cons.inj same
            exact isPlain_of_needsEscape (harmless _ (List.mem_cons_self ..))
              (ne_of_mem_of_not_mem (List.mem_cons_self ..) noLineFeed)

end Toml
end Lockbox
