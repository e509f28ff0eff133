import Lockbox.Proofs.Toml.Strings
import Lockbox.Toml.Statement

/-!
# Written lines

A line that gives a plain name a value and the header of a plain name are read back as what they
say, and the lines behind them are read as if they stood alone (`readStatements_assignment`,
`readStatements_header`).
-/

namespace Lockbox
namespace Toml

variable {name spelled rest : Text} {value : Value} {statements : List Statement} {fuel : Nat}

/-! ## Space -/

/-- Nothing is skipped in front of a statement. -/
theorem skipSpace_cons
    {char : Char}
    (starts : char ∉ [' ', '\t', '\n', '\r', '#'])
    (rest : Text) :
    skipSpace (char :: rest) = some (char :: rest) := by
  have notBlank : isBlank char = false := by simp_all [isBlank]
  have notSkipped : skipBlanks (char :: rest) = char :: rest :=
    List.dropWhile_cons_of_neg (by simp [notBlank])
  rw [skipSpace, skipSpaceWithin, notSkipped]
  split
  all_goals simp_all

/-- An empty line is skipped. -/
theorem skipSpace_lineFeed (rest : Text) :
    skipSpace ('\n' :: rest) = skipSpace rest := rfl

/-! ## Names -/

/-- A name that can be written without quotes. -/
structure IsName (name : Text) : Prop where
  nonempty : name ≠ []
  allowed : name.all isKeyChar = true

instance (name : Text) : Decidable (IsName name) :=
  decidable_of_iff (name ≠ [] ∧ name.all isKeyChar = true)
    ⟨fun ⟨nonempty, allowed⟩ => ⟨nonempty, allowed⟩,
      fun isName => ⟨isName.nonempty, isName.allowed⟩⟩

/-- A character of a name means nothing else at the start of a line. -/
theorem not_mem_of_isKeyChar
    {char : Char}
    (allowed : isKeyChar char = true) :
    char ∉ [' ', '\t', '\n', '\r', '#', '"', '\'', '[', '\uFEFF'] := by
  have others : [' ', '\t', '\n', '\r', '#', '"', '\'', '[', '\uFEFF'].all
      (fun other => !isKeyChar other) = true := by
    decide
  intro member
  simpa [allowed] using List.all_eq_true.mp others char member

theorem IsName.exists_cons
    (isName : IsName name) :
    ∃ char after, name = char :: after ∧
      char ∉ [' ', '\t', '\n', '\r', '#', '"', '\'', '[', '\uFEFF'] := by
  obtain ⟨char, after, rfl⟩ := List.exists_cons_of_ne_nil isName.nonempty
  have allowed := List.all_eq_true.mp isName.allowed char (List.mem_cons_self ..)
  exact ⟨char, after, rfl, not_mem_of_isKeyChar allowed⟩

/-- A name is read up to its end. -/
theorem readKeyPart_name
    (isName : IsName name)
    (ended : ∀ char more, rest = char :: more → isKeyChar char = false) :
    readKeyPart (name ++ rest) = some (name, rest) := by
  obtain ⟨char, after, split, notSpecial⟩ := isName.exists_cons
  have nothing : rest.takeWhile isKeyChar = [] ∧ rest.dropWhile isKeyChar = rest := by
    cases rest with
    | nil => exact ⟨rfl, rfl⟩
    | cons next more => simp [ended next more rfl]
  have allowed := List.all_eq_true.mp isName.allowed
  have taken : (name ++ rest).takeWhile isKeyChar = name := by
    rw [List.takeWhile_append_of_pos allowed, nothing.1, List.append_nil]
  have dropped : (name ++ rest).dropWhile isKeyChar = rest := by
    rw [List.dropWhile_append_of_pos allowed, nothing.2]
  unfold readKeyPart
  split
  next quoted => simp_all
  next quoted => simp_all
  next =>
    rw [taken, dropped]
    cases name with
    | nil => exact absurd rfl isName.nonempty
    | cons => rfl

/-- A name is a key of one part. -/
theorem readKey_name
    (isName : IsName name)
    (ended : ∀ char more, rest = char :: more → isKeyChar char = false)
    (single : ∀ more, skipBlanks rest ≠ '.' :: more) :
    readKey (name ++ rest) = some ([name], skipBlanks rest) := by
  obtain ⟨char, after, rfl, notSpecial⟩ := isName.exists_cons
  have notSkipped : skipBlanks (char :: after ++ rest) = char :: after ++ rest :=
    List.dropWhile_cons_of_neg (by simp_all [isBlank])
  rw [readKey, maximumDepth, readParts, notSkipped, readKeyPart_name isName ended]
  dsimp only
  split
  next more dotted => exact absurd dotted (single more)
  next => rfl

/-! ## Values -/

/-- A text in which a value is written at the end of a line. -/
structure Spells (spelled : Text) (value : Value) : Prop where
  starts : ∀ rest, skipBlanks (spelled ++ '\n' :: rest) = spelled ++ '\n' :: rest
  reads : ∀ fuel depth rest,
    readValue (fuel + 1) depth (spelled ++ '\n' :: rest) = some (value, '\n' :: rest)

theorem exists_cons_of_written (text : Text) :
    ∃ after, written text = '"' :: after ∨ written text = '\'' :: after := by
  unfold written
  dsimp only
  cases StringForm.choose text with
  | basic => exact ⟨_, .inl rfl⟩
  | literal => exact ⟨_, .inr rfl⟩
  | multiBasic => exact ⟨_, .inl rfl⟩
  | multiLiteral => exact ⟨_, .inr rfl⟩

theorem spells_written (text : Text) : Spells (written text) (.string text) := by
  have read (rest : Text) : readString (written text ++ '\n' :: rest) = some (text, '\n' :: rest) :=
    readString_written text (by simp [StartsUnquoted]) (by simp [StartsUnquoted])
  obtain ⟨after, same | same⟩ := exists_cons_of_written text
  · rw [same] at read ⊢
    refine ⟨fun rest => rfl, fun fuel depth rest => ?_⟩
    rw [List.cons_append, readValue, ← List.cons_append, read]
    rfl
  · rw [same] at read ⊢
    refine ⟨fun rest => rfl, fun fuel depth rest => ?_⟩
    rw [List.cons_append, readValue, ← List.cons_append, read]
    rfl

/-- A word ends with its line. -/
theorem spanWord_append
    {word : Text}
    (allowed : word.all isWordChar = true)
    (rest : Text) :
    spanWord (word ++ '\n' :: rest) = (word, '\n' :: rest) := by
  have taken : (word ++ '\n' :: rest).takeWhile isWordChar = word := by
    rw [List.takeWhile_append_of_pos (List.all_eq_true.mp allowed)]
    simp [show isWordChar '\n' = false by decide]
  have dropped : (word ++ '\n' :: rest).dropWhile isWordChar = '\n' :: rest := by
    rw [List.dropWhile_append_of_pos (List.all_eq_true.mp allowed)]
    simp [show isWordChar '\n' = false by decide]
  rw [spanWord, taken, dropped]
  rfl

/-- A word that is a value is read as the value. -/
theorem spells_word
    {word : Text}
    (allowed : word.all isWordChar = true)
    (isValue : Value.ofWord? word = some value) :
    Spells word value := by
  have others : [' ', '\t', '[', '{', '"', '\''].all (fun other => !isWordChar other) = true := by
    decide
  cases word with
  | nil => cases isValue
  | cons char after =>
      have notSpecial : char ∉ [' ', '\t', '[', '{', '"', '\''] := by
        intro member
        have charAllowed := List.all_eq_true.mp allowed char (List.mem_cons_self ..)
        simpa [charAllowed] using List.all_eq_true.mp others char member
      refine ⟨fun rest => List.dropWhile_cons_of_neg (by simp_all [isBlank]),
        fun fuel depth rest => ?_⟩
      have span := spanWord_append allowed rest
      rw [List.cons_append] at span ⊢
      rw [readValue]
      · rw [span]
        dsimp only
        rw [isValue]
        rfl
      all_goals simp_all

/-! ## Lines -/

/-- A line that gives a name a value. -/
theorem readStatement_assignment
    (isName : IsName name)
    (spells : Spells spelled value)
    (rest : Text) :
    readStatement (name ++ (" = ".toList ++ (spelled ++ '\n' :: rest))) =
      some (.assignment [name] value, rest) := by
  have key : readKey (name ++ (" = ".toList ++ (spelled ++ '\n' :: rest))) =
      some ([name], '=' :: ' ' :: (spelled ++ '\n' :: rest)) := by
    refine readKey_name isName ?_ ?_
    · intro char more same
      obtain ⟨rfl, -⟩ := List.cons.inj same
      rfl
    · intro more same
      cases (List.cons.inj same).1
  obtain ⟨char, after, rfl, notSpecial⟩ := isName.exists_cons
  unfold readStatement
  split
  next same => simp_all
  next same => simp_all
  next =>
    have skipped : skipBlanks (' ' :: (spelled ++ '\n' :: rest)) = spelled ++ '\n' :: rest :=
      spells.starts rest
    simp only [key, skipped, spells.reads]
    rfl

/-- The header of a plain name. -/
theorem readStatement_header
    (isName : IsName name)
    (rest : Text) :
    readStatement ('[' :: (name ++ (']' :: '\n' :: rest))) = some (.table [name], rest) := by
  have key : readKey (name ++ (']' :: '\n' :: rest)) = some ([name], ']' :: '\n' :: rest) := by
    refine readKey_name isName ?_ ?_
    · intro char more same
      obtain ⟨rfl, -⟩ := List.cons.inj same
      rfl
    · intro more same
      cases (List.cons.inj same).1
  obtain ⟨char, after, rfl, notSpecial⟩ := isName.exists_cons
  unfold readStatement
  split
  next same => simp_all
  next same =>
    obtain ⟨-, rfl⟩ := List.cons.inj same
    rw [key]
    rfl
  next => simp_all

/-- A statement and those behind it. -/
theorem readStatements_cons
    {char : Char}
    {line : Text}
    {statement : Statement}
    (starts : char ∉ [' ', '\t', '\n', '\r', '#'])
    (read : readStatement (char :: line) = some (statement, rest))
    (others : readStatements fuel rest = some statements) :
    readStatements (fuel + 1) (char :: line) = some (statement :: statements) := by
  rw [readStatements, skipSpace_cons starts]
  dsimp only
  rw [read]
  dsimp only
  rw [others]

theorem readStatements_assignment
    (isName : IsName name)
    (spells : Spells spelled value)
    (others : readStatements fuel rest = some statements) :
    readStatements (fuel + 1) (name ++ (" = ".toList ++ (spelled ++ '\n' :: rest))) =
      some (.assignment [name] value :: statements) := by
  have read := readStatement_assignment isName spells rest
  obtain ⟨char, after, rfl, notSpecial⟩ := isName.exists_cons
  exact readStatements_cons (by simp_all) read others

theorem readStatements_header
    (isName : IsName name)
    (others : readStatements fuel rest = some statements) :
    readStatements (fuel + 1) ('[' :: (name ++ (']' :: '\n' :: rest))) =
      some (.table [name] :: statements) :=
  readStatements_cons (by decide) (readStatement_header isName rest) others

/-- An empty line says nothing. -/
theorem readStatements_lineFeed (fuel : Nat) (rest : Text) :
    readStatements fuel ('\n' :: rest) = readStatements fuel rest := by
  cases fuel with
  | zero => rfl
  | succ fuel => rw [readStatements, readStatements, skipSpace_lineFeed]

theorem readStatements_nil (fuel : Nat) :
    readStatements (fuel + 1) [] = some [] := rfl

/-- The statements of a text without a byte order mark. There is fuel for as many of them as the
text has characters. -/
theorem statements?_eq
    {text : Text}
    (unmarked : ∀ more, text ≠ '\uFEFF' :: more)
    (fuel : Nat)
    (long : fuel ≤ text.length) :
    ∃ spare, statements? text = readStatements (spare + fuel + 1) text := by
  refine ⟨text.length - fuel, ?_⟩
  rw [Nat.sub_add_cancel long, statements?]
  exact unmarked

end Toml
end Lockbox
