import Lockbox.Json.Token
import Mathlib.Data.List.Chain

/-!
# The spellings of JSON tokens

Each token has its spellings: a string any mixture of characters, letters after a backslash and
codes, a number its own literal. A text laid out from spelled tokens, with white space anywhere
between them, is cut into these tokens again (`tokens?_of_layout`). Nothing has to stand between two
tokens unless both are numbers.
-/

namespace Lockbox
namespace Json

variable {char : Char} {text rest : Text}

/-! ## Strings -/

/-- How a unit can be spelled in a string. -/
inductive StringUnit.Spells : StringUnit → Text → Prop
  /-- A letter stands for it. -/
  | letter {letter char : Char}
      (stands : escaped? letter = some char) :
      StringUnit.Spells (.char char) ['\\', letter]
  /-- Four digits give its code. -/
  | code {a b c d : Char} {code : Nat}
      (spelled : Hex.toNat? [a, b, c, d] = some code) :
      StringUnit.Spells (.ofCode code) ['\\', 'u', a, b, c, d]
  /-- It stands for itself. -/
  | itself {char : Char}
      (printable : 0x20 ≤ char.toNat)
      (notQuote : char ≠ '"')
      (notBackslash : char ≠ '\\') :
      StringUnit.Spells (.char char) [char]

/-- The spellings of the units of a string, one after another. -/
inductive SpellsUnits : List StringUnit → Text → Prop
  | nil : SpellsUnits [] []
  | cons {unit : StringUnit} {units : List StringUnit} {piece text : Text}
      (first : unit.Spells piece)
      (others : SpellsUnits units text) :
      SpellsUnits (unit :: units) (piece ++ text)

theorem readString_spells
    {unit : StringUnit}
    {piece : Text}
    (spelled : unit.Spells piece)
    (rest : Text) :
    readString (piece ++ rest) =
      (readString rest).map fun (units, after) => (unit :: units, after) := by
  cases spelled with
  | @letter letter _ stands =>
      have notCode : letter ≠ 'u' := by
        rintro rfl
        cases stands
      cases tail : readString rest <;> simp [readString, notCode, stands, tail]
  | code spelled =>
      cases tail : readString rest <;> simp [readString, spelled, tail]
  | itself printable notQuote notBackslash =>
      cases tail : readString rest <;>
        simp [readString, notBackslash, tail, Nat.not_lt.mpr printable]

theorem readString_spellsUnits
    {units : List StringUnit}
    (spelled : SpellsUnits units text)
    (rest : Text) :
    readString (text ++ '"' :: rest) = some (units, rest) := by
  induction spelled with
  | nil => rfl
  | cons first others inductionHypothesis =>
      rw [List.append_assoc, readString_spells first, inductionHypothesis]
      rfl

/-! ## Numbers -/

/-- A run of digits that is not empty. -/
def IsDigits (text : Text) : Prop :=
  text ≠ [] ∧ ∀ char ∈ text, char.isDigit = true

theorem IsDigits.eq_cons
    (areDigits : IsDigits text) :
    ∃ digit others, text = digit :: others ∧ digit.isDigit = true := by
  obtain ⟨digit, others, rfl⟩ := List.exists_cons_of_ne_nil areDigits.1
  exact ⟨digit, others, rfl, areDigits.2 digit List.mem_cons_self⟩

/-- The part of a number before the point: no other digit follows a leading zero. -/
def IsWhole (text : Text) : Prop :=
  IsDigits text ∧ ∀ next rest, text ≠ '0' :: next :: rest

/-- The part of a number from the point on, which may be missing. -/
inductive IsFraction : Text → Prop
  | none : IsFraction []
  | digits {digits : Text}
      (areDigits : IsDigits digits) :
      IsFraction ('.' :: digits)

/-- The part of a number from its letter on, which may be missing. -/
inductive IsExponent : Text → Prop
  | none : IsExponent []
  | digits {letter : Char} {sign digits : Text}
      (isLetter : letter = 'e' ∨ letter = 'E')
      (isSign : sign ∈ [[], ['+'], ['-']])
      (areDigits : IsDigits digits) :
      IsExponent (letter :: sign ++ digits)

/-- The literals of numbers. -/
inductive IsNumber : Text → Prop
  | unsigned {whole fraction exponent : Text}
      (isWhole : IsWhole whole)
      (isFraction : IsFraction fraction)
      (isExponent : IsExponent exponent) :
      IsNumber (whole ++ fraction ++ exponent)
  | negative {whole fraction exponent : Text}
      (isWhole : IsWhole whole)
      (isFraction : IsFraction fraction)
      (isExponent : IsExponent exponent) :
      IsNumber ('-' :: (whole ++ fraction ++ exponent))

/-- A text does not carry on a number that ends before it. -/
def EndsNumber (text : Text) : Prop :=
  ∀ char ∈ text.head?, char.isDigit = false ∧ char ≠ '.' ∧ char ≠ 'e' ∧ char ≠ 'E'

/-- Digits end where no other digit follows. -/
theorem spanDigits_append
    {digits : Text}
    (areDigits : ∀ char ∈ digits, char.isDigit = true)
    (ends : ∀ char ∈ rest.head?, char.isDigit = false) :
    spanDigits (digits ++ rest) = (digits, rest) := by
  unfold spanDigits
  rw [List.takeWhile_append_of_pos areDigits, List.dropWhile_append_of_pos areDigits]
  cases rest with
  | nil => simp
  | cons char rest =>
      have notDigit := ends char rfl
      simp [notDigit]

theorem readFraction_append
    {fraction : Text}
    (isFraction : IsFraction fraction)
    (ends : ∀ char ∈ rest.head?, char.isDigit = false ∧ char ≠ '.') :
    readFraction (fraction ++ rest) = some (fraction, rest) := by
  cases isFraction with
  | none =>
      rw [List.nil_append]
      unfold readFraction
      split
      next => exact absurd rfl (ends '.' rfl).2
      next => rfl
  | digits areDigits =>
      have spanned := spanDigits_append areDigits.2 fun char first => (ends char first).1
      rw [List.cons_append, readFraction, spanned]
      simp [areDigits.1]

theorem exponentSign_append
    {sign digits : Text}
    (isSign : sign ∈ [[], ['+'], ['-']])
    (areDigits : IsDigits digits) :
    exponentSign (sign ++ digits ++ rest) = (sign, digits ++ rest) := by
  obtain ⟨digit, others, rfl, isDigit⟩ := areDigits.eq_cons
  have notPlus : digit ≠ '+' := by
    rintro rfl
    exact absurd isDigit (by decide)
  have notMinus : digit ≠ '-' := by
    rintro rfl
    exact absurd isDigit (by decide)
  simp only [List.mem_cons, List.not_mem_nil, or_false] at isSign
  rcases isSign with rfl | rfl | rfl
  · simp [exponentSign, notPlus, notMinus]
  · rfl
  · rfl

theorem readExponent_append
    {exponent : Text}
    (isExponent : IsExponent exponent)
    (ends : EndsNumber rest) :
    readExponent (exponent ++ rest) = some (exponent, rest) := by
  cases isExponent with
  | none =>
      cases rest with
      | nil => rfl
      | cons char rest =>
          obtain ⟨-, -, notSmall, notCapital⟩ := ends char rfl
          simp [readExponent, notSmall, notCapital]
  | @digits letter sign digits isLetter isSign areDigits =>
      have spanned := spanDigits_append areDigits.2 fun char first => (ends char first).1
      have marked : (letter == 'e' || letter == 'E') = true := by
        rcases isLetter with rfl | rfl <;> rfl
      simp only [List.cons_append, readExponent, marked, if_true,
        exponentSign_append isSign areDigits, spanned]
      simp [areDigits.1]

/-- An exponent does not carry on the digits before it. -/
theorem IsExponent.ends
    {exponent : Text}
    (isExponent : IsExponent exponent)
    (ends : EndsNumber rest) :
    ∀ char ∈ (exponent ++ rest).head?, char.isDigit = false ∧ char ≠ '.' := by
  intro char first
  cases isExponent with
  | none => exact ⟨(ends char first).1, (ends char first).2.1⟩
  | digits isLetter isSign areDigits =>
      obtain rfl := Option.some.inj first
      rcases isLetter with rfl | rfl <;> decide

/-- A fraction does not carry on the digits before it. -/
theorem IsFraction.ends
    {fraction : Text}
    (isFraction : IsFraction fraction)
    (ends : ∀ char ∈ rest.head?, char.isDigit = false ∧ char ≠ '.') :
    ∀ char ∈ (fraction ++ rest).head?, char.isDigit = false := by
  intro char first
  cases isFraction with
  | none => exact (ends char first).1
  | digits areDigits =>
      obtain rfl := Option.some.inj first
      decide

theorem readUnsigned_append
    {whole fraction exponent : Text}
    (isWhole : IsWhole whole)
    (isFraction : IsFraction fraction)
    (isExponent : IsExponent exponent)
    (ends : EndsNumber rest) :
    readUnsigned (whole ++ fraction ++ exponent ++ rest) =
      some (whole ++ fraction ++ exponent, rest) := by
  have afterFraction := isExponent.ends ends
  have spanned := spanDigits_append isWhole.1.2 (isFraction.ends afterFraction)
  have readFirst := readFraction_append isFraction afterFraction
  have readSecond := readExponent_append isExponent ends
  rw [readUnsigned, List.append_assoc, List.append_assoc, spanned]
  split
  next same => exact absurd (Prod.mk.inj same).1 isWhole.1.1
  next same => exact absurd (Prod.mk.inj same).1 (isWhole.2 _ _)
  next same =>
    obtain ⟨rfl, rfl⟩ := Prod.mk.inj same
    rw [readFirst]
    simp only
    rw [readSecond]

/-- A number starts with its sign or a digit. -/
theorem IsNumber.eq_cons
    {literal : Text}
    (isNumber : IsNumber literal) :
    ∃ char others, literal = char :: others ∧ (char = '-' ∨ char.isDigit = true) := by
  cases isNumber with
  | unsigned isWhole _ _ =>
      obtain ⟨digit, others, rfl, isDigit⟩ := isWhole.1.eq_cons
      exact ⟨digit, _, rfl, Or.inr isDigit⟩
  | negative _ _ _ => exact ⟨'-', _, rfl, Or.inl rfl⟩

theorem readNumber_append
    {literal : Text}
    (isNumber : IsNumber literal)
    (ends : EndsNumber rest) :
    readNumber (literal ++ rest) = some (literal, rest) := by
  cases isNumber with
  | unsigned isWhole isFraction isExponent =>
      have read := readUnsigned_append isWhole isFraction isExponent ends
      obtain ⟨digit, others, rfl, isDigit⟩ := isWhole.1.eq_cons
      unfold readNumber
      split
      next same =>
        obtain rfl := (List.cons.inj same).1
        exact absurd isDigit (by decide)
      next => exact read
  | negative isWhole isFraction isExponent =>
      rw [List.cons_append, readNumber, readUnsigned_append isWhole isFraction isExponent ends]
      rfl

/-! ## Tokens -/

/-- The spellings of a token. -/
inductive Token.Spells : Token → Text → Prop
  | openBrace : Token.Spells .openBrace ['{']
  | closeBrace : Token.Spells .closeBrace ['}']
  | openBracket : Token.Spells .openBracket ['[']
  | closeBracket : Token.Spells .closeBracket [']']
  | colon : Token.Spells .colon [':']
  | comma : Token.Spells .comma [',']
  | null : Token.Spells .null "null".toList
  | true : Token.Spells (.bool true) "true".toList
  | false : Token.Spells (.bool false) "false".toList
  | number {literal : Text}
      (isNumber : IsNumber literal) :
      Token.Spells (.number literal) literal
  | string {units : List StringUnit} {text : Text}
      (spelled : SpellsUnits units text) :
      Token.Spells (.string (StringUnit.join units)) ('"' :: text ++ ['"'])

/-- A text made of spelled tokens with white space between them. -/
inductive Layout : List Token → Text → Prop
  | nil {spaces : Text}
      (blank : ∀ char ∈ spaces, isSpace char = true) :
      Layout [] spaces
  | cons {token : Token} {tokens : List Token} {spaces piece text : Text}
      (blank : ∀ char ∈ spaces, isSpace char = true)
      (spelled : token.Spells piece)
      (others : Layout tokens text) :
      Layout (token :: tokens) (spaces ++ piece ++ text)

/-- A token is a number. -/
def Token.isNumber : Token → Bool
  | .number _ => true
  | _ => false

/-- Two tokens of which at most one is a number. -/
def Token.Apart (first second : Token) : Prop :=
  first.isNumber = false ∨ second.isNumber = false

theorem readToken_append
    {token : Token}
    {piece : Text}
    (spelled : token.Spells piece)
    (ends : token.isNumber = true → EndsNumber rest) :
    readToken (piece ++ rest) = some (token, rest) := by
  cases spelled with
  | number isNumber =>
    have read := readNumber_append isNumber (ends rfl)
    obtain ⟨char, others, rfl, numeric⟩ := isNumber.eq_cons
    rw [List.cons_append] at read ⊢
    rw [readToken]
    · simp [read]
    all_goals
      intro _ same
      obtain rfl := (List.cons.inj same).1
      revert numeric
      decide
  | string spelled => 
    have read := readString_spellsUnits spelled rest
    simp [readToken, read]
  | _ => rfl

/-- No token starts with white space. -/
theorem readToken_eq_none_of_space
    (blank : isSpace char = true)
    (text : Text) :
    readToken (char :: text) = none := by
  simp only [isSpace, Bool.or_eq_true, beq_iff_eq] at blank
  rcases blank with ((rfl | rfl) | rfl) | rfl <;> rfl

theorem tokens?_of_readToken
    {token : Token}
    (read : readToken text = some (token, rest)) :
    tokens? text = (tokens? rest).map (token :: ·) := by
  cases text with
  | nil => cases read
  | cons char text =>
      have notBlank : ¬ isSpace char = true := by
        intro blank
        rw [readToken_eq_none_of_space blank] at read
        cases read
      rw [tokens?, if_neg notBlank]
      split
      next none => rw [read] at none; cases none
      next found => 
        rw [read] at found
        obtain ⟨rfl, rfl⟩ := Prod.mk.inj (Option.some.inj found)
        rfl

theorem tokens?_of_spaces
    {spaces : Text}
    (blank : ∀ char ∈ spaces, isSpace char = true)
    (text : Text) :
    tokens? (spaces ++ text) = tokens? text := by
  induction spaces with
  | nil => rfl
  | cons char spaces inductionHypothesis =>
      obtain ⟨first, others⟩ := List.forall_mem_cons.mp blank
      rw [List.cons_append, tokens?, if_pos first, inductionHypothesis others]

theorem endsNumber_append
    {spaces : Text}
    (blank : ∀ char ∈ spaces, isSpace char = true)
    (ends : EndsNumber text) :
    EndsNumber (spaces ++ text) := by
  cases spaces with
  | nil => exact ends
  | cons char spaces =>
      intro first isFirst
      obtain rfl := Option.some.inj isFirst
      have isBlank := blank char List.mem_cons_self
      simp only [isSpace, Bool.or_eq_true, beq_iff_eq] at isBlank
      rcases isBlank with ((rfl | rfl) | rfl) | rfl <;> decide

/-- What is laid out behind a number does not carry it on. -/
theorem endsNumber_of_layout
    {tokens : List Token}
    (layout : Layout tokens text)
    (notNumber : ∀ token ∈ tokens.head?, token.isNumber = false) :
    EndsNumber text := by
  cases layout with
  | nil blank =>
      rw [← List.append_nil text]
      exact endsNumber_append blank (fun _ first => by cases first)
  | @cons token _ _ piece text blank spelled others =>
      rw [List.append_assoc]
      apply endsNumber_append blank
      intro char first
      cases spelled with
      | number => cases notNumber _ rfl
      | _ =>
          obtain rfl := Option.some.inj first
          decide

/-- A text laid out from spelled tokens is cut into these tokens. -/
theorem tokens?_of_layout
    {tokens : List Token}
    (layout : Layout tokens text)
    (apart : tokens.IsChain Token.Apart) :
    tokens? text = some tokens := by
  induction layout with
  | nil blank =>
      have read := tokens?_of_spaces blank []
      rwa [List.append_nil, tokens?] at read
  | @cons token tokens spaces piece text blank spelled others inductionHypothesis =>
      obtain ⟨next, chain⟩ := List.isChain_cons.mp apart
      have read : readToken (piece ++ text) = some (token, text) := by
        apply readToken_append spelled
        intro number
        apply endsNumber_of_layout others
        intro token first
        exact (next token first).resolve_left (ne_true_of_eq_false · number)
      rw [List.append_assoc, tokens?_of_spaces blank, tokens?_of_readToken read,
        inductionHypothesis chain]
      rfl

end Json
end Lockbox
