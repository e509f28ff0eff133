import Lockbox.Json.Value
import Lockbox.Text.Hex

/-!
# JSON tokens

A text cut into marks, words, numbers and strings. White space between them is dropped, anything
else is refused.
-/

namespace Lockbox
namespace Json

/-- White space between tokens. -/
def isSpace (char : Char) : Bool :=
  char == ' ' || char == '\t' || char == '\n' || char == '\r'

/-- A part of a string: a character, or the code of one half of a surrogate pair. -/
inductive StringUnit
  | char (char : Char)
  | half (code : Nat)
  deriving DecidableEq, Repr

namespace StringUnit

/-- The unit that four hexadecimal digits stand for. -/
def ofCode (code : Nat) : StringUnit :=
  if 0xD800 ≤ code ∧ code < 0xE000 then half code else char (Char.ofNat code)

/-- The text of units, unless a half stands without its other half. -/
def join : List StringUnit → Option Text
  | [] => some []
  | .char single :: rest => (join rest).map (single :: ·)
  | .half high :: .half low :: rest =>
    if high < 0xDC00 ∧ 0xDC00 ≤ low then
      (join rest).map (Char.ofNat (0x10000 + (high - 0xD800) * 0x400 + (low - 0xDC00)) :: ·)
    else none
  | .half _ :: _ => none

end StringUnit

/-- The character that a letter after a backslash stands for. -/
def escaped? : Char → Option Char
  | '"' => some '"'
  | '\\' => some '\\'
  | '/' => some '/'
  | 'b' => some '\x08'
  | 'f' => some '\x0c'
  | 'n' => some '\n'
  | 'r' => some '\r'
  | 't' => some '\t'
  | _ => none

/-- The units of a string whose opening quote has been read, and what follows its closing
quote. -/
def readString : Text → Option (List StringUnit × Text)
  | [] => none
  | '"' :: rest => some ([], rest)
  | '\\' :: 'u' :: a :: b :: c :: d :: rest =>
    match Hex.toNat? [a, b, c, d], readString rest with
    | some code, some (units, after) => some (.ofCode code :: units, after)
    | _, _ => none
  | '\\' :: letter :: rest =>
    match escaped? letter, readString rest with
    | some char, some (units, after) => some (.char char :: units, after)
    | _, _ => none
  | char :: rest =>
    if char == '\\' || char.toNat < 0x20 then none
    else
      match readString rest with
      | some (units, after) => some (.char char :: units, after)
      | none => none

theorem length_of_readString {text after : Text} {units : List StringUnit}
    (read : readString text = some (units, after)) : after.length < text.length := by
  fun_induction readString text generalizing units after <;> simp_all <;> omega

/-- The longest run of digits at the start of a text, and the rest. -/
def spanDigits (text : Text) : Text × Text :=
  (text.takeWhile Char.isDigit, text.dropWhile Char.isDigit)

/-- A point and the digits after it, if the text starts with a point. -/
def readFraction : Text → Option (Text × Text)
  | '.' :: rest =>
    match spanDigits rest with
    | ([], _) => none
    | (digits, after) => some ('.' :: digits, after)
  | rest => some ([], rest)

/-- The sign of an exponent, if there is one, and the rest. -/
def exponentSign : Text → Text × Text
  | '+' :: rest => (['+'], rest)
  | '-' :: rest => (['-'], rest)
  | rest => ([], rest)

/-- The letter, sign and digits of an exponent, if the text starts with the letter. -/
def readExponent : Text → Option (Text × Text)
  | [] => some ([], [])
  | letter :: rest =>
    if letter == 'e' || letter == 'E' then
      let (sign, unsigned) := exponentSign rest
      match spanDigits unsigned with
      | ([], _) => none
      | (digits, after) => some (letter :: sign ++ digits, after)
    else some ([], letter :: rest)

/-- A number without its sign. -/
def readUnsigned (text : Text) : Option (Text × Text) :=
  match spanDigits text with
  | ([], _) => none
  | ('0' :: _ :: _, _) => none
  | (whole, afterWhole) =>
    match readFraction afterWhole with
    | none => none
    | some (fraction, afterFraction) =>
      match readExponent afterFraction with
      | none => none
      | some (exponent, after) => some (whole ++ fraction ++ exponent, after)

/-- A number and what follows it. -/
def readNumber : Text → Option (Text × Text)
  | '-' :: rest => (readUnsigned rest).map fun (literal, after) => ('-' :: literal, after)
  | text => readUnsigned text

/-- The token at the start of a text that does not start with white space, and what follows it. -/
def readToken : Text → Option (Token × Text)
  | '{' :: rest => some (.openBrace, rest)
  | '}' :: rest => some (.closeBrace, rest)
  | '[' :: rest => some (.openBracket, rest)
  | ']' :: rest => some (.closeBracket, rest)
  | ':' :: rest => some (.colon, rest)
  | ',' :: rest => some (.comma, rest)
  | 'n' :: 'u' :: 'l' :: 'l' :: rest => some (.null, rest)
  | 't' :: 'r' :: 'u' :: 'e' :: rest => some (.bool true, rest)
  | 'f' :: 'a' :: 'l' :: 's' :: 'e' :: rest => some (.bool false, rest)
  | '"' :: rest =>
    (readString rest).map fun (units, after) => (.string (StringUnit.join units), after)
  | text => (readNumber text).map fun (literal, after) => (.number literal, after)

theorem length_spanDigits (text : Text) :
    (spanDigits text).1.length + (spanDigits text).2.length = text.length := by
  rw [← List.length_append]
  exact congrArg List.length List.takeWhile_append_dropWhile

theorem length_of_readFraction {text digits after : Text}
    (read : readFraction text = some (digits, after)) : after.length ≤ text.length := by
  unfold readFraction at read
  split at read
  next rest =>
    have lengths := length_spanDigits rest
    split at read
    · cases read
    · simp_all
      omega
  next => simp_all

theorem length_of_readExponent {text digits after : Text}
    (read : readExponent text = some (digits, after)) : after.length ≤ text.length := by
  unfold readExponent at read
  split at read
  next => simp_all
  next letter rest =>
    split at read
    next =>
      have signed : (exponentSign rest).2.length ≤ rest.length := by
        unfold exponentSign
        split <;> simp
      have lengths := length_spanDigits (exponentSign rest).2
      simp only at read
      split at read
      · cases read
      · simp_all
        omega
    next => simp_all

theorem length_of_readUnsigned {text literal after : Text}
    (read : readUnsigned text = some (literal, after)) : after.length < text.length := by
  have lengths := length_spanDigits text
  unfold readUnsigned at read
  split at read
  next => cases read
  next => cases read
  next whole afterWhole empty _ spanned =>
    split at read
    next => cases read
    next fraction afterFraction readFirst =>
      split at read
      next => cases read
      next exponent final readSecond =>
        obtain ⟨-, rfl⟩ := Prod.mk.inj (Option.some.inj read)
        have first := length_of_readFraction readFirst
        have second := length_of_readExponent readSecond
        rw [spanned] at lengths
        have := List.length_pos_iff.mpr empty
        simp only at lengths
        omega

theorem length_of_readNumber {text literal after : Text}
    (read : readNumber text = some (literal, after)) : after.length < text.length := by
  unfold readNumber at read
  split at read
  next rest =>
    obtain ⟨⟨digits, final⟩, found, equality⟩ := Option.map_eq_some_iff.mp read
    obtain ⟨-, rfl⟩ := Prod.mk.inj equality
    have := length_of_readUnsigned found
    simp only [List.length_cons]
    omega
  next => exact length_of_readUnsigned read

/-- A token takes at least one character. -/
theorem length_of_readToken {text after : Text} {token : Token}
    (read : readToken text = some (token, after)) : after.length < text.length := by
  unfold readToken at read
  split at read
  case h_10 rest =>
    obtain ⟨⟨units, final⟩, found, equality⟩ := Option.map_eq_some_iff.mp read
    obtain ⟨-, rfl⟩ := Prod.mk.inj equality
    have := length_of_readString found
    simp only [List.length_cons]
    omega
  case h_11 =>
    obtain ⟨⟨literal, final⟩, found, equality⟩ := Option.map_eq_some_iff.mp read
    obtain ⟨-, rfl⟩ := Prod.mk.inj equality
    exact length_of_readNumber found
  all_goals
    obtain ⟨-, rfl⟩ := Prod.mk.inj (Option.some.inj read)
    simp only [List.length_cons]
    omega

/-- The tokens of a text. -/
def tokens? (text : Text) : Option (List Token) :=
  match text with
  | [] => some []
  | char :: rest =>
    if isSpace char then tokens? rest
    else
      match read : readToken (char :: rest) with
      | none => none
      | some (token, after) =>
        have := length_of_readToken read
        (tokens? after).map (token :: ·)
termination_by text.length
decreasing_by
  · simp
  · exact this

end Json
end Lockbox
