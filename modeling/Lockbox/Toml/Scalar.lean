import Lockbox.Toml.Strings
import Lockbox.Toml.Value

/-!
# TOML words

Truth values, numbers and dates: values that are written without quotes.
-/

namespace Lockbox
namespace Toml

/-- Digits that pass the test, at least one, with single underscores between them allowed. The
underscores are left out of the result. -/
def digits? (isDigit : Char → Bool) : Text → Option Text
  | [] => none
  | [digit] => if isDigit digit then some [digit] else none
  | digit :: '_' :: rest =>
    if isDigit digit then (digits? isDigit rest).map (digit :: ·) else none
  | digit :: rest => if isDigit digit then (digits? isDigit rest).map (digit :: ·) else none

/-- The number that digits spell in a base. -/
def number (base : Nat) (digits : Text) : Nat :=
  digits.foldl (fun value digit => value * base + (Hex.value? digit).getD 0) 0

/-- A sign at the start of a word, as whether it is a minus, and the rest. -/
def signed (word : Text) : Bool × Text :=
  match word with
  | '-' :: rest => (true, rest)
  | '+' :: rest => (false, rest)
  | rest => (false, rest)

/-- A decimal number without sign: digits of which the first is no zero unless it is the only
one. -/
def whole? (word : Text) : Option Nat :=
  match digits? Char.isDigit word with
  | none => none
  | some ['0'] => some 0
  | some ('0' :: _) => none
  | some digits => some (number 10 digits)

/-- An integer in one of four bases. Only a decimal one may have a sign. -/
def integer? (word : Text) : Option Int :=
  let based := fun (base : Nat) (isDigit : Char → Bool) (rest : Text) =>
    (digits? isDigit rest).map fun digits => (number base digits : Int)
  match word with
  | '0' :: 'x' :: rest => based 16 (fun char => (Hex.value? char).isSome) rest
  | '0' :: 'o' :: rest => based 8 (fun char => '0' ≤ char && char ≤ '7') rest
  | '0' :: 'b' :: rest => based 2 (fun char => char == '0' || char == '1') rest
  | _ =>
    let (negative, unsigned) := signed word
    (whole? unsigned).map fun value => if negative then -(value : Int) else value

/-- Whether a word is an integer, of which there may be nothing but the mark of its base. -/
def isInteger (word : Text) : Bool :=
  (integer? word).isSome || word == "0x".toList || word == "0o".toList || word == "0b".toList

/-- Whether a text is an exponent without its letter. -/
def isExponent (text : Text) : Bool :=
  (digits? Char.isDigit (signed text).2).isSome

/-- Whether a letter begins an exponent. -/
def isExponentMark (char : Char) : Bool :=
  char == 'e' || char == 'E'

/-- Whether a word is a number with a fraction or an exponent, or one of the special numbers. -/
def isFloat (word : Text) : Bool :=
  let unsigned := (signed word).2
  let mantissa := unsigned.takeWhile fun char => !isExponentMark char
  let hasExponent := unsigned.any isExponentMark
  let exponent := (unsigned.dropWhile fun char => !isExponentMark char).drop 1
  let leading := mantissa.takeWhile (· != '.')
  let hasFraction := mantissa.any (· == '.')
  let fraction := (mantissa.dropWhile (· != '.')).drop 1
  unsigned == "inf".toList || unsigned == "nan".toList ||
    ((whole? leading).isSome && (hasFraction || hasExponent) &&
      (!hasFraction || (digits? Char.isDigit fraction).isSome) &&
      (!hasExponent || isExponent exponent))

/-- The number that a text of the given number of digits spells. -/
def fixedDigits? (count : Nat) (text : Text) : Option Nat :=
  if text.length = count ∧ text.all Char.isDigit then some (number 10 text) else none

/-- The number of days of a month. -/
def daysInMonth (year month : Nat) : Nat :=
  if month = 2 then
    if year % 4 = 0 ∧ (year % 100 ≠ 0 ∨ year % 400 = 0) then 29 else 28
  else if month = 4 ∨ month = 6 ∨ month = 9 ∨ month = 11 then 30
  else 31

/-- Whether a text is a date: year, month and day. -/
def isDate (text : Text) : Bool :=
  match fixedDigits? 4 (text.take 4), fixedDigits? 2 ((text.drop 5).take 2),
      fixedDigits? 2 (text.drop 8) with
  | some year, some month, some day =>
    text[4]? == some '-' && text[7]? == some '-' && 1 ≤ month && month ≤ 12 && 1 ≤ day &&
      day ≤ daysInMonth year month
  | _, _, _ => false

/-- Whether a text is an hour and a minute. -/
def isHourMinute (text : Text) : Bool :=
  match fixedDigits? 2 (text.take 2), fixedDigits? 2 (text.drop 3) with
  | some hour, some minute => text[2]? == some ':' && hour ≤ 23 && minute ≤ 59
  | _, _ => false

/-- Whether a text is a second, perhaps with parts of it. -/
def isSecond (text : Text) : Bool :=
  match fixedDigits? 2 (text.take 2), text.drop 2 with
  | some second, [] => second ≤ 60
  | some second, '.' :: parts => second ≤ 60 && !parts.isEmpty && parts.all Char.isDigit
  | _, _ => false

/-- Whether a text is a time of day: hour and minute, and perhaps a second. -/
def isTime (text : Text) : Bool :=
  isHourMinute (text.take 5) &&
    match text.drop 5 with
    | [] => true
    | ':' :: rest => isSecond rest
    | _ => false

/-- Whether a text is a time of day with or without a distance from universal time. -/
def isOffsetTime (text : Text) : Bool :=
  let time := text.takeWhile fun char => char.isDigit || char == ':' || char == '.'
  match text.dropWhile fun char => char.isDigit || char == ':' || char == '.' with
  | [] => isTime time
  | ['Z'] => isTime time
  | ['z'] => isTime time
  | '+' :: offset => isTime time && isHourMinute offset
  | '-' :: offset => isTime time && isHourMinute offset
  | _ => false

/-- Whether a word is a date, a time of day, or a date with a time of day. -/
def isDateTime (word : Text) : Bool :=
  isDate word || isTime word ||
    (isDate (word.take 10) &&
      match word.drop 10 with
      | 'T' :: time => isOffsetTime time
      | 't' :: time => isOffsetTime time
      | ' ' :: time => isOffsetTime time
      | _ => false)

/-- The value of a word. -/
def Value.ofWord? (word : Text) : Option Value :=
  if word = "true".toList then some (.bool true)
  else if word = "false".toList then some (.bool false)
  else if isInteger word then some (.integer word)
  else if isFloat word then some (.float word)
  else if isDateTime word then some (.dateTime word)
  else none

/-- A character that may stand in a word. -/
def isWordChar (char : Char) : Bool :=
  char.isAlphanum || char == '+' || char == '-' || char == '_' || char == '.' || char == ':'

/-- The word at the start of a text, and what follows it. A date and a time of day with one blank
between them are one word. -/
def spanWord (text : Text) : Text × Text :=
  let first := text.takeWhile isWordChar
  match text.dropWhile isWordChar with
  | ' ' :: digit :: rest =>
    if isDate first && digit.isDigit then
      (first ++ ' ' :: (digit :: rest).takeWhile isWordChar, (digit :: rest).dropWhile isWordChar)
    else (first, ' ' :: digit :: rest)
  | rest => (first, rest)

end Toml
end Lockbox
