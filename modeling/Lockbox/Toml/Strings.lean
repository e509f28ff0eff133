import Lockbox.Text.Hex

/-!
# TOML strings

The four written forms of a string: on one line or on several, with escapes or without.
-/

namespace Lockbox
namespace Toml

/-- A character that may stand in a comment or a string: no control character but the tab. -/
def isPlain (char : Char) : Bool :=
  char == '\t' || (0x20 ≤ char.toNat && char.toNat != 0x7F)

/-- A blank or a tab. -/
def isBlank (char : Char) : Bool :=
  char == ' ' || char == '\t'

/-- The character with a code that is a Unicode scalar value. -/
def scalar? (code : Nat) : Option Char :=
  if code < 0xD800 ∨ (0xE000 ≤ code ∧ code < 0x110000) then some (Char.ofNat code) else none

/-- The character that a letter after a backslash stands for. -/
def escaped? : Char → Option Char
  | 'b' => some '\x08'
  | 'e' => some '\x1b'
  | 't' => some '\t'
  | 'n' => some '\n'
  | 'f' => some '\x0c'
  | 'r' => some '\r'
  | '"' => some '"'
  | '\\' => some '\\'
  | _ => none

/-- A character in front of what has been read of a string. -/
def prepend (char : Option Char) (read : Option (Text × Text)) : Option (Text × Text) :=
  match char, read with
  | some char, some (content, rest) => some (char :: content, rest)
  | _, _ => none

/-- The rest of a one-line string with escapes, and what follows its closing quote. -/
def readBasic : Text → Option (Text × Text)
  | [] => none
  | '"' :: rest => some ([], rest)
  | '\\' :: 'x' :: a :: b :: rest => prepend ((Hex.toNat? [a, b]).bind scalar?) (readBasic rest)
  | '\\' :: 'u' :: a :: b :: c :: d :: rest =>
    prepend ((Hex.toNat? [a, b, c, d]).bind scalar?) (readBasic rest)
  | '\\' :: 'U' :: a :: b :: c :: d :: e :: f :: g :: h :: rest =>
    prepend ((Hex.toNat? [a, b, c, d, e, f, g, h]).bind scalar?) (readBasic rest)
  | '\\' :: letter :: rest => prepend (escaped? letter) (readBasic rest)
  | char :: rest => if isPlain char && char != '\\' then prepend char (readBasic rest) else none

/-- The rest of a one-line string without escapes, and what follows its closing quote. -/
def readLiteral : Text → Option (Text × Text)
  | [] => none
  | '\'' :: rest => some ([], rest)
  | char :: rest => if isPlain char then prepend char (readLiteral rest) else none

/-- Whether a text goes on with nothing but blanks up to the end of the line. -/
def endsLine (text : Text) : Bool :=
  match text.dropWhile isBlank with
  | '\n' :: _ => true
  | '\r' :: '\n' :: _ => true
  | _ => false

/-- The rest of a string with escapes on several lines, and what follows its closing quotes. Up to
two quotes may stand in front of the closing ones. A line end of two characters keeps both, and a
carriage return stands nowhere else. A backslash at the end of a line drops all white
space up to the next other character; `dropping` says that this is going on. -/
def readMultiBasic (dropping : Bool) : Text → Option (Text × Text)
  | [] => none
  | '"' :: '"' :: '"' :: '"' :: '"' :: rest => some (['"', '"'], rest)
  | '"' :: '"' :: '"' :: '"' :: rest => some (['"'], rest)
  | '"' :: '"' :: '"' :: rest => some ([], rest)
  | '\r' :: '\n' :: rest =>
    if dropping then readMultiBasic true rest
    else prepend '\r' (prepend '\n' (readMultiBasic false rest))
  | '\\' :: 'x' :: a :: b :: rest =>
    prepend ((Hex.toNat? [a, b]).bind scalar?) (readMultiBasic false rest)
  | '\\' :: 'u' :: a :: b :: c :: d :: rest =>
    prepend ((Hex.toNat? [a, b, c, d]).bind scalar?) (readMultiBasic false rest)
  | '\\' :: 'U' :: a :: b :: c :: d :: e :: f :: g :: h :: rest =>
    prepend ((Hex.toNat? [a, b, c, d, e, f, g, h]).bind scalar?) (readMultiBasic false rest)
  | '\\' :: letter :: rest =>
    if endsLine (letter :: rest) then readMultiBasic true (letter :: rest)
    else prepend (escaped? letter) (readMultiBasic false rest)
  | char :: rest =>
    if dropping && (isBlank char || char == '\n') then readMultiBasic true rest
    else if (isPlain char || char == '\n') && char != '\\' then
      prepend char (readMultiBasic false rest)
    else none

/-- The rest of a string without escapes on several lines, and what follows its closing quotes. Up
to two quotes may stand in front of the closing ones. -/
def readMultiLiteral : Text → Option (Text × Text)
  | [] => none
  | '\'' :: '\'' :: '\'' :: '\'' :: '\'' :: rest => some (['\'', '\''], rest)
  | '\'' :: '\'' :: '\'' :: '\'' :: rest => some (['\''], rest)
  | '\'' :: '\'' :: '\'' :: rest => some ([], rest)
  | '\r' :: '\n' :: rest => prepend '\r' (prepend '\n' (readMultiLiteral rest))
  | char :: rest =>
    if isPlain char || char == '\n' then prepend char (readMultiLiteral rest) else none

/-- A text without the line end it may start with. -/
def skipLineEnd : Text → Text
  | '\n' :: rest => rest
  | '\r' :: '\n' :: rest => rest
  | rest => rest

/-- A string in any of the four forms, and what follows it. -/
def readString : Text → Option (Text × Text)
  | '"' :: '"' :: '"' :: rest => readMultiBasic false (skipLineEnd rest)
  | '\'' :: '\'' :: '\'' :: rest => readMultiLiteral (skipLineEnd rest)
  | '"' :: rest => readBasic rest
  | '\'' :: rest => readLiteral rest
  | _ => none

end Toml
end Lockbox
