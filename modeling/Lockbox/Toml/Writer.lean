import Lockbox.Toml.Strings

/-!
# Writing TOML strings

A string is written in the plainest of its forms that needs no escapes: quotes, then apostrophes,
then three of the one, then three of the other. Only a text that none of these can hold is
escaped. A text with a line feed stands on lines of its own.
-/

namespace Lockbox
namespace Toml

/-- A control character that only an escape can stand for. -/
def needsEscape (char : Char) : Bool :=
  char.toNat == 0x7F || (char.toNat < 0x20 && char != '\t' && char != '\n')

/-- The length of the longest run of a character, of which `current` more stand just before the
text. -/
def longestRun (char : Char) : (current : Nat) → Text → Nat
  | current, [] => current
  | current, head :: rest =>
    if head = char then longestRun char (current + 1) rest
    else max current (longestRun char 0 rest)

/-- A written form of a string. -/
inductive StringForm
  | basic
  | literal
  | multiBasic
  | multiLiteral
  deriving DecidableEq, Repr

/-- The form in which a text is written. -/
def StringForm.choose (text : Text) : StringForm :=
  let controlled := text.any needsEscape
  let quotes := longestRun '"' 0 text
  let apostrophes := longestRun '\'' 0 text
  let lineFeed := text.contains '\n'
  let backslash := text.contains '\\'
  if !controlled && !backslash && quotes == 0 && !lineFeed then .basic
  else if !controlled && apostrophes == 0 && !lineFeed then .literal
  else if !controlled && !backslash && quotes ≤ 2 then .multiBasic
  else if !controlled && apostrophes ≤ 2 then .multiLiteral
  else if lineFeed then .multiBasic
  else .basic

/-- A character in a string with escapes. Quotes are not dealt with here, and line feeds only in a
string on one line. -/
def escape (multiline : Bool) (char : Char) : Text :=
  match char with
  | '\x08' => ['\\', 'b']
  | '\t' => ['\\', 't']
  | '\n' => if multiline then ['\n'] else ['\\', 'n']
  | '\x0c' => ['\\', 'f']
  | '\r' => ['\\', 'r']
  | '\\' => ['\\', '\\']
  | _ =>
    if needsEscape char then
      ['\\', 'u', '0', '0'] ++ (Hex.ofByte (UInt8.ofNat char.toNat)).map Char.toUpper
    else [char]

/-- A text in a string with escapes. A quote is escaped unless the string has several lines and
fewer than two quotes stand just before it. -/
def escapeAll (multiline : Bool) : (quotes : Nat) → Text → Text
  | _, [] => []
  | quotes, char :: rest =>
    if char = '"' then
      if multiline && quotes < 2 then '"' :: escapeAll multiline (quotes + 1) rest
      else '\\' :: '"' :: escapeAll multiline 0 rest
    else escape multiline char ++ escapeAll multiline 0 rest

/-- A string as it is written. -/
def written (text : Text) : Text :=
  let lead := if text.contains '\n' then ['\n'] else []
  match StringForm.choose text with
  | .basic => ['"'] ++ escapeAll false 0 text ++ ['"']
  | .literal => ['\''] ++ text ++ ['\'']
  | .multiBasic => "\"\"\"".toList ++ lead ++ escapeAll true 0 text ++ "\"\"\"".toList
  | .multiLiteral => "'''".toList ++ lead ++ text ++ "'''".toList

end Toml
end Lockbox
