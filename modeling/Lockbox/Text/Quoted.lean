import Lockbox.Text.Hex
import Lockbox.Text.Printable

/-!
# Quoted texts

A text in quotes on one line, in which every character can be told: what is not printable is named
by its code.
-/

namespace Lockbox
namespace Text

/-- The hexadecimal digits of a number without leading zeros. -/
def hexDigits (value : Nat) : Text :=
  Nat.toDigits 16 value

/-- A character between quotes. -/
def escape (char : Char) : Text :=
  match char with
  | '\x00' => ['\\', '0']
  | '\t' => ['\\', 't']
  | '\n' => ['\\', 'n']
  | '\r' => ['\\', 'r']
  | '"' => ['\\', '"']
  | '\\' => ['\\', '\\']
  | _ =>
    if isPrintable char then [char]
    else ['\\', 'u', '{'] ++ hexDigits char.toNat ++ ['}']

/-- A text between quotes. -/
def quoted (text : Text) : Text :=
  ['"'] ++ text.flatMap escape ++ ['"']

end Text
end Lockbox
