import Lockbox.Json.Value
import Lockbox.Text.Hex

/-!
# Writing JSON

The written form has no white space between tokens. In a string, quotes, backslashes and control
characters are escaped and all else stands for itself.
-/

namespace Lockbox
namespace Json

/-- A character as it is written in a string. -/
def escape (char : Char) : Text :=
  match char with
  | '"' => ['\\', '"']
  | '\\' => ['\\', '\\']
  | '\x08' => ['\\', 'b']
  | '\x0c' => ['\\', 'f']
  | '\n' => ['\\', 'n']
  | '\r' => ['\\', 'r']
  | '\t' => ['\\', 't']
  | _ =>
    if char.toNat < 0x20 then
      ['\\', 'u', '0', '0', Hex.digit (char.toNat / 16), Hex.digit (char.toNat % 16)]
    else [char]

/-- A text in quotes. -/
def quoted (text : Text) : Text :=
  ['"'] ++ text.flatMap escape ++ ['"']

/-- Written members in the order given. -/
def writtenObject (members : List (Text × Text)) : Text :=
  let parts := members.map fun (name, written) => quoted name ++ [':'] ++ written
  ['{'] ++ List.intercalate [','] parts ++ ['}']

end Json
end Lockbox
