import Lockbox.Text.Trim

/-!
# JSON values

A string holds a text unless it was written with half of a surrogate pair; such strings are allowed
where nobody looks at them. A number is kept as it was written, since only its form matters.
-/

namespace Lockbox
namespace Json

/-- A JSON value. Members of an object keep their order, and a name may occur more than once. -/
inductive Value
  | null
  | bool (value : Bool)
  | number (literal : Text)
  | string (content : Option Text)
  | array (items : List Value)
  | object (members : List (Option Text × Value))

namespace Value

/-- The text of a string. -/
def text? : Value → Option Text
  | string content => content
  | _ => none

end Value

/-- The part of JSON that one reader's step takes. -/
inductive Token
  | openBrace
  | closeBrace
  | openBracket
  | closeBracket
  | colon
  | comma
  | null
  | bool (value : Bool)
  | number (literal : Text)
  | string (content : Option Text)
  deriving DecidableEq, Repr

end Json
end Lockbox
