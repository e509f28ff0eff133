import Lockbox.Json.Token

/-!
# Reading JSON

Values are put together from tokens, one at a time. The containers still open are kept on a stack,
so that the depth of a value is bounded by nothing but its length.
-/

namespace Lockbox
namespace Json

/-- A container that is still open. Items and members are kept last one first. -/
inductive Frame
  | array (items : List Value)
  | object (members : List (Option Text × Value)) (name : Option Text)

/-- What may come next. -/
inductive Expected
  /-- A value. -/
  | value
  /-- The first item of an array, or its end. -/
  | itemOrEnd
  /-- The first name of an object, or its end. -/
  | nameOrEnd
  /-- A name of an object with the given members. -/
  | name (members : List (Option Text × Value))
  /-- A colon after a name of an object with the given members. -/
  | colon (members : List (Option Text × Value)) (name : Option Text)
  /-- What follows a finished value. -/
  | done (value : Value)

/-- The state of a reader between two tokens. -/
structure Progress where
  expected : Expected
  frames : List Frame

namespace Progress

/-- A reader before the first token. -/
def start : Progress := ⟨.value, []⟩

/-- A reader where a value begins. -/
def beginValue (frames : List Frame) : Token → Option Progress
  | .openBrace => some ⟨.nameOrEnd, frames⟩
  | .openBracket => some ⟨.itemOrEnd, frames⟩
  | .null => some ⟨.done .null, frames⟩
  | .bool value => some ⟨.done (.bool value), frames⟩
  | .number literal => some ⟨.done (.number literal), frames⟩
  | .string content => some ⟨.done (.string content), frames⟩
  | _ => none

/-- A reader behind a finished value. -/
def endValue (value : Value) : List Frame → Token → Option Progress
  | .array items :: frames, .comma => some ⟨.value, .array (value :: items) :: frames⟩
  | .array items :: frames, .closeBracket =>
    some ⟨.done (.array (value :: items).reverse), frames⟩
  | .object members name :: frames, .comma => some ⟨.name ((name, value) :: members), frames⟩
  | .object members name :: frames, .closeBrace =>
    some ⟨.done (.object ((name, value) :: members).reverse), frames⟩
  | _, _ => none

/-- A reader after one more token. -/
def step (progress : Progress) (token : Token) : Option Progress :=
  match progress.expected, token with
  | .value, _ => beginValue progress.frames token
  | .itemOrEnd, .closeBracket => some ⟨.done (.array []), progress.frames⟩
  | .itemOrEnd, _ => beginValue (.array [] :: progress.frames) token
  | .nameOrEnd, .closeBrace => some ⟨.done (.object []), progress.frames⟩
  | .nameOrEnd, .string name => some ⟨.colon [] name, progress.frames⟩
  | .name members, .string name => some ⟨.colon members name, progress.frames⟩
  | .colon members name, .colon => some ⟨.value, .object members name :: progress.frames⟩
  | .done value, _ => endValue value progress.frames token
  | _, _ => none

/-- A reader after some more tokens. -/
def run : Progress → List Token → Option Progress
  | progress, [] => some progress
  | progress, token :: rest =>
    match progress.step token with
    | none => none
    | some next => run next rest

end Progress

/-- The value that tokens spell. -/
def Value.ofTokens? (tokens : List Token) : Option Value :=
  match Progress.start.run tokens with
  | some ⟨.done value, []⟩ => some value
  | _ => none

/-- The value that a text spells. -/
def Value.parse? (text : Text) : Option Value :=
  (tokens? text).bind Value.ofTokens?

end Json
end Lockbox
