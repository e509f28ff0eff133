import Lockbox.Identity
import Lockbox.Json.Reader
import Lockbox.Json.Writer

/-!
# Identities in JSON

A record is an object with its two fields in any order and any other members besides, or an array
of exactly its two fields. Every name of such an object has to be a text, even where it is of no
interest.
-/

namespace Lockbox
namespace Identity

/-- The value of a field that occurs exactly once. -/
def field? (name : Text) (members : List (Option Text × Json.Value)) : Option Json.Value :=
  match members.filter fun member => member.1 == some name with
  | [member] => some member.2
  | _ => none

/-- The values of the two fields of a record. -/
def fields? (first second : Text) : Json.Value → Option (Json.Value × Json.Value)
  | .array [one, two] => some (one, two)
  | .object members =>
    if members.all fun member => member.1.isSome then
      match field? first members, field? second members with
      | some one, some two => some (one, two)
      | _, _ => none
    else none
  | _ => none

/-- The tag that a value spells. -/
def tagOfJson? (value : Json.Value) : Option OwnerTag := do
  let (id, label) ← fields? "id".toList "label".toList value
  let id ← id.text?.bind Uuid.parse?
  let label ← label.text?
  return { id := id, label := label }

/-- The identity that a value spells. -/
def ofJson? (value : Json.Value) : Option Identity := do
  let (service, name) ← fields? "service".toList "name".toList value
  let service ← tagOfJson? service
  let name ← tagOfJson? name
  return { service := service, name := name }

/-- The identity that a JSON text spells. -/
def parse? (text : Text) : Option Identity :=
  (Json.Value.parse? text).bind ofJson?

/-- A tag in JSON. -/
def tagToJson (tag : OwnerTag) : Text :=
  Json.writtenObject [("id".toList, Json.quoted tag.id.toText),
    ("label".toList, Json.quoted tag.label)]

/-- An identity in JSON. -/
def toJson (identity : Identity) : Text :=
  Json.writtenObject [("service".toList, tagToJson identity.service),
    ("name".toList, tagToJson identity.name)]

end Identity
end Lockbox
