import Lockbox.Uuid

/-!
# Identities

A secret belongs to a service and a name. Each is a tag: a label for people and an identifier. The
file of a secret is named after the labels alone.
-/

namespace Lockbox

/-- An identifier with a label. -/
structure OwnerTag where
  id : Uuid
  label : Text
  deriving DecidableEq, Repr

namespace OwnerTag

/-- The label that stands in for a blank one. -/
def unlabelled : Text := "<caller>".toList

/-- A tag made from a label; a blank label is replaced. -/
def ofLabel (label : Text) (id : Uuid := Uuid.nil) : OwnerTag where
  id := id
  label := if label.all Text.isBlank then unlabelled else label

/-- The label and the identifier. -/
def display (tag : OwnerTag) : Text :=
  tag.label ++ " (".toList ++ tag.id.toText ++ [')']

end OwnerTag

/-- The service and the name that a secret belongs to. -/
structure Identity where
  service : OwnerTag
  name : OwnerTag
  deriving DecidableEq, Repr

namespace Identity

/-- The identity of two labels. -/
def ofLabels (service name : Text) : Identity where
  service := OwnerTag.ofLabel service
  name := OwnerTag.ofLabel name

/-- The two labels. -/
def display (identity : Identity) : Text :=
  identity.service.label ++ ['/'] ++ identity.name.label

/-- A character of a label as it stands in a file name: path separators and control characters are
replaced. -/
def sanitizeChar (char : Char) : Char :=
  if char == '/' || char == '\\' || char == ':' || Text.isControl char then '_' else char

/-- A label as it stands in a file name. -/
def sanitize (label : Text) : Text :=
  label.map sanitizeChar

/-- The name of the file of the secret. -/
def fileName (identity : Identity) : Text :=
  sanitize identity.service.label ++ ['_'] ++ sanitize identity.name.label ++ ".secret".toList

end Identity
end Lockbox
