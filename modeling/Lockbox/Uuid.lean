import Lockbox.Text.Hex

/-!
# Unique identifiers

Sixteen bytes, written as 32 hexadecimal digits in five groups.
-/

namespace Lockbox

/-- A unique identifier. -/
abbrev Uuid := FixedBytes 16

namespace Uuid

/-- The identifier whose bytes are all zero. -/
def nil : Uuid := ⟨List.replicate 16 0, rfl⟩

/-- The written form: groups of 8, 4, 4, 4 and 12 lower-case digits with hyphens between them. -/
def toText (id : Uuid) : Text :=
  let group := fun first count => Hex.ofBytes ((id.val.drop first).take count)
  group 0 4 ++ ['-'] ++ group 4 2 ++ ['-'] ++ group 6 2 ++ ['-'] ++ group 8 2 ++ ['-'] ++ group 10 6

/-- The identifier with the given 32 digits, of either case. -/
def ofDigits? (digits : Text) : Option Uuid :=
  (Hex.toBytes? digits).bind (FixedBytes.ofBytes? 16)

/-- The digits of a text in five groups with hyphens between them. -/
def ungrouped? (text : Text) : Option Text :=
  let hyphens := [8, 13, 18, 23]
  if text.length = 36 ∧ hyphens.all (fun place => text[place]? == some '-') then
    some (text.take 8 ++ (text.drop 9).take 4 ++ (text.drop 14).take 4 ++ (text.drop 19).take 4 ++
      text.drop 24)
  else none

/-- The identifier of its written form in either case, plain or in braces or as a resource name, or
of its 32 digits alone. -/
def parse? (text : Text) : Option Uuid :=
  if text.length = 32 then ofDigits? text
  else if text.length = 36 then (ungrouped? text).bind ofDigits?
  else if text.length = 38 ∧ text.head? = some '{' ∧ text.getLast? = some '}' then
    (ungrouped? ((text.drop 1).take 36)).bind ofDigits?
  else if text.length = 45 ∧ text.take 9 = "urn:uuid:".toList then
    (ungrouped? (text.drop 9)).bind ofDigits?
  else none

end Uuid
end Lockbox
