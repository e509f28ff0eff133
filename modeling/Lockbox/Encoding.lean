import Lockbox.Base64.Token
import Lockbox.CodecError

/-!
# Reading and showing buffers as Base64

The forgiving forms of Base64 that callers use, with the errors that callers see.
-/

namespace Lockbox
namespace Encoding

/-- The bytes that a Base64 text in either alphabet spells, with any padding and with white space
around it. A text that spells nothing is an error. -/
def ofBase64 (text : Text) : Except CodecError Bytes :=
  let body := trimEndWhile (· == Base64.padMark) (Utf8.encode (Text.trim text))
  match Base64.decodeEither body with
  | .error fault => .error (.undecodable (.notBase64 fault))
  | .ok [] => .error (.undecodable .nothingDecoded)
  | .ok bytes => .ok bytes

/-- A buffer in URL-safe Base64 without padding. -/
def toBase64 (data : Bytes) : Bytes :=
  Base64.encode .urlSafe data

/-- A buffer as Base64: a token as it is, anything else encoded. -/
def present (data : Bytes) : Except CodecError Bytes :=
  if data.isEmpty then .error .nothingToEncode else .ok (Base64.Token.wrap data)

/-- Every buffer that is not empty can be shown. -/
theorem present_of_ne_nil
    {data : Bytes}
    (nonempty : data ≠ []) :
    present data = .ok (Base64.Token.wrap data) := by
  rw [present, if_neg (by simpa using nonempty)]

end Encoding
end Lockbox
