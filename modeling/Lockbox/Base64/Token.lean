import Lockbox.Text.Trim
import Lockbox.Base64.Decode

/-!
# Base64 tokens

A buffer that consists of one Base64 text, white space around it aside, is a token. Tokens decide
whether a buffer is decoded before use or encoded before it is shown. They say nothing about
whether its contents can be trusted.
-/

namespace Lockbox
namespace Base64
namespace Token

/-- The shortest run of symbols that counts as a token. -/
def minimumLength : Nat := 16

/-- A byte that may stand in a token: a symbol of either alphabet or a mark. -/
def isTokenByte (byte : UInt8) : Bool :=
  byte = padMark || Alphabet.urlSafe.contains byte || Alphabet.standard.contains byte

/-- The bytes that a token spells. A buffer is a token when, trimmed of ASCII white space, it is
long enough, ends in at most two marks, has none elsewhere, and spells something. -/
def decode? (data : Bytes) : Option Bytes :=
  let token := Bytes.trim data
  let body := trimEndWhile (· == padMark) token
  if minimumLength ≤ token.length && token.all isTokenByte &&
      token.length ≤ body.length + 2 && !body.contains padMark then
    match decodeEither body with
    | .ok [] => none
    | .ok bytes => some bytes
    | .error _ => none
  else none

/-- The bytes that a token spells, and any other buffer as it is. -/
def unwrap (data : Bytes) : Bytes :=
  (decode? data).getD data

/-- A token, trimmed but otherwise as it is, and any other buffer as URL-safe Base64. -/
def wrap (data : Bytes) : Bytes :=
  if (decode? data).isSome then Bytes.trim data else encode .urlSafe data

end Token
end Base64
end Lockbox
