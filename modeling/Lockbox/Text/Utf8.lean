import Lockbox.Text.Trim

/-!
# UTF-8

Texts as bytes and back. Reading refuses everything that is not the shortest form of a Unicode
scalar value, and says where the first fault lies and how many bytes it spans.
-/

namespace Lockbox
namespace Utf8

/-- The one to four bytes of a character. -/
def encodeChar (char : Char) : Bytes :=
  let code := char.toNat
  if code < 0x80 then [UInt8.ofNat code]
  else if code < 0x800 then
    [UInt8.ofNat (0xC0 + code / 64), UInt8.ofNat (0x80 + code % 64)]
  else if code < 0x10000 then
    [UInt8.ofNat (0xE0 + code / 4096), UInt8.ofNat (0x80 + code / 64 % 64),
      UInt8.ofNat (0x80 + code % 64)]
  else
    [UInt8.ofNat (0xF0 + code / 262144), UInt8.ofNat (0x80 + code / 4096 % 64),
      UInt8.ofNat (0x80 + code / 64 % 64), UInt8.ofNat (0x80 + code % 64)]

/-- The bytes of a text. -/
def encode (text : Text) : Bytes :=
  text.flatMap encodeChar

/-- The first fault of a buffer that is not UTF-8. -/
inductive Fault
  /-- `length` bytes from `index` on start no character; `length` is the longest part of them
  that could start one, and at least one. -/
  | invalid (index length : Nat)
  /-- The buffer ends inside the character that starts at `index`. -/
  | incomplete (index : Nat)
  deriving DecidableEq, Repr

/-- The wording of a fault. -/
def Fault.message : Fault → String
  | .invalid index length => s!"invalid utf-8 sequence of {length} bytes from index {index}"
  | .incomplete index => s!"incomplete utf-8 byte sequence from index {index}"

/-- A byte that goes on with a character begun before it. -/
def isContinuation (byte : UInt8) : Bool :=
  0x80 ≤ byte && byte < 0xC0

/-- Whether a second byte may follow a lead byte: overlong forms, surrogates and codes above the
last plane are excluded here. -/
def isSecond (lead second : UInt8) : Bool :=
  if lead = 0xE0 then 0xA0 ≤ second && second < 0xC0
  else if lead = 0xED then 0x80 ≤ second && second < 0xA0
  else if lead = 0xF0 then 0x90 ≤ second && second < 0xC0
  else if lead = 0xF4 then 0x80 ≤ second && second < 0x90
  else isContinuation second

/-- The text of a buffer whose first byte stands at `index` of the whole. -/
def decodeFrom (index : Nat) : Bytes → Except Fault Text
  | [] => .ok []
  | lead :: afterLead =>
    if lead < 0x80 then
      (decodeFrom (index + 1) afterLead).map (Char.ofNat lead.toNat :: ·)
    else if lead < 0xC2 || 0xF4 < lead then .error (.invalid index 1)
    else
      match afterLead with
      | [] => .error (.incomplete index)
      | second :: afterSecond =>
        if !isSecond lead second then .error (.invalid index 1)
        else if lead < 0xE0 then
          (decodeFrom (index + 2) afterSecond).map
            (Char.ofNat ((lead.toNat - 0xC0) * 64 + (second.toNat - 0x80)) :: ·)
        else
          match afterSecond with
          | [] => .error (.incomplete index)
          | third :: afterThird =>
            if !isContinuation third then .error (.invalid index 2)
            else if lead < 0xF0 then
              (decodeFrom (index + 3) afterThird).map
                (Char.ofNat ((lead.toNat - 0xE0) * 4096 + (second.toNat - 0x80) * 64 +
                  (third.toNat - 0x80)) :: ·)
            else
              match afterThird with
              | [] => .error (.incomplete index)
              | fourth :: afterFourth =>
                if !isContinuation fourth then .error (.invalid index 3)
                else
                  (decodeFrom (index + 4) afterFourth).map
                    (Char.ofNat ((lead.toNat - 0xF0) * 262144 + (second.toNat - 0x80) * 4096 +
                      (third.toNat - 0x80) * 64 + (fourth.toNat - 0x80)) :: ·)

/-- The text of a buffer. -/
def decode (bytes : Bytes) : Except Fault Text :=
  decodeFrom 0 bytes

end Utf8

namespace Text

/-- The length of a text in UTF-8 bytes. -/
def byteLength (text : Text) : Nat :=
  (Utf8.encode text).length

end Text
end Lockbox
