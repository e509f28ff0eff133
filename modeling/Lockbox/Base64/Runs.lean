import Lockbox.Text.Utf8
import Lockbox.Base64.Token

/-!
# Base64 in free text

A run is a longest stretch of characters of one alphabet. Every run that is long enough is a
candidate, alone and with the padding marks behind it. A candidate is mended (surplus marks are
dropped, a last stretch of low lines or minus signs becomes one solidus or plus sign, and marks
are added up to a multiple of four) and is kept when it then decodes to something that is not
blank.
-/

namespace Lockbox
namespace Base64

/-- The character of a symbol or mark. -/
def padChar : Char := '='

namespace Alphabet

/-- Whether a character is a symbol of the alphabet. -/
def containsChar (alphabet : Alphabet) (char : Char) : Bool :=
  char.isAlphanum ||
    match alphabet with
    | urlSafe => char == '-' || char == '_'
    | standard => char == '+' || char == '/'

end Alphabet

/-- A longest stretch of symbols and the number of padding marks that follow it. -/
structure Run where
  symbols : Text
  marks : Nat
  deriving DecidableEq, Repr

/-- The runs of a text, in order. A run without symbols stands between two others wherever the
text has a character that belongs to no run. -/
def runs (alphabet : Alphabet) : Text → List Run
  | [] => [⟨[], 0⟩]
  | char :: rest =>
    match runs alphabet rest with
    | [] => [⟨[], 0⟩]
    | next :: later =>
      if alphabet.containsChar char then ⟨char :: next.symbols, next.marks⟩ :: later
      else if char = padChar then
        if next.symbols.isEmpty then ⟨[], next.marks + 1⟩ :: later
        else ⟨[], 1⟩ :: next :: later
      else ⟨[], 0⟩ :: next :: later

/-- The candidates of a run: with all its marks, with at most two of them, and with none. -/
def Run.candidates (run : Run) : List Text :=
  if Token.minimumLength ≤ run.symbols.length then
    [run.symbols ++ List.replicate run.marks padChar,
      run.symbols ++ List.replicate (min run.marks 2) padChar, run.symbols]
  else []

/-- A candidate without its trailing marks, when its length is no multiple of four. -/
def dropSurplusMarks (candidate : Text) : Text :=
  if candidate.length % 4 = 0 then candidate else trimEndWhile (· == padChar) candidate

/-- A candidate whose last stretch of low lines or minus signs is replaced by one symbol of the
standard alphabet, when its length is no multiple of four. -/
def replaceEnd (candidate : Text) : Text :=
  if candidate.length % 4 = 0 then candidate
  else
    match candidate.getLast? with
    | some '_' => trimEndWhile (· == '_') candidate ++ ['/']
    | some '-' => trimEndWhile (· == '-') candidate ++ ['+']
    | _ => candidate

/-- A candidate with marks added up to a multiple of four. -/
def fillEnd (candidate : Text) : Text :=
  candidate ++ List.replicate ((4 - candidate.length % 4) % 4) padChar

/-- The mended form of a candidate. -/
def mend (candidate : Text) : Text :=
  fillEnd (replaceEnd (dropSurplusMarks candidate))

/-- Whether a mended candidate decodes, URL-safe first, to something that is not blank. -/
def isMeaningful (token : Text) : Bool :=
  let bytes := Utf8.encode token
  match decode .urlSafe .canonical bytes with
  | .ok decoded => !(Bytes.trim decoded).isEmpty
  | .error _ =>
    match decode .standard .canonical bytes with
    | .ok decoded => !(Bytes.trim decoded).isEmpty
    | .error _ => false

/-- A strictly increasing list with one more element. -/
def insertSorted (text : Text) : List Text → List Text
  | [] => [text]
  | head :: tail =>
    if text < head then text :: head :: tail
    else if text = head then head :: tail
    else head :: insertSorted text tail

/-- The tokens that stand in a text, sorted and without repetition. -/
def detect (text : Text) : List Text :=
  let candidates :=
    (runs .standard text).flatMap Run.candidates ++ (runs .urlSafe text).flatMap Run.candidates
  ((candidates.map mend).filter isMeaningful).foldr insertSorted []

/-- Whether a text holds at least one token. -/
def holdsToken (text : Text) : Bool :=
  let trimmed := Text.trim text
  !trimmed.isEmpty && !(detect trimmed).isEmpty

end Base64
end Lockbox
