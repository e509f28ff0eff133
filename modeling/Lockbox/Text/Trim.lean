import Lockbox.Bytes

/-!
# Trimming

Removing unwanted elements from the ends of a list, and the two notions of white space that the
library trims: the ASCII one for buffers and the Unicode one for texts.
-/

namespace Lockbox

/-- A text is a list of Unicode scalar values. -/
abbrev Text := List Char

/-- The list without its longest suffix of elements that satisfy the test. -/
def trimEndWhile {α : Type} (unwanted : α → Bool) : List α → List α
  | [] => []
  | head :: tail =>
    match trimEndWhile unwanted tail with
    | [] => if unwanted head then [] else [head]
    | kept => head :: kept

/-- The list without its longest prefix and suffix of elements that satisfy the test. -/
def trimWhile {α : Type} (unwanted : α → Bool) (list : List α) : List α :=
  trimEndWhile unwanted (list.dropWhile unwanted)

@[simp] theorem trimEndWhile_nil {α : Type} (unwanted : α → Bool) :
    trimEndWhile unwanted [] = [] := rfl

/-- What is kept is never longer than the list. -/
theorem length_trimEndWhile_le {α : Type} (unwanted : α → Bool) (list : List α) :
    (trimEndWhile unwanted list).length ≤ list.length := by
  induction list with
  | nil => simp
  | cons head tail inductionHypothesis =>
    unfold trimEndWhile
    split
    · split <;> simp
    · simp_all

/-- Trimming an end removes a run of unwanted elements and nothing else. -/
theorem exists_append_trimEndWhile {α : Type} (unwanted : α → Bool) (list : List α) :
    ∃ removed, list = trimEndWhile unwanted list ++ removed ∧
      ∀ element ∈ removed, unwanted element = true := by
  induction list with
  | nil => exact ⟨[], by simp⟩
  | cons head tail inductionHypothesis =>
    obtain ⟨removed, split, all⟩ := inductionHypothesis
    unfold trimEndWhile
    cases kept : trimEndWhile unwanted tail with
    | nil =>
      rw [kept] at split
      by_cases test : unwanted head = true
      · refine ⟨head :: tail, by simp [test], ?_⟩
        intro element member
        rcases List.mem_cons.mp member with rfl | inTail
        · exact test
        · exact all element (by simpa [split] using inTail)
      · exact ⟨removed, by simp [test, ← split], all⟩
    | cons first rest =>
      rw [kept] at split
      exact ⟨removed, by simp [split], all⟩

namespace Bytes

/-- ASCII white space: blank, tab, line feed, form feed, carriage return. -/
def isBlank (byte : UInt8) : Bool :=
  byte == 0x20 || byte == 0x09 || byte == 0x0A || byte == 0x0C || byte == 0x0D

/-- The buffer without ASCII white space at either end. -/
def trim (bytes : Bytes) : Bytes :=
  trimWhile isBlank bytes

end Bytes

namespace Text

/-- Unicode white space. -/
def isBlank (char : Char) : Bool :=
  let code := char.toNat
  (9 ≤ code && code ≤ 13) || code == 0x20 || code == 0x85 || code == 0xA0 || code == 0x1680 ||
    (0x2000 ≤ code && code ≤ 0x200A) || code == 0x2028 || code == 0x2029 || code == 0x202F ||
    code == 0x205F || code == 0x3000

/-- The text without white space at either end. -/
def trim (text : Text) : Text :=
  trimWhile isBlank text

/-- A control character: a C0 code, delete, or a C1 code. -/
def isControl (char : Char) : Bool :=
  char.toNat < 0x20 || (0x7F ≤ char.toNat && char.toNat ≤ 0x9F)

/-- The characters of an ASCII buffer. -/
def ofAscii (bytes : Bytes) : Text :=
  bytes.map fun byte => Char.ofNat byte.toNat

/-- The text with its ASCII capital letters made small. -/
def toLowerAscii (text : Text) : Text :=
  text.map Char.toLower

end Text
end Lockbox
