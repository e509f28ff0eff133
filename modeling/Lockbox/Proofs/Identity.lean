import Lockbox.Identity
import Lockbox.Proofs.PrivateFile

/-!
# File names of identities

The file of a secret has a plain name, and no lock is named like a secret (`fileName_ne_lockName`).
Two identities share a file name when their labels clash: once characters are replaced the labels
are the same, or the low line between them may be read at another position (`fileName_eq_iff`).
-/

namespace Lockbox

namespace Identity

theorem sanitizeChar_ne_slash (char : Char) : sanitizeChar char ≠ '/' := by
  unfold sanitizeChar
  split
  next => decide
  next kept =>
    rintro rfl
    exact kept (by decide)

theorem slash_notMem_sanitize (label : Text) : '/' ∉ sanitize label := by
  intro member
  obtain ⟨char, -, same⟩ := List.mem_map.mp member
  exact sanitizeChar_ne_slash char same

theorem isPlain_fileName (identity : Identity) : Path.IsPlain identity.fileName where
  noSlash := by
    simp [fileName, slash_notMem_sanitize]
  long := by
    rw [fileName, List.length_append]
    exact Nat.lt_add_left _ (by decide)

theorem getLast?_fileName (identity : Identity) : identity.fileName.getLast? = some 't' := by
  rw [fileName, List.getLast?_append]
  rfl

/-- No secret is kept where a lock is. -/
theorem fileName_ne_lockName
    (identity : Identity)
    (name : Text) :
    identity.fileName ≠ PrivateFile.lockName name := by
  intro same
  have last := identity.getLast?_fileName
  rw [same, PrivateFile.getLast?_lockName] at last
  exact absurd last (by decide)

theorem lowLine_mem_fileName (identity : Identity) : '_' ∈ identity.fileName := by
  simp [fileName]

/-- The name of a lock is longer than that of a temporary file. -/
theorem ten_le_byteLength_lockName (identity : Identity) :
    10 ≤ Text.byteLength (PrivateFile.lockName identity.fileName) := by
  have front := FileSystem.byteLength_append
    (sanitize identity.service.label ++ ['_'] ++ sanitize identity.name.label) ".secret".toList
  have lock := FileSystem.byteLength_append identity.fileName ".lock".toList
  have ends : Text.byteLength ".secret".toList = 7 ∧ Text.byteLength ".lock".toList = 5 := by
    decide
  rw [PrivateFile.lockName, lock, fileName, front]
  omega

/-- Two pairs of labels that are written alike in file names. -/
def Clashes (first second : Identity) : Prop :=
  (sanitize first.service.label = sanitize second.service.label ∧
    sanitize first.name.label = sanitize second.name.label) ∨
  (∃ middle,
    sanitize second.service.label = sanitize first.service.label ++ '_' :: middle ∧
    sanitize first.name.label = middle ++ '_' :: sanitize second.name.label) ∨
  (∃ middle,
    sanitize first.service.label = sanitize second.service.label ++ '_' :: middle ∧
    sanitize second.name.label = middle ++ '_' :: sanitize first.name.label)

/-- Two texts joined at a separator are other two joined at it only if these are the same or the
separator occurs within one of them. -/
theorem append_cons_eq_append_cons_iff
    {α : Type}
    {separator : α}
    {left right left' right' : List α} :
    left ++ separator :: right = left' ++ separator :: right' ↔
      (left = left' ∧ right = right') ∨
      (∃ middle, left' = left ++ separator :: middle ∧ right = middle ++ separator :: right') ∨
      (∃ middle, left = left' ++ separator :: middle ∧ right' = middle ++ separator :: right) := by
  constructor
  · intro same
    rcases List.append_eq_append_iff.mp same with
      ⟨middle, leftEq, rightEq⟩ | ⟨middle, leftEq, rightEq⟩
    · cases middle with
      | nil => simp_all
      | cons char rest =>
          rw [List.cons_append, List.cons.injEq] at rightEq
          obtain ⟨rfl, rightEq⟩ := rightEq
          exact Or.inr (Or.inl ⟨rest, leftEq, rightEq⟩)
    · cases middle with
      | nil => simp_all
      | cons char rest =>
          rw [List.cons_append, List.cons.injEq] at rightEq
          obtain ⟨rfl, rightEq⟩ := rightEq
          exact Or.inr (Or.inr ⟨rest, leftEq, rightEq⟩)
  · rintro (⟨rfl, rfl⟩ | ⟨middle, rfl, rfl⟩ | ⟨middle, rfl, rfl⟩)
    · rfl
    · simp
    · simp

/-- Two identities have one file exactly when their labels clash. -/
theorem fileName_eq_iff
    {first second : Identity} :
    first.fileName = second.fileName ↔ first.Clashes second := by
  rw [fileName, fileName, List.append_left_inj, List.append_assoc, List.append_assoc,
    List.singleton_append, List.singleton_append]
  exact append_cons_eq_append_cons_iff

end Identity
end Lockbox
