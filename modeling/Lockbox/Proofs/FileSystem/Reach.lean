import Lockbox.FileSystem.Tree

/-!
# Paths of the files in a directory

A path that joins a directory and a plain name is walked in two stages: the directory is reached,
and then the name is entered (`locate_join`, `locate_join_eq_ok_iff`).
-/

namespace Lockbox
namespace Path

/-- A name of a file that is no step of its own: it is longer than the two dots. -/
structure IsPlain (name : Text) : Prop where
  noSlash : '/' ∉ name
  long : 2 < name.length

/-- The parts of a directory as they stand in front of a name below it. -/
def leading (directory : Path) : List Text :=
  if directory.isEmpty then []
  else if directory.getLast? == some '/' then (parts directory).dropLast
  else parts directory

theorem parts_ne_nil (path : Path) : parts path ≠ [] := by
  cases path with
  | nil => simp [parts]
  | cons char rest =>
      rw [parts]
      split
      · simp
      · split <;> simp

theorem parts_append_slash (front back : Path) :
    parts (front ++ '/' :: back) = parts front ++ parts back := by
  induction front with
  | nil => simp [parts]
  | cons char front inductionHypothesis =>
      by_cases slash : char = '/'
      · simp [parts, slash, inductionHypothesis]
      · rw [List.cons_append, parts, parts, if_neg slash, if_neg slash, inductionHypothesis]
        cases known : parts front with
        | nil => exact absurd known (parts_ne_nil front)
        | cons first others => rfl

theorem parts_of_noSlash
    {name : Text}
    (noSlash : '/' ∉ name) :
    parts name = [name] := by
  induction name with
  | nil => rfl
  | cons char rest inductionHypothesis =>
      rw [List.mem_cons, not_or] at noSlash
      rw [parts, if_neg (Ne.symm noSlash.1), inductionHypothesis noSlash.2]

theorem isAbsolute_of_noSlash
    {name : Text}
    (noSlash : '/' ∉ name) :
    isAbsolute name = false := by
  cases name with
  | nil => rfl
  | cons char rest =>
      rw [List.mem_cons, not_or] at noSlash
      simpa [isAbsolute] using Ne.symm noSlash.1

theorem join_of_noSlash
    (directory : Path)
    {name : Text}
    (noSlash : '/' ∉ name) :
    join directory name =
      if directory.isEmpty || directory.getLast? == some '/' then directory ++ name
      else directory ++ '/' :: name := by
  rw [join, if_neg (by simp [isAbsolute_of_noSlash noSlash]), List.append_assoc,
    List.singleton_append]

/-- What stands in front of a name in a directory does not depend on the name. -/
theorem exists_join_eq_append (directory : Path) :
    ∃ front, ∀ name : Text, '/' ∉ name → join directory name = front ++ name := by
  refine ⟨if directory.isEmpty || directory.getLast? == some '/' then directory
    else directory ++ ['/'], ?_⟩
  intro name noSlash
  rw [join_of_noSlash directory noSlash]
  split <;> simp

/-- The name is the last part of the joined path. -/
theorem parts_join
    (directory : Path)
    {name : Text}
    (noSlash : '/' ∉ name) :
    parts (join directory name) = leading directory ++ [name] := by
  rw [join_of_noSlash directory noSlash, leading]
  by_cases empty : directory.isEmpty = true
  · simp [List.isEmpty_iff.mp empty, parts_of_noSlash noSlash]
  by_cases slashed : (directory.getLast? == some '/') = true
  · obtain ⟨front, rfl⟩ := List.getLast?_eq_some_iff.mp (eq_of_beq slashed)
    simp [parts_append_slash, parts_of_noSlash noSlash, parts]
  · simp [empty, slashed, parts_append_slash, parts_of_noSlash noSlash]

/-- A joined path starts where its directory starts. -/
theorem isAbsolute_join
    (directory : Path)
    {name : Text}
    (noSlash : '/' ∉ name) :
    isAbsolute (join directory name) = isAbsolute directory := by
  rw [join_of_noSlash directory noSlash]
  cases directory with
  | nil => exact isAbsolute_of_noSlash noSlash
  | cons char rest => split <;> rfl

theorem join_ne_nil
    (directory : Path)
    {name : Text}
    (plain : IsPlain name) :
    join directory name ≠ [] := by
  have long := plain.long
  rw [join_of_noSlash directory plain.noSlash]
  intro empty
  have noLength := congrArg List.length empty
  split at noLength
  all_goals
    simp only [List.length_append, List.length_cons, List.length_nil] at noLength
    omega

end Path

namespace FileSystem

/-! ## Lengths of paths -/

theorem byteLength_append (front back : Text) :
    Text.byteLength (front ++ back) = Text.byteLength front + Text.byteLength back := by
  simp [Text.byteLength, Utf8.encode]

theorem checkPath_eq_ok_iff
    {path : Path} :
    checkPath path = .ok () ↔
      '\x00' ∉ path ∧ path ≠ [] ∧ Text.byteLength path ≤ maximumPath := by
  unfold checkPath
  by_cases nul : '\x00' ∈ path
  · simp [nul]
  by_cases empty : path = []
  · simp [empty]
  by_cases long : maximumPath < Text.byteLength path
  · simp [nul, empty, long, Nat.not_le.mpr long]
  · simp [nul, empty, long, Nat.not_lt.mp long]

/-- The front of a path that can be used can be used, if there is any. -/
theorem checkPath_of_append
    {front back : Path}
    (nonempty : front ≠ [])
    (checked : checkPath (front ++ back) = .ok ()) :
    checkPath front = .ok () := by
  obtain ⟨noNul, -, short⟩ := checkPath_eq_ok_iff.mp checked
  rw [byteLength_append] at short
  refine checkPath_eq_ok_iff.mpr ⟨?_, nonempty, by omega⟩
  intro nul
  exact noNul (List.mem_append_left back nul)

/-- Where a path with one plain name can be used, those with shorter names can. -/
theorem checkPath_join_of_shorter
    {directory : Path}
    {name other : Text}
    (plain : Path.IsPlain name)
    (otherPlain : Path.IsPlain other)
    (noNul : '\x00' ∉ other)
    (shorter : Text.byteLength other ≤ Text.byteLength name)
    (checked : checkPath (Path.join directory name) = .ok ()) :
    checkPath (Path.join directory other) = .ok () := by
  have nonempty := Path.join_ne_nil directory otherPlain
  obtain ⟨front, joined⟩ := Path.exists_join_eq_append directory
  rw [joined name plain.noSlash, checkPath_eq_ok_iff, List.mem_append, not_or,
    byteLength_append] at checked
  rw [joined other otherPlain.noSlash] at nonempty ⊢
  rw [checkPath_eq_ok_iff, List.mem_append, not_or, byteLength_append]
  obtain ⟨⟨frontNoNul, -⟩, -, short⟩ := checked
  exact ⟨⟨frontNoNul, noNul⟩, nonempty, by omega⟩

theorem checkPath_of_locate
    {files : FileSystem}
    {path : Path}
    {location : Location}
    (located : files.locate path = .ok location) :
    checkPath path = .ok () := by
  unfold locate at located
  split at located
  next => cases located
  next checked => exact checked

theorem ne_nil_of_checkPath
    {path : Path}
    (checked : checkPath path = .ok ()) :
    path ≠ [] := by
  rintro rfl
  cases checked

/-! ## Two stages -/

/-- The place of a directory, as the first stage of the walk to a file in it finds it. -/
def reach (files : FileSystem) (directory : Path) : Except IoError Location :=
  files.walk (files.startOf directory) (Path.leading directory ++ [[]])

theorem walk_append
    (files : FileSystem)
    (start : Location)
    (front back : List Text) :
    files.walk start (front ++ back) =
      match files.walk start front with
      | .error failure => .error failure
      | .ok place => files.walk place back := by
  induction front generalizing start with
  | nil => rfl
  | cons part rest inductionHypothesis =>
      rw [List.cons_append, walk, walk]
      cases files.enter start part with
      | error failure => rfl
      | ok next => exact inductionHypothesis next

theorem enter_nil
    (files : FileSystem)
    (place : Location) :
    files.enter place [] = (files.requireDirectory place).map fun _ => place := by
  rw [enter]
  cases files.requireDirectory place <;> rfl

theorem enter_plain
    (files : FileSystem)
    (place : Location)
    {name : Text}
    (plain : Path.IsPlain name) :
    files.enter place name =
      match files.requireDirectory place with
      | .error failure => .error failure
      | .ok () =>
        if maximumName < Text.byteLength name then .error .nameTooLong
        else .ok (name :: place) := by
  have long := plain.long
  have noIdle : ¬ (name = [] ∨ name = ['.']) := by
    rintro (rfl | rfl) <;> simp at long
  have notAbove : name ≠ ['.', '.'] := by
    rintro rfl
    simp at long
  cases required : files.requireDirectory place with
  | error failure => simp only [enter, required]
  | ok => simp only [enter, required, if_neg noIdle, if_neg notAbove]

/-- The walk to a plain name in a directory. -/
theorem locate_join
    (files : FileSystem)
    (directory : Path)
    {name : Text}
    (plain : Path.IsPlain name) :
    files.locate (Path.join directory name) =
      match checkPath (Path.join directory name) with
      | .error failure => .error failure
      | .ok () =>
        match files.reach directory with
        | .error failure => .error failure
        | .ok place =>
          if maximumName < Text.byteLength name then .error .nameTooLong
          else .ok (name :: place) := by
  rw [locate, startOf, Path.isAbsolute_join directory plain.noSlash, ← startOf,
    Path.parts_join directory plain.noSlash, reach, walk_append, walk_append]
  cases checkPath (Path.join directory name) with
  | error failure => rfl
  | ok =>
      cases files.walk (files.startOf directory) (Path.leading directory) with
      | error failure => rfl
      | ok place =>
          simp only [walk, enter_plain files place plain, enter_nil]
          cases files.requireDirectory place with
          | error failure => rfl
          | ok =>
              by_cases tooLong : maximumName < Text.byteLength name
              · simp [Except.map, tooLong]
              · simp [Except.map, tooLong]

/-- A plain name is located exactly when the path can be used, its directory can be reached and the
name is not too long; it stands in the place of the directory. -/
theorem locate_join_eq_ok_iff
    {files : FileSystem}
    {directory : Path}
    {name : Text}
    {location : Location}
    (plain : Path.IsPlain name) :
    files.locate (Path.join directory name) = .ok location ↔
      checkPath (Path.join directory name) = .ok () ∧ Text.byteLength name ≤ maximumName ∧
        ∃ place, files.reach directory = .ok place ∧ location = name :: place := by
  rw [locate_join files directory plain]
  cases checkPath (Path.join directory name) with
  | error failure => simp
  | ok =>
      cases files.reach directory with
      | error failure => simp
      | ok place =>
          by_cases tooLong : maximumName < Text.byteLength name
          · simp [tooLong, Nat.not_le.mpr tooLong]
          · simp [tooLong, Nat.not_lt.mp tooLong, eq_comm]

/-- A plain name that can be located in a directory stands in the place of the directory. -/
theorem exists_reach_of_locate_join
    {files : FileSystem}
    {directory : Path}
    {name : Text}
    {location : Location}
    (plain : Path.IsPlain name)
    (located : files.locate (Path.join directory name) = .ok location) :
    ∃ place, files.reach directory = .ok place ∧ location = name :: place :=
  ((locate_join_eq_ok_iff plain).mp located).2.2

/-- A plain name is located in a directory that can be reached. -/
theorem locate_join_of_reach
    {files : FileSystem}
    {directory : Path}
    {name : Text}
    {place : Location}
    (plain : Path.IsPlain name)
    (checked : checkPath (Path.join directory name) = .ok ())
    (reached : files.reach directory = .ok place)
    (short : Text.byteLength name ≤ maximumName) :
    files.locate (Path.join directory name) = .ok (name :: place) :=
  (locate_join_eq_ok_iff plain).mpr ⟨checked, short, place, reached, rfl⟩

/-- In a directory where one plain name can be located, those that are shorter can. -/
theorem locate_join_of_shorter
    {files : FileSystem}
    {directory : Path}
    {name other : Text}
    {place : Location}
    (plain : Path.IsPlain name)
    (otherPlain : Path.IsPlain other)
    (noNul : '\x00' ∉ other)
    (shorter : Text.byteLength other ≤ Text.byteLength name)
    (located : files.locate (Path.join directory name) = .ok (name :: place)) :
    files.locate (Path.join directory other) = .ok (other :: place) := by
  obtain ⟨checked, short, _, reached, same⟩ := (locate_join_eq_ok_iff plain).mp located
  obtain rfl := (List.cons.inj same).2
  exact locate_join_of_reach otherPlain
    (checkPath_join_of_shorter plain otherPlain noNul shorter checked) reached (by omega)

/-- A directory in which no file has a place. -/
def Placeless (files : FileSystem) (directory : Path) : Prop :=
  ∀ name location, Path.IsPlain name → files.locate (Path.join directory name) ≠ .ok location

end FileSystem
end Lockbox
