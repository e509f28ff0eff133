import Lockbox.Text.Trim
import Mathlib.Data.List.TakeWhile

/-!
# What trimming keeps

Trimming removes what surrounds a list and nothing within it.
-/

namespace Lockbox

variable {α : Type} {unwanted : α → Bool}

/-- A suffix of unwanted elements does not matter. -/
theorem trimEndWhile_append
    (list : List α)
    {suffix : List α}
    (allUnwanted : ∀ element ∈ suffix, unwanted element = true) :
    trimEndWhile unwanted (list ++ suffix) = trimEndWhile unwanted list := by
  induction list with
  | nil =>
      induction suffix with
      | nil => rfl
      | cons head tail inductionHypothesis =>
          have tailTrimmed := inductionHypothesis fun element member =>
            allUnwanted element (List.mem_cons_of_mem head member)
          have headUnwanted := allUnwanted head (List.mem_cons_self ..)
          rw [List.nil_append, trimEndWhile_nil] at tailTrimmed
          simp [trimEndWhile, tailTrimmed, headUnwanted]
  | cons head tail inductionHypothesis =>
      rw [List.cons_append, trimEndWhile, inductionHypothesis, trimEndWhile]

/-- A list without unwanted elements is kept. -/
theorem trimEndWhile_of_forall
    {list : List α}
    (allWanted : ∀ element ∈ list, unwanted element = false) :
    trimEndWhile unwanted list = list := by
  induction list with
  | nil => rfl
  | cons head tail inductionHypothesis =>
      have headWanted := allWanted head (List.mem_cons_self ..)
      have tailKept := inductionHypothesis fun element member =>
        allWanted element (List.mem_cons_of_mem head member)
      rw [trimEndWhile, tailKept]
      cases tail <;> simp [headWanted]

/-- An element that is wanted is kept, and the end behind it is trimmed on its own. -/
theorem trimEndWhile_cons_of_neg
    {head : α}
    (wanted : unwanted head = false)
    (tail : List α) :
    trimEndWhile unwanted (head :: tail) = head :: trimEndWhile unwanted tail := by
  rw [trimEndWhile]
  cases trimEndWhile unwanted tail with
  | nil => simp [wanted]
  | cons first rest => rfl

/-- An end is kept exactly when its last element is wanted. -/
theorem trimEndWhile_eq_self_iff
    {list : List α} :
    trimEndWhile unwanted list = list ↔
      ∀ last, list.getLast? = some last → unwanted last = false := by
  constructor
  · intro kept last isLast
    obtain ⟨front, rfl⟩ := List.getLast?_eq_some_iff.mp isLast
    cases test : unwanted last with
    | false => rfl
    | true =>
        have allUnwanted : ∀ element ∈ [last], unwanted element = true := by simpa using test
        have shortened := trimEndWhile_append front allUnwanted
        have notLonger := length_trimEndWhile_le unwanted front
        rw [← shortened, kept, List.length_append, List.length_singleton] at notLonger
        omega
  · intro lastWanted
    obtain ⟨removed, split, allUnwanted⟩ := exists_append_trimEndWhile unwanted list
    cases removedLast : removed.getLast? with
    | none =>
        rw [List.getLast?_eq_none_iff.mp removedLast, List.append_nil] at split
        exact split.symm
    | some last =>
        have isLast : list.getLast? = some last := by
          rw [split, List.getLast?_append, removedLast]
          rfl
        have isUnwanted := allUnwanted last (List.mem_of_getLast? removedLast)
        rw [lastWanted last isLast] at isUnwanted
        cases isUnwanted

/-- An end that does not become shorter is kept. -/
theorem trimEndWhile_eq_self_of_length
    {list : List α}
    (asLong : list.length ≤ (trimEndWhile unwanted list).length) :
    trimEndWhile unwanted list = list := by
  obtain ⟨removed, split, -⟩ := exists_append_trimEndWhile unwanted list
  have lengths := congrArg List.length split
  rw [List.length_append] at lengths
  have none : removed = [] := List.length_eq_zero_iff.mp (by omega)
  rw [none, List.append_nil] at split
  exact split.symm

/-- What stands between unwanted elements is what trimming keeps. -/
theorem trimWhile_surrounded
    {before list after : List α}
    (beforeUnwanted : ∀ element ∈ before, unwanted element = true)
    (allWanted : ∀ element ∈ list, unwanted element = false)
    (afterUnwanted : ∀ element ∈ after, unwanted element = true) :
    trimWhile unwanted (before ++ list ++ after) = list := by
  unfold trimWhile
  rw [List.append_assoc, List.dropWhile_append_of_pos beforeUnwanted]
  cases list with
  | nil =>
      rw [List.nil_append, List.dropWhile_eq_nil_iff.mpr afterUnwanted, trimEndWhile_nil]
  | cons head tail =>
      have headWanted := allWanted head (List.mem_cons_self ..)
      rw [List.cons_append, List.dropWhile_cons_of_neg (by simp [headWanted]),
        ← List.cons_append, trimEndWhile_append _ afterUnwanted,
        trimEndWhile_of_forall allWanted]

/-- A list is what trimming keeps of it, between unwanted elements. -/
theorem exists_surrounded_trimWhile
    (unwanted : α → Bool)
    (list : List α) :
    ∃ before after, list = before ++ trimWhile unwanted list ++ after ∧
      (∀ element ∈ before, unwanted element = true) ∧
      ∀ element ∈ after, unwanted element = true := by
  obtain ⟨after, split, afterUnwanted⟩ :=
    exists_append_trimEndWhile unwanted (list.dropWhile unwanted)
  refine ⟨list.takeWhile unwanted, after, ?_, fun _ => List.mem_takeWhile_imp, afterUnwanted⟩
  rw [List.append_assoc, trimWhile, ← split, List.takeWhile_append_dropWhile]

/-- What is kept is never longer than the list. -/
theorem length_trimWhile_le
    (unwanted : α → Bool)
    (list : List α) :
    (trimWhile unwanted list).length ≤ list.length :=
  Nat.le_trans (length_trimEndWhile_le unwanted _) (List.dropWhile_suffix unwanted).length_le

/-! ## Trimming again -/

theorem trimEndWhile_trimEndWhile (list : List α) :
    trimEndWhile unwanted (trimEndWhile unwanted list) = trimEndWhile unwanted list := by
  obtain ⟨removed, split, allUnwanted⟩ := exists_append_trimEndWhile unwanted list
  conv => rhs; rw [split]
  exact (trimEndWhile_append _ allUnwanted).symm

/-- A list that begins with a wanted element is trimmed at its end only. -/
theorem trimWhile_cons_of_neg
    {head : α}
    (wanted : unwanted head = false)
    (tail : List α) :
    trimWhile unwanted (head :: tail) = head :: trimEndWhile unwanted tail := by
  rw [trimWhile, List.dropWhile_cons_of_neg (by simp [wanted]), trimEndWhile_cons_of_neg wanted]

/-- Trimming what has been trimmed changes nothing. -/
theorem trimWhile_trimWhile (list : List α) :
    trimWhile unwanted (trimWhile unwanted list) = trimWhile unwanted list := by
  cases front : list.dropWhile unwanted with
  | nil => simp [trimWhile, front]
  | cons head tail =>
      have wanted : unwanted head = false := by
        have first := List.head_dropWhile_not unwanted
          (by rw [front]; simp : list.dropWhile unwanted ≠ [])
        simpa [front] using first
      have trimmed : trimWhile unwanted list = head :: trimEndWhile unwanted tail := by
        rw [trimWhile, front, trimEndWhile_cons_of_neg wanted]
      rw [trimmed, trimWhile_cons_of_neg wanted, trimEndWhile_trimEndWhile]

/-- Around wanted elements, what stands before them is trimmed at its front and what stands behind
them at its end. -/
theorem trimWhile_append_wanted
    (before : List α)
    {list : List α}
    (after : List α)
    (nonempty : list ≠ [])
    (allWanted : ∀ element ∈ list, unwanted element = false) :
    trimWhile unwanted (before ++ (list ++ after)) =
      before.dropWhile unwanted ++ (list ++ trimEndWhile unwanted after) := by
  have front : (before ++ (list ++ after)).dropWhile unwanted =
      before.dropWhile unwanted ++ (list ++ after) := by
    obtain ⟨head, tail, rfl⟩ := List.exists_cons_of_ne_nil nonempty
    have headWanted := allWanted head (List.mem_cons_self ..)
    rw [List.dropWhile_append, List.cons_append,
      List.dropWhile_cons_of_neg (by simp [headWanted])]
    split
    next gone => rw [List.isEmpty_iff.mp gone, List.nil_append]
    next => rfl
  obtain ⟨removed, split, allUnwanted⟩ := exists_append_trimEndWhile unwanted after
  have shorter : trimEndWhile unwanted (before.dropWhile unwanted ++ (list ++ after)) =
      trimEndWhile unwanted
        (before.dropWhile unwanted ++ (list ++ trimEndWhile unwanted after)) := by
    conv => lhs; rw [split, ← List.append_assoc list, ← List.append_assoc]
    exact trimEndWhile_append _ allUnwanted
  rw [trimWhile, front, shorter, trimEndWhile_eq_self_iff]
  intro last isLast
  rw [List.getLast?_append, List.getLast?_append] at isLast
  cases keptLast : (trimEndWhile unwanted after).getLast? with
  | none =>
      rw [keptLast, Option.none_or, List.getLast?_eq_some_getLast nonempty,
        Option.some_or] at isLast
      rw [← Option.some.inj isLast]
      exact allWanted _ (List.getLast_mem nonempty)
  | some element =>
      rw [keptLast, Option.some_or, Option.some_or] at isLast
      obtain rfl := Option.some.inj isLast
      exact trimEndWhile_eq_self_iff.mp (trimEndWhile_trimEndWhile after) _ keptLast

/-- A list with a wanted element is not trimmed to nothing. -/
theorem trimWhile_ne_nil_of_mem
    {list : List α}
    {element : α}
    (member : element ∈ list)
    (wanted : unwanted element = false) :
    trimWhile unwanted list ≠ [] := by
  intro nothing
  obtain ⟨before, after, split, beforeUnwanted, afterUnwanted⟩ :=
    exists_surrounded_trimWhile unwanted list
  rw [split, nothing, List.append_nil, List.mem_append] at member
  rcases member with inBefore | inAfter
  · rw [beforeUnwanted element inBefore] at wanted
    cases wanted
  · rw [afterUnwanted element inAfter] at wanted
    cases wanted

/-- A list is trimmed to something exactly when it has a wanted element. -/
theorem trimWhile_ne_nil_iff
    {list : List α} :
    trimWhile unwanted list ≠ [] ↔ ∃ element ∈ list, unwanted element = false := by
  constructor
  · intro kept
    by_contra allUnwanted
    apply kept
    have nothing : list.dropWhile unwanted = [] := by
      rw [List.dropWhile_eq_nil_iff]
      intro element member
      by_contra wanted
      exact allUnwanted ⟨element, member, (Bool.not_eq_true _).mp wanted⟩
    rw [trimWhile, nothing, trimEndWhile_nil]
  · rintro ⟨element, member, wanted⟩
    exact trimWhile_ne_nil_of_mem member wanted

namespace Bytes

@[simp] theorem trim_trim (bytes : Bytes) : trim (trim bytes) = trim bytes :=
  trimWhile_trimWhile bytes

/-- White space of buffers is ASCII. -/
theorem ascii_of_isBlank
    {byte : UInt8}
    (blank : isBlank byte = true) :
    byte.toNat < 0x80 := by
  simp only [isBlank, Bool.or_eq_true, beq_iff_eq] at blank
  rcases blank with (((rfl | rfl) | rfl) | rfl) | rfl <;> decide

end Bytes

end Lockbox
