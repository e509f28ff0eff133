import Lockbox.Proofs.Base64.Detection

/-!
# Mending as rounds of repair

A candidate can be mended round by round: as long as its length is no multiple of four, the last
stretch of one character is replaced, if that character can be. Every round leaves fewer characters
that can be replaced, so the rounds end (`wellFounded_repairRound`), whatever they begin with. What
they end in is what mending fills up with marks (`mend_eq_fillEnd_repair`).
-/

namespace Lockbox
namespace Base64

/-! ## Rounds -/

/-- What a last stretch of a character is replaced by: low lines and minus signs by a symbol of the
standard alphabet, marks, full stops and white space by nothing, and other characters not at all. -/
def endReplacement? : Char → Option Text
  | '_' => some ['/']
  | '-' => some ['+']
  | '=' | '.' | ' ' | '\n' | '\r' | '\t' | '\x0c' => some []
  | _ => none

/-- Whether a last stretch of a character is replaced. -/
def isReplaced (char : Char) : Bool :=
  (endReplacement? char).isSome

/-- A token after one more round of repair, if there is one. -/
def repairRound? (token : Text) : Option Text :=
  if token.length % 4 = 0 then none
  else token.getLast?.bind fun last =>
    (endReplacement? last).map (trimEndWhile (· == last) token ++ ·)

theorem repairRound?_of_full
    {token : Text}
    (full : token.length % 4 = 0) :
    repairRound? token = none :=
  if_pos full

/-- A token that is not full has its last stretch replaced. -/
theorem repairRound?_concat
    {front : Text}
    {last : Char}
    {replacement : Text}
    (notFull : (front ++ [last]).length % 4 ≠ 0)
    (replaced : endReplacement? last = some replacement) :
    repairRound? (front ++ [last]) = some (trimEndWhile (· == last) front ++ replacement) := by
  have removed : trimEndWhile (· == last) (front ++ [last]) = trimEndWhile (· == last) front :=
    trimEndWhile_append front (by simp)
  rw [repairRound?, if_neg notFull, List.getLast?_concat, Option.bind_some, replaced, removed]
  rfl

/-- A token whose last character is not replaced is left alone. -/
theorem repairRound?_of_last
    {token : Text}
    (kept : ∀ last ∈ token.getLast?, endReplacement? last = none) :
    repairRound? token = none := by
  rw [repairRound?]
  split
  next => rfl
  next =>
    cases isLast : token.getLast? with
    | none => rfl
    | some last =>
        rw [Option.bind_some, kept last isLast]
        rfl

/-- A round takes the last stretch of a character away and puts the replacement there. -/
theorem exists_of_repairRound?_eq_some
    {token next : Text}
    (repaired : repairRound? token = some next) :
    ∃ front last replacement,
      token = front ++ [last] ∧ token.length % 4 ≠ 0 ∧ endReplacement? last = some replacement ∧
        next = trimEndWhile (· == last) front ++ replacement := by
  have notFull : token.length % 4 ≠ 0 := by
    intro full
    rw [repairRound?_of_full full] at repaired
    cases repaired
  cases isLast : token.getLast? with
  | none =>
      rw [repairRound?_of_last (by simp [isLast])] at repaired
      cases repaired
  | some last =>
      obtain ⟨front, rfl⟩ := List.getLast?_eq_some_iff.mp isLast
      cases replaced : endReplacement? last with
      | none =>
          rw [repairRound?_of_last (by simpa using replaced)] at repaired
          cases repaired
      | some replacement =>
          rw [repairRound?_concat notFull replaced] at repaired
          exact ⟨front, last, replacement, rfl, notFull, replaced,
            (Option.some.inj repaired).symm⟩

/-! ## The end of the rounds -/

/-- What is put in the place of a stretch is not replaced itself. -/
theorem countP_endReplacement
    {char : Char}
    {replacement : Text}
    (replaced : endReplacement? char = some replacement) :
    replacement.countP isReplaced = 0 := by
  unfold endReplacement? at replaced
  split at replaced <;> cases replaced <;> rfl

/-- A round leaves fewer characters that can be replaced. -/
theorem countP_lt_of_repairRound?
    {token next : Text}
    (repaired : repairRound? token = some next) :
    next.countP isReplaced < token.countP isReplaced := by
  obtain ⟨front, last, replacement, rfl, -, replaced, rfl⟩ :=
    exists_of_repairRound?_eq_some repaired
  obtain ⟨removed, split, -⟩ := exists_append_trimEndWhile (· == last) front
  have counted := congrArg (List.countP isReplaced) split
  have lastCounted : [last].countP isReplaced = 1 := by
    simp [isReplaced, replaced]
  rw [List.countP_append] at counted
  rw [List.countP_append, List.countP_append, countP_endReplacement replaced, lastCounted]
  omega

/-- No token can be repaired round after round without end. -/
theorem wellFounded_repairRound :
    WellFounded fun next token : Text => repairRound? token = some next :=
  Subrelation.wf countP_lt_of_repairRound? (measure (List.countP isReplaced)).wf

/-- A token after all rounds of repair. -/
def repair (token : Text) : Text :=
  match repaired : repairRound? token with
  | none => token
  | some next =>
    have := countP_lt_of_repairRound? repaired
    repair next
termination_by token.countP isReplaced

theorem repair_of_none
    {token : Text}
    (ended : repairRound? token = none) :
    repair token = token := by
  rw [repair]
  split
  next => rfl
  next next repaired =>
    rw [ended] at repaired
    cases repaired

theorem repair_of_some
    {token next : Text}
    (repaired : repairRound? token = some next) :
    repair token = repair next := by
  rw [repair]
  split
  next ended =>
    rw [ended] at repaired
    cases repaired
  next other repairedToo =>
    rw [repaired] at repairedToo
    rw [Option.some.inj repairedToo]

/-! ## Mending -/

section Mending

variable {alphabet : Alphabet} {symbols : Text}

/-- Of the symbols of an alphabet, low lines and minus signs are replaced at an end, and no other
symbol is. -/
theorem Alphabet.endReplacement?_symbol
    (alphabet : Alphabet)
    {value : Nat}
    (small : value < 64)
    (notLowLine : Char.ofNat (alphabet.symbol value).toNat ≠ '_')
    (notMinus : Char.ofNat (alphabet.symbol value).toNat ≠ '-') :
    endReplacement? (Char.ofNat (alphabet.symbol value).toNat) = none := by
  revert value
  cases alphabet <;> decide

/-- The rounds replace the end of symbols as mending does. -/
theorem repair_symbols
    (contained : ∀ char ∈ symbols, alphabet.containsChar char = true) :
    repair symbols = replaceEnd symbols := by
  have endsThere : ∀ {front : Text} {last : Char}, endReplacement? last = none →
      repair (front ++ [last]) = front ++ [last] := by
    intro front last kept
    exact repair_of_none (repairRound?_of_last (by simpa using kept))
  rw [replaceEnd]
  split
  next full => exact repair_of_none (repairRound?_of_full full)
  next notFull =>
    cases isLast : symbols.getLast? with
    | none =>
        rw [List.getLast?_eq_none_iff.mp isLast] at notFull
        exact absurd rfl notFull
    | some last =>
        obtain ⟨front, rfl⟩ := List.getLast?_eq_some_iff.mp isLast
        have removed : trimEndWhile (· == last) (front ++ [last]) =
            trimEndWhile (· == last) front :=
          trimEndWhile_append front (by simp)
        split
        next lowLine =>
          obtain rfl := Option.some.inj lowLine
          rw [repair_of_some (repairRound?_concat notFull rfl), endsThere rfl, removed]
        next minus =>
          obtain rfl := Option.some.inj minus
          rw [repair_of_some (repairRound?_concat notFull rfl), endsThere rfl, removed]
        next notLowLine notMinus =>
          obtain ⟨value, small, rfl⟩ := Alphabet.exists_symbol_of_containsChar
            (contained last (List.mem_append_right _ (List.mem_singleton_self last)))
          apply endsThere
          apply alphabet.endReplacement?_symbol small
          · intro lowLine
            exact notLowLine (by rw [lowLine])
          · intro minus
            exact notMinus (by rw [minus])

/-- A candidate is mended to what the rounds of repair make of it, filled up with marks. -/
theorem mend_eq_fillEnd_repair
    (contained : ∀ char ∈ symbols, alphabet.containsChar char = true)
    (marks : Nat) :
    mend (symbols ++ List.replicate marks padChar) =
      fillEnd (repair (symbols ++ List.replicate marks padChar)) := by
  have unmarked : ∀ count, trimEndWhile (· == padChar)
      (symbols ++ List.replicate count padChar) = symbols := by
    intro count
    rw [trimEndWhile_append _ (by simp), trimEndWhile_of_forall]
    intro char member
    rw [beq_eq_false_iff_ne]
    rintro rfl
    have impossible := contained _ member
    rw [containsChar_padChar] at impossible
    cases impossible
  rw [mend, dropSurplusMarks]
  split
  next full =>
    rw [replaceEnd, if_pos full, repair_of_none (repairRound?_of_full full)]
  next notFull =>
    rw [unmarked, ← repair_symbols contained]
    cases marks with
    | zero => rw [List.replicate_zero, List.append_nil]
    | succ marks =>
        rw [List.replicate_succ', ← List.append_assoc] at notFull ⊢
        have round := @repairRound?_concat _ padChar _ notFull rfl
        rw [unmarked, List.append_nil] at round
        rw [repair_of_some round]

end Mending

end Base64
end Lockbox
