import Lockbox.Proofs.Base64.Repair

/-!
# Runs as a search with patterns

A search with a pattern goes through a text from the left. Where a match begins it takes the longest
one and goes on behind it. There are six patterns: the symbols of either alphabet, at least sixteen
of them, with all marks behind them, with one or two, or with none. What a search takes is what the
runs of the text offer it (`Pattern.finds_select`), so detection is a search with the six patterns,
followed by rounds of repair (`mem_detect_iff_finds`).
-/

namespace Lockbox
namespace Base64

/-! ## Patterns -/

/-- Which marks a pattern takes behind its symbols. -/
inductive MarkRule
  | all
  | oneOrTwo
  | none
  deriving DecidableEq, Repr

/-- Whether this number of marks fits the rule. -/
def MarkRule.Fits : MarkRule → Nat → Prop
  | all, _ => True
  | oneOrTwo, marks => 1 ≤ marks ∧ marks ≤ 2
  | none, marks => marks = 0

/-- The largest number of marks that fits the rule when so many are there. -/
def MarkRule.most? : MarkRule → Nat → Option Nat
  | all, marks => some marks
  | oneOrTwo, marks => if marks = 0 then Option.none else some (min marks 2)
  | none, _ => some 0

/-- Symbols of an alphabet and marks behind them. -/
structure Pattern where
  alphabet : Alphabet
  marks : MarkRule
  deriving DecidableEq, Repr

/-- The patterns of detection. -/
def patterns : List Pattern :=
  [⟨.standard, .all⟩, ⟨.urlSafe, .all⟩, ⟨.urlSafe, .oneOrTwo⟩, ⟨.urlSafe, .none⟩,
    ⟨.standard, .oneOrTwo⟩, ⟨.standard, .none⟩]

theorem mem_patterns (pattern : Pattern) : pattern ∈ patterns := by
  obtain ⟨alphabet, marks⟩ := pattern
  cases alphabet <;> cases marks <;> decide

namespace Pattern

/-- The words that match a pattern. -/
inductive Matches (pattern : Pattern) : Text → Prop
  | intro {symbols : Text} {marks : Nat} (long : Token.minimumLength ≤ symbols.length)
      (contained : ∀ char ∈ symbols, pattern.alphabet.containsChar char = true)
      (fits : pattern.marks.Fits marks) :
      Matches pattern (symbols ++ List.replicate marks padChar)

/-- What a search with a pattern takes from a text. -/
inductive Finds (pattern : Pattern) : Text → List Text → Prop
  /-- The search is over. -/
  | done : Finds pattern [] []
  /-- No match begins at the first character. -/
  | skip {char : Char} {rest : Text} {words : List Text}
      (nothing : ∀ word, pattern.Matches word → ¬ word <+: char :: rest)
      (others : Finds pattern rest words) : Finds pattern (char :: rest) words
  /-- The longest match that begins at the first character is taken. -/
  | take {text word rest : Text} {words : List Text} (split : text = word ++ rest)
      (isMatch : pattern.Matches word)
      (longest : ∀ other, pattern.Matches other → other <+: text → other.length ≤ word.length)
      (others : Finds pattern rest words) : Finds pattern text (word :: words)

variable {pattern : Pattern} {text word : Text} {words : List Text}

theorem Matches.ne_nil
    (isMatch : pattern.Matches word) :
    word ≠ [] := by
  rintro rfl
  generalize empty : ([] : Text) = word at isMatch
  cases isMatch with
  | intro long _ _ =>
      have lengths := congrArg List.length empty
      simp only [List.length_nil, List.length_append, Token.minimumLength] at lengths long
      omega

/-- Every word that a search takes is a match and a stretch of the text. -/
theorem Finds.matches_and_within
    (finds : pattern.Finds text words)
    (member : word ∈ words) :
    pattern.Matches word ∧ word <:+: text := by
  induction finds with
  | done => cases member
  | skip _ _ inductionHypothesis =>
      obtain ⟨isMatch, within⟩ := inductionHypothesis member
      exact ⟨isMatch, List.infix_cons within⟩
  | take split isMatch _ _ inductionHypothesis =>
      rw [split]
      rcases List.mem_cons.mp member with rfl | inOthers
      · exact ⟨isMatch, (List.prefix_append _ _).isInfix⟩
      · obtain ⟨isMatchToo, within⟩ := inductionHypothesis inOthers
        exact ⟨isMatchToo, within.trans (List.suffix_append _ _).isInfix⟩

/-- A search takes the same words whenever it is made. -/
theorem Finds.unique
    {otherWords : List Text}
    (finds : pattern.Finds text words)
    (findsToo : pattern.Finds text otherWords) :
    words = otherWords := by
  induction finds generalizing otherWords with
  | done =>
      cases findsToo with
      | done => rfl
      | take split isMatch _ _ =>
          exact absurd (List.append_eq_nil_iff.mp split.symm).1 isMatch.ne_nil
  | skip nothing _ inductionHypothesis =>
      cases findsToo with
      | skip _ others => exact inductionHypothesis others
      | take split isMatch _ _ => exact absurd ⟨_, split.symm⟩ (nothing _ isMatch)
  | @take _ word rest _ split isMatch longest _ inductionHypothesis =>
      subst split
      generalize whole : word ++ rest = text at findsToo longest
      cases findsToo with
      | done => exact absurd (List.append_eq_nil_iff.mp whole).1 isMatch.ne_nil
      | skip nothing _ => exact absurd ⟨_, whole⟩ (nothing _ isMatch)
      | @take _ otherWord _ _ splitToo isMatchToo longestToo others =>
          have sameLength := Nat.le_antisymm (longestToo _ isMatch ⟨_, whole⟩)
            (longest _ isMatchToo ⟨_, splitToo.symm⟩)
          obtain ⟨rfl, rfl⟩ := List.append_inj (whole.trans splitToo) sameLength
          rw [inductionHypothesis others]

end Pattern

/-! ## What the runs of a text offer -/

/-- The largest number of marks that fits a rule fits it, and no larger number of those that are
there does. -/
theorem MarkRule.of_most?_eq_some
    {rule : MarkRule}
    {present marks : Nat}
    (found : rule.most? present = some marks) :
    rule.Fits marks ∧ marks ≤ present ∧
      ∀ other, rule.Fits other → other ≤ present → other ≤ marks := by
  cases rule with
  | all =>
      obtain rfl := Option.some.inj found
      exact ⟨trivial, Nat.le_refl _, fun _ _ fewer => fewer⟩
  | oneOrTwo =>
      simp only [most?] at found
      split at found
      next => cases found
      next some =>
        obtain rfl := Option.some.inj found
        refine ⟨⟨by omega, Nat.min_le_right _ _⟩, Nat.min_le_left _ _, fun other fits fewer => ?_⟩
        exact Nat.le_min.mpr ⟨fewer, fits.2⟩
  | none =>
      obtain rfl := Option.some.inj found
      exact ⟨rfl, Nat.zero_le _, fun _ fits _ => Nat.le_of_eq fits⟩

/-- Where there is no largest number of marks, no number that is there fits. -/
theorem MarkRule.of_most?_eq_none
    {rule : MarkRule}
    {present marks : Nat}
    (missing : rule.most? present = Option.none)
    (fits : rule.Fits marks) :
    present < marks := by
  cases rule with
  | all => cases missing
  | oneOrTwo =>
      simp only [most?, ite_eq_left_iff, reduceCtorEq, imp_false, not_not] at missing
      rw [missing]
      exact fits.1
  | none => cases missing

namespace Pattern

/-- What a run offers a search, if anything. -/
def ofRun? (pattern : Pattern) (run : Run) : Option Text :=
  if Token.minimumLength ≤ run.symbols.length then
    (pattern.marks.most? run.marks).map (run.symbols ++ List.replicate · padChar)
  else none

/-- What the runs of a text offer a search. -/
def select (pattern : Pattern) (text : Text) : List Text :=
  (runs pattern.alphabet text).filterMap pattern.ofRun?

/-- A run without symbols offers nothing. -/
theorem ofRun?_of_noSymbols (pattern : Pattern) (marks : Nat) :
    pattern.ofRun? ⟨[], marks⟩ = none :=
  rfl

/-- A run that offers nothing still does without its first symbol. -/
theorem ofRun?_tail
    {pattern : Pattern}
    {char : Char}
    {symbols : Text}
    {marks : Nat}
    (nothing : pattern.ofRun? ⟨char :: symbols, marks⟩ = none) :
    pattern.ofRun? ⟨symbols, marks⟩ = none := by
  rw [ofRun?] at nothing ⊢
  split
  next long =>
    have longer : Token.minimumLength ≤ (char :: symbols).length := Nat.le_succ_of_le long
    rw [if_pos longer, Option.map_eq_none_iff] at nothing
    rw [nothing]
    rfl
  next => rfl

/-- What is no symbol offers nothing, whatever follows. -/
theorem select_cons_of_apart
    {pattern : Pattern}
    {char : Char}
    (apart : pattern.alphabet.containsChar char = false)
    (rest : Text) :
    pattern.select (char :: rest) = pattern.select rest := by
  obtain ⟨next, later, known⟩ := exists_runs_eq_cons pattern.alphabet rest
  rw [select, select, runs, known]
  simp only [apart, Bool.false_eq_true, if_false]
  split
  next =>
    split
    next noSymbols =>
      obtain ⟨symbols, marks⟩ := next
      obtain rfl := List.isEmpty_iff.mp noSymbols
      rfl
    next => rfl
  next => rfl

/-- Marks offer nothing, whatever follows. -/
theorem select_marks_append
    (pattern : Pattern)
    (marks : Nat)
    (rest : Text) :
    pattern.select (List.replicate marks padChar ++ rest) = pattern.select rest := by
  induction marks with
  | zero => rfl
  | succ marks inductionHypothesis =>
      rw [List.replicate_succ, List.cons_append,
        select_cons_of_apart (containsChar_padChar pattern.alphabet), inductionHypothesis]

end Pattern

/-! ## A run at the front of a text -/

/-- A text begins with symbols of an alphabet, behind which stand marks, and both are as many as
possible. -/
structure BeginsWith (alphabet : Alphabet) (text symbols : Text) (marks : Nat) (rest : Text) :
    Prop where
  split : text = symbols ++ (List.replicate marks padChar ++ rest)
  contained : ∀ char ∈ symbols, alphabet.containsChar char = true
  apart : ∀ char ∈ (List.replicate marks padChar ++ rest).head?,
    alphabet.containsChar char = false
  noMark : ∀ char ∈ rest.head?, char ≠ padChar

/-- Every text begins with a run. -/
theorem exists_beginsWith (alphabet : Alphabet) (text : Text) :
    ∃ symbols marks rest, BeginsWith alphabet text symbols marks rest := by
  have marksEq : ∀ after : Text, after.takeWhile (· == padChar) =
      List.replicate (after.takeWhile (· == padChar)).length padChar := by
    intro after
    refine List.eq_replicate_iff.mpr ⟨rfl, fun char member => ?_⟩
    have isMark := List.mem_takeWhile_imp member
    exact beq_iff_eq.mp isMark
  have afterEq := List.takeWhile_append_dropWhile (p := (· == padChar))
    (l := text.dropWhile alphabet.containsChar)
  rw [marksEq] at afterEq
  refine ⟨text.takeWhile alphabet.containsChar,
    ((text.dropWhile alphabet.containsChar).takeWhile (· == padChar)).length,
    (text.dropWhile alphabet.containsChar).dropWhile (· == padChar), ?_, ?_, ?_, ?_⟩
  · rw [afterEq, List.takeWhile_append_dropWhile]
  · exact fun _ => List.mem_takeWhile_imp
  · rw [afterEq]
    intro char first
    have stopped := List.head?_dropWhile_not alphabet.containsChar text
    rw [Option.mem_def.mp first] at stopped
    simpa using stopped
  · intro char first
    have stopped := List.head?_dropWhile_not (· == padChar) (text.dropWhile alphabet.containsChar)
    rw [Option.mem_def.mp first] at stopped
    simpa using stopped

namespace BeginsWith

variable {alphabet : Alphabet} {text symbols rest : Text} {marks : Nat}

/-- The first run of a text that does not begin with a mark has no marks unless it has symbols. -/
theorem marks_eq_zero
    {first : Run}
    {later : List Run}
    (noMark : ∀ char ∈ rest.head?, char ≠ padChar)
    (known : runs alphabet rest = first :: later)
    (noSymbols : first.symbols = []) :
    first.marks = 0 := by
  cases rest with
  | nil =>
      obtain ⟨rfl, -⟩ := List.cons.inj known
      rfl
  | cons char tail =>
      obtain ⟨next, others, knownTail⟩ := exists_runs_eq_cons alphabet tail
      rw [runs, knownTail] at known
      simp only [if_neg (noMark char rfl)] at known
      split at known
      next =>
        obtain ⟨rfl, -⟩ := List.cons.inj known
        cases noSymbols
      next =>
        obtain ⟨rfl, -⟩ := List.cons.inj known
        rfl

/-- Marks in front of a text that does not begin with one are a run without symbols. -/
theorem exists_runs_marks
    (noMark : ∀ char ∈ rest.head?, char ≠ padChar)
    (marks : Nat) :
    ∃ later, runs alphabet (List.replicate (marks + 1) padChar ++ rest) =
      ⟨[], marks + 1⟩ :: later := by
  induction marks with
  | zero =>
      obtain ⟨next, later, known⟩ := exists_runs_eq_cons alphabet rest
      have step : runs alphabet (List.replicate 1 padChar ++ rest) =
          if next.symbols.isEmpty then ⟨[], next.marks + 1⟩ :: later
          else ⟨[], 1⟩ :: next :: later := by
        rw [List.replicate_one, List.singleton_append, runs, known]
        simp only [containsChar_padChar, Bool.false_eq_true, if_false, if_true]
      rw [step]
      split
      next noSymbols =>
        rw [marks_eq_zero noMark known (List.isEmpty_iff.mp noSymbols)]
        exact ⟨_, rfl⟩
      next => exact ⟨_, rfl⟩
  | succ marks inductionHypothesis =>
      obtain ⟨later, known⟩ := inductionHypothesis
      refine ⟨later, ?_⟩
      rw [List.replicate_succ, List.cons_append, runs, known]
      simp only [containsChar_padChar, Bool.false_eq_true, if_false, if_true, List.isEmpty_nil]

/-- The first run of a text has the symbols and the marks that the text begins with. -/
theorem exists_runs
    (begins : BeginsWith alphabet text symbols marks rest) :
    ∃ later, runs alphabet (List.replicate marks padChar ++ rest) = ⟨[], marks⟩ :: later ∧
      runs alphabet text = ⟨symbols, marks⟩ :: later := by
  have afterRuns : ∃ later,
      runs alphabet (List.replicate marks padChar ++ rest) = ⟨[], marks⟩ :: later := by
    cases marks with
    | zero =>
        obtain ⟨marks, later, known⟩ := exists_runs_eq_cons_of_apart begins.apart
        have none := marks_eq_zero begins.noMark known rfl
        dsimp only at none
        rw [none] at known
        exact ⟨later, known⟩
    | succ marks => exact exists_runs_marks begins.noMark marks
  obtain ⟨later, known⟩ := afterRuns
  refine ⟨later, known, ?_⟩
  rw [begins.split, runs_append_symbols begins.contained known, List.append_nil]

/-- A search is offered what the run at the front of a text offers, and then what the rest does. -/
theorem select_eq
    {rule : MarkRule}
    (begins : BeginsWith alphabet text symbols marks rest) :
    (Pattern.mk alphabet rule).select text =
      ((Pattern.mk alphabet rule).ofRun? ⟨symbols, marks⟩).toList ++
        (Pattern.mk alphabet rule).select rest := by
  obtain ⟨later, afterRuns, known⟩ := begins.exists_runs
  rw [← Pattern.select_marks_append _ marks rest, Pattern.select, Pattern.select, afterRuns, known,
    List.filterMap_cons, List.filterMap_cons_none (Pattern.ofRun?_of_noSymbols _ _)]
  cases (Pattern.mk alphabet rule).ofRun? ⟨symbols, marks⟩ <;> rfl

/-- Without the first symbol a text begins with the other symbols. -/
theorem tail
    {char : Char}
    (begins : BeginsWith alphabet (char :: text) (char :: symbols) marks rest) :
    BeginsWith alphabet text symbols marks rest where
  split := (List.cons.inj begins.split).2
  contained := fun other member => begins.contained other (List.mem_cons_of_mem char member)
  apart := begins.apart
  noMark := begins.noMark

/-- Symbols and marks that a text begins with are no more than those of its first run, and marks
among them follow all symbols of that. -/
theorem le_of_prefix
    {otherSymbols : Text}
    {otherMarks : Nat}
    (begins : BeginsWith alphabet text symbols marks rest)
    (contained : ∀ char ∈ otherSymbols, alphabet.containsChar char = true)
    (inFront : otherSymbols ++ List.replicate otherMarks padChar <+: text) :
    otherSymbols.length ≤ symbols.length ∧
      (otherMarks = 0 ∨ otherSymbols = symbols ∧ otherMarks ≤ marks) := by
  have noSymbolBehind : ∀ {char : Char} {others : Text},
      char :: others <+: List.replicate marks padChar ++ rest →
        alphabet.containsChar char = false := by
    rintro char others ⟨behind, joined⟩
    exact begins.apart char (by rw [← joined]; rfl)
  have symbolsInFront : otherSymbols <+: text := (List.prefix_append _ _).trans inFront
  have notMore : otherSymbols <+: symbols := by
    rcases List.prefix_or_prefix_of_prefix symbolsInFront ⟨_, begins.split.symm⟩ with
      notMore | ⟨more, rfl⟩
    · exact notMore
    · cases more with
      | nil => simp
      | cons char others =>
          rw [begins.split, List.prefix_append_right_inj] at symbolsInFront
          have apart := noSymbolBehind symbolsInFront
          rw [contained char (by simp)] at apart
          cases apart
  obtain ⟨more, rfl⟩ := notMore
  refine ⟨by simp, ?_⟩
  cases otherMarks with
  | zero => exact Or.inl rfl
  | succ otherMarks =>
      right
      rw [begins.split, List.append_assoc, List.prefix_append_right_inj] at inFront
      cases more with
      | cons char others =>
          obtain ⟨behind, joined⟩ := inFront
          obtain ⟨rfl, -⟩ := List.cons.inj joined
          have isSymbol := begins.contained padChar (by simp)
          rw [containsChar_padChar] at isSymbol
          cases isSymbol
      | nil =>
          refine ⟨(List.append_nil _).symm, ?_⟩
          by_contra tooMany
          -- One of the marks would be the first character behind all of them.
          obtain ⟨extra, count⟩ := Nat.exists_eq_add_of_lt (Nat.not_le.mp tooMany)
          rw [List.nil_append, count, Nat.add_assoc, ← List.replicate_append_replicate,
            List.prefix_append_right_inj] at inFront
          obtain ⟨behind, joined⟩ := inFront
          exact begins.noMark padChar (by rw [← joined]; rfl) rfl

end BeginsWith

/-! ## Searching -/

namespace Pattern

/-- What a run offers is its symbols, with the largest number of marks that fits. -/
theorem exists_of_ofRun?_eq_some
    {pattern : Pattern}
    {symbols word : Text}
    {marks : Nat}
    (offered : pattern.ofRun? ⟨symbols, marks⟩ = some word) :
    ∃ taken, Token.minimumLength ≤ symbols.length ∧ pattern.marks.most? marks = some taken ∧
      word = symbols ++ List.replicate taken padChar := by
  rw [ofRun?] at offered
  split at offered
  next long =>
    obtain ⟨taken, most, rfl⟩ := Option.map_eq_some_iff.mp offered
    exact ⟨taken, long, most, rfl⟩
  next => cases offered

/-- A run that offers nothing is too short, or no number of its marks fits. -/
theorem lt_of_ofRun?_eq_none
    {pattern : Pattern}
    {symbols : Text}
    {marks fitting : Nat}
    (nothing : pattern.ofRun? ⟨symbols, marks⟩ = none)
    (long : Token.minimumLength ≤ symbols.length)
    (fits : pattern.marks.Fits fitting) :
    marks < fitting := by
  rw [ofRun?, if_pos long, Option.map_eq_none_iff] at nothing
  exact MarkRule.of_most?_eq_none nothing fits

section Search

variable {pattern : Pattern} {text symbols rest : Text} {marks : Nat}

/-- No match at the front of a text is longer than what the first run offers. -/
theorem length_le_of_matches
    {taken : Nat}
    {other : Text}
    (begins : BeginsWith pattern.alphabet text symbols marks rest)
    (most : pattern.marks.most? marks = some taken)
    (isMatch : pattern.Matches other)
    (inFront : other <+: text) :
    other.length ≤ (symbols ++ List.replicate taken padChar).length := by
  cases isMatch with
  | intro long contained fits =>
      obtain ⟨notLonger, noMarks | ⟨-, notMore⟩⟩ := begins.le_of_prefix contained inFront
      · simp only [noMarks, List.length_append, List.length_replicate]
        omega
      · have atMost := (MarkRule.of_most?_eq_some most).2.2 _ fits notMore
        simp only [List.length_append, List.length_replicate]
        omega

/-- No match begins at the front of a text whose first run offers nothing. -/
theorem not_prefix_of_matches
    {other : Text}
    (begins : BeginsWith pattern.alphabet text symbols marks rest)
    (nothing : pattern.ofRun? ⟨symbols, marks⟩ = none)
    (isMatch : pattern.Matches other) :
    ¬ other <+: text := by
  intro inFront
  cases isMatch with
  | intro long contained fits =>
      obtain ⟨notLonger, atMost⟩ := begins.le_of_prefix contained inFront
      have tooMany := lt_of_ofRun?_eq_none nothing (Nat.le_trans long notLonger) fits
      rcases atMost with rfl | ⟨-, notMore⟩ <;> omega

end Search

/-- A search takes what the runs of the text offer it. -/
theorem finds_select (pattern : Pattern) (text : Text) :
    pattern.Finds text (pattern.select text) := by
  induction size : text.length using Nat.strong_induction_on generalizing text with
  | _ size inductionHypothesis =>
  subst size
  obtain ⟨alphabet, rule⟩ := pattern
  obtain ⟨symbols, marks, rest, begins⟩ := exists_beginsWith alphabet text
  cases offered : (Pattern.mk alphabet rule).ofRun? ⟨symbols, marks⟩ with
  | some word =>
      -- The search goes on behind the marks that have been taken; the others offer nothing.
      obtain ⟨taken, long, most, rfl⟩ := exists_of_ofRun?_eq_some offered
      obtain ⟨fits, present, -⟩ := MarkRule.of_most?_eq_some most
      have split : text = symbols ++ List.replicate taken padChar ++
          (List.replicate (marks - taken) padChar ++ rest) := by
        rw [begins.split, List.append_assoc, ← List.append_assoc (List.replicate taken padChar),
          List.replicate_append_replicate, Nat.add_sub_cancel' present]
      have isMatch : (Pattern.mk alphabet rule).Matches (symbols ++ List.replicate taken padChar) :=
        .intro long begins.contained fits
      have shorter : (List.replicate (marks - taken) padChar ++ rest).length < text.length := by
        have nonempty := List.length_pos_iff.mpr isMatch.ne_nil
        have lengths := congrArg List.length split
        rw [List.length_append] at lengths
        omega
      have others := inductionHypothesis _ shorter _ rfl
      rw [select_marks_append] at others
      rw [begins.select_eq, offered]
      exact .take split isMatch (fun _ => length_le_of_matches begins most) others
  | none =>
      have nothing : ∀ word, (Pattern.mk alphabet rule).Matches word → ¬ word <+: text :=
        fun _ => not_prefix_of_matches begins offered
      cases text with
      | nil => exact .done
      | cons char tail =>
          have others := inductionHypothesis _ (Nat.lt_succ_self _) tail rfl
          refine .skip nothing ?_
          cases symbols with
          | nil =>
              have apart : alphabet.containsChar char = false :=
                begins.apart char (by rw [← List.nil_append (_ ++ rest), ← begins.split]; rfl)
              rwa [select_cons_of_apart apart]
          | cons symbol symbols =>
              obtain ⟨rfl, -⟩ := List.cons.inj begins.split
              rw [begins.select_eq, offered]
              rwa [begins.tail.select_eq, ofRun?_tail offered] at others

/-- The words that a search takes are those that the runs of the text offer it. -/
theorem mem_select_iff
    {pattern : Pattern}
    {text word : Text} :
    word ∈ pattern.select text ↔ ∃ words, pattern.Finds text words ∧ word ∈ words := by
  constructor
  · intro member
    exact ⟨_, finds_select pattern text, member⟩
  · rintro ⟨words, finds, member⟩
    rwa [(finds_select pattern text).unique finds]

end Pattern

/-! ## Detection as a search -/

/-- A match has no white space around it. -/
theorem Pattern.Matches.trim
    {pattern : Pattern}
    {word : Text}
    (isMatch : pattern.Matches word) :
    Text.trim word = word := by
  cases isMatch with
  | @intro symbols marks _ contained _ =>
      have allWanted : ∀ char ∈ symbols ++ List.replicate marks padChar,
          Text.isBlank char = false := by
        intro char member
        rcases List.mem_append.mp member with inSymbols | inMarks
        · obtain ⟨value, small, rfl⟩ :=
            Alphabet.exists_symbol_of_containsChar (contained char inSymbols)
          exact pattern.alphabet.textIsBlank_symbol small
        · rw [List.eq_of_mem_replicate inMarks]
          decide
      have nothing : ∀ char ∈ ([] : Text), Text.isBlank char = true := by simp
      have trimmed := trimWhile_surrounded nothing allWanted nothing
      rwa [List.nil_append, List.append_nil] at trimmed

/-- The candidates of a run are what it offers the searches of its alphabet. -/
theorem mem_candidates_iff
    {run : Run}
    {candidate : Text}
    (alphabet : Alphabet) :
    candidate ∈ run.candidates ↔
      ∃ rule, (Pattern.mk alphabet rule).ofRun? run = some candidate := by
  rw [Run.candidates]
  simp only [Pattern.ofRun?]
  split
  next long =>
    simp only [List.mem_cons, List.not_mem_nil, or_false]
    constructor
    · rintro (rfl | rfl | rfl)
      · exact ⟨.all, rfl⟩
      · cases unmarked : run.marks with
        | zero =>
            refine ⟨.none, ?_⟩
            simp [MarkRule.most?]
        | succ marks =>
            refine ⟨.oneOrTwo, ?_⟩
            simp [MarkRule.most?]
      · refine ⟨.none, ?_⟩
        simp [MarkRule.most?]
    · rintro ⟨rule, offered⟩
      obtain ⟨marks, most, rfl⟩ := Option.map_eq_some_iff.mp offered
      cases rule with
      | all =>
          obtain rfl := Option.some.inj most
          exact Or.inl rfl
      | oneOrTwo =>
          rw [MarkRule.most?] at most
          split at most
          next => cases most
          next =>
            obtain rfl := Option.some.inj most
            exact Or.inr (Or.inl rfl)
      | none =>
          obtain rfl := Option.some.inj most
          exact Or.inr (Or.inr (List.append_nil _))
  next => simp

section Detection

variable {text token : Text}

/-- The tokens of a text are the meaningful ones among the mended words that the runs of the text
offer searches. -/
theorem mem_detect_iff_select :
    token ∈ detect text ↔
      isMeaningful token = true ∧
        ∃ pattern : Pattern, ∃ word ∈ pattern.select text, mend word = token := by
  rw [mem_detect_iff]
  refine and_congr_right fun _ => ⟨?_, ?_⟩
  · rintro ⟨alphabet, run, isRun, word, isCandidate, mended⟩
    obtain ⟨rule, offered⟩ := (mem_candidates_iff alphabet).mp isCandidate
    exact ⟨⟨alphabet, rule⟩, word, List.mem_filterMap.mpr ⟨run, isRun, offered⟩, mended⟩
  · rintro ⟨pattern, word, selected, mended⟩
    obtain ⟨run, isRun, offered⟩ := List.mem_filterMap.mp selected
    exact ⟨pattern.alphabet, run, isRun, word, (mem_candidates_iff _).mpr ⟨_, offered⟩, mended⟩

/-- The tokens of a text are the meaningful ones among the words that searches with the six patterns
take, after all rounds of repair and filled up with marks. -/
theorem mem_detect_iff_finds :
    token ∈ detect text ↔
      isMeaningful token = true ∧
        ∃ pattern ∈ patterns, ∃ words, pattern.Finds text words ∧
          ∃ word ∈ words, fillEnd (repair (Text.trim word)) = token := by
  have mended : ∀ {pattern : Pattern} {word : Text}, word ∈ pattern.select text →
      fillEnd (repair (Text.trim word)) = mend word := by
    intro pattern word taken
    have isMatch := ((Pattern.finds_select pattern text).matches_and_within taken).1
    rw [isMatch.trim]
    cases isMatch with
    | intro _ contained _ => exact (mend_eq_fillEnd_repair contained _).symm
  rw [mem_detect_iff_select]
  refine and_congr_right fun _ => ⟨?_, ?_⟩
  · rintro ⟨pattern, word, taken, rfl⟩
    exact ⟨pattern, mem_patterns pattern, _, Pattern.finds_select pattern text, word, taken,
      mended taken⟩
  · rintro ⟨pattern, -, words, finds, word, member, rfl⟩
    have taken := Pattern.mem_select_iff.mpr ⟨words, finds, member⟩
    exact ⟨pattern, word, taken, (mended taken).symm⟩

end Detection

end Base64
end Lockbox
