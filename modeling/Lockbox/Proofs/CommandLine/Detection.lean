import Lockbox.CommandLine.Program
import Lockbox.Proofs.Base64.Composition
import Lockbox.Proofs.Runs

/-!
# Detection on the command line

Words of a command are put together with a blank between any two. A blank separates, so the tokens
that are printed are those of the single words (`run_detect`).
-/

namespace Lockbox

/-- Lines that are printed one after the other. -/
theorem run_forM_printLine
    {ε : Type}
    (lines : List Text)
    (machine : Machine) :
    (lines.forM Action.printLine : Action ε Unit) machine =
      (.ok (), { machine with output := machine.output ++ lines.flatMap (· ++ ['\n']) }) := by
  induction lines generalizing machine with
  | nil =>
      rw [List.flatMap_nil, List.append_nil]
      rfl
  | cons line others inductionHypothesis =>
      have steps : ((line :: others).forM Action.printLine : Action ε Unit) =
          Action.printLine line >>= fun _ => others.forM Action.printLine := rfl
      have printed : (Action.printLine line : Action ε Unit) machine =
          (.ok (), { machine with output := machine.output ++ line ++ ['\n'] }) := rfl
      rw [steps, run_bind_of_ok printed, inductionHypothesis, List.flatMap_cons]
      simp only [List.append_assoc]

namespace CommandLine

/-- The words of a command are searched as if each stood alone, and their tokens are printed one in
a line. -/
theorem run_detect
    (config : Config)
    (words : List Text)
    (machine : Machine) :
    ∃ tokens, Base64.IsSortedUnion (words.map Base64.detect) tokens ∧
      execute config (.detect words) machine =
        (.ok (), { machine with
          output := machine.output ++ tokens.flatMap (· ++ ['\n']) }) :=
  ⟨_, Base64.isSortedUnion_detect_intercalate (by decide) words, run_forM_printLine _ machine⟩

/-- A character that no match contains separates: a search takes from a text what it takes in front
of the character and behind it, and the tokens of the text are those of the two parts, in increasing
order and none twice. So the command that detects tokens prints those of its single words. A text
holds a token exactly when one is detected in it, with white space around it or without. -/
theorem detection_compositional :
    (∀ (pattern : Base64.Pattern) before after char words otherWords, Base64.Separates char →
      pattern.Finds before words → pattern.Finds after otherWords →
        pattern.Finds (before ++ char :: after) (words ++ otherWords)) ∧
    (∀ before after char, Base64.Separates char →
      Base64.IsSortedUnion [Base64.detect before, Base64.detect after]
        (Base64.detect (before ++ char :: after))) ∧
    (∀ config words machine, ∃ tokens,
      Base64.IsSortedUnion (words.map Base64.detect) tokens ∧
        execute config (.detect words) machine =
          (.ok (), { machine with
            output := machine.output ++ tokens.flatMap (· ++ ['\n']) })) ∧
    (∀ text, Base64.holdsToken text = true ↔ Base64.detect text ≠ []) ∧
    ∀ before text after,
      (∀ char ∈ before, Text.isBlank char = true) → (∀ char ∈ after, Text.isBlank char = true) →
        (Base64.holdsToken (before ++ text ++ after) = true ↔ Base64.detect text ≠ []) := by
  refine ⟨fun _ _ _ _ _ _ separates finds findsToo => finds.append_cons separates findsToo,
    fun before after _ separates => Base64.isSortedUnion_detect separates before after,
    run_detect, Base64.holdsToken_iff, fun before text after blankBefore blankAfter => ?_⟩
  rw [Base64.holdsToken_iff, Base64.detect_surrounded blankBefore blankAfter]

/-- A word that is a token. -/
def wholeWord : Text :=
  "QUJDREVGR0hJSktM".toList

/-- A word whose end is mended. -/
def brokenWord : Text :=
  "QUJDREVGR0hJSkt__".toList

theorem detection_compositional_twoWords :
    Base64.Separates ' ' ∧
      (Base64.Pattern.mk .urlSafe .none).Finds (wholeWord ++ ' ' :: brokenWord)
        [wholeWord, brokenWord] ∧
      Base64.IsSortedUnion [[wholeWord], ["QUJDREVGR0hJSkt/".toList]]
        (Base64.detect (wholeWord ++ ' ' :: brokenWord)) ∧
      Base64.holdsToken ([' '] ++ wholeWord ++ ['\n']) = true := by
  have separates : Base64.Separates ' ' := by decide
  have blank : ∀ char, char = ' ' ∨ char = '\n' → Text.isBlank char = true := by
    rintro char (rfl | rfl) <;> rfl
  have inWhole : Base64.detect wholeWord = [wholeWord] := by decide +kernel
  have inBroken : Base64.detect brokenWord = ["QUJDREVGR0hJSkt/".toList] := by decide +kernel
  obtain ⟨searches, unions, -, -, trimmed⟩ := detection_compositional
  have finds := searches (.mk .urlSafe .none) wholeWord brokenWord ' ' _ _ separates
    (Base64.Pattern.finds_select _ _) (Base64.Pattern.finds_select _ _)
  have union := unions wholeWord brokenWord ' ' separates
  rw [inWhole, inBroken] at union
  have holds := trimmed [' '] wholeWord ['\n']
    (fun char member => blank char (Or.inl (List.mem_singleton.mp member)))
    (fun char member => blank char (Or.inr (List.mem_singleton.mp member)))
  rw [inWhole] at holds
  exact ⟨separates, finds, union, holds.mpr (List.cons_ne_nil _ _)⟩

end CommandLine
end Lockbox
