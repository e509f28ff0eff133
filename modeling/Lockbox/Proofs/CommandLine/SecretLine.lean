import Lockbox.CommandLine.Program
import Lockbox.Proofs.Runs
import Lockbox.Proofs.Text.Trim
import Lockbox.Proofs.Text.Utf8

/-!
# Secrets on the standard input

A secret on the first line is read as it is, whatever ends the line and whatever follows it
(`readSecretLine_of_gives`). A line without a secret is refused before anything else happens
(`run_store_of_isBlankLine`).
-/

namespace Lockbox
namespace CommandLine

/-- The ends of a line: the end of the input, a line feed, and a line feed behind a carriage return.
Anything may follow a line feed. -/
inductive IsLineEnd : Bytes → Prop
  | endOfInput : IsLineEnd []
  | lineFeed (rest : Bytes) : IsLineEnd (0x0A :: rest)
  | carriageReturn (rest : Bytes) : IsLineEnd (0x0D :: 0x0A :: rest)

/-- An input whose first line is the given secret, which can be told from the end of the line. -/
structure Gives (input : Bytes) (secret : Text) : Prop where
  nonempty : secret ≠ []
  noLineFeed : '\n' ∉ secret
  noCarriageReturn : secret.getLast? ≠ some '\r'
  line : ∃ ending, IsLineEnd ending ∧ input = Utf8.encode secret ++ ending

/-- An input on whose first line there is nothing but carriage returns. -/
def IsBlankLine (input : Bytes) : Prop :=
  ∀ byte ∈ input.takeWhile (· != 0x0A), byte = 0x0D

section FirstLine

variable {secret : Text} {input : Bytes}

theorem ne_lineFeed_of_mem_encode
    (noLineFeed : '\n' ∉ secret) :
    ∀ byte ∈ Utf8.encode secret, (byte != 0x0A) = true := by
  intro byte member
  rw [bne_iff_ne]
  rintro rfl
  exact noLineFeed (Utf8.mem_of_mem_encode_of_ascii member (by decide))

/-- The first line of an input that gives a secret is the secret, perhaps with a carriage return
behind it. -/
theorem Gives.firstLine
    (gives : Gives input secret) :
    ∃ returns, (∀ char ∈ returns, (char == '\r') = true) ∧
      input.takeWhile (· != 0x0A) = Utf8.encode (secret ++ returns) := by
  have inLine := ne_lineFeed_of_mem_encode gives.noLineFeed
  obtain ⟨ending, isLineEnd, rfl⟩ := gives.line
  rw [List.takeWhile_append_of_pos inLine]
  cases isLineEnd with
  | endOfInput => exact ⟨[], by simp, by simp⟩
  | lineFeed rest => exact ⟨[], by simp, by simp⟩
  | carriageReturn rest =>
      refine ⟨['\r'], by simp, ?_⟩
      rw [Utf8.encode, Utf8.encode, List.flatMap_append]
      rfl

/-- A secret on the first line is read as it is. -/
theorem readSecretLine_of_gives
    (gives : Gives input secret) :
    readSecretLine input = .ok secret := by
  obtain ⟨returns, allReturns, firstLine⟩ := gives.firstLine
  have trimmed : trimEndWhile (· == '\r') (secret ++ returns) = secret := by
    rw [trimEndWhile_append _ allReturns, trimEndWhile_eq_self_iff]
    intro last isLast
    rw [beq_eq_false_iff_ne]
    rintro rfl
    exact gives.noCarriageReturn isLast
  rw [readSecretLine, firstLine, Utf8.decode_encode]
  dsimp only
  rw [trimmed]
  cases nonempty : secret with
  | nil => exact absurd nonempty gives.nonempty
  | cons char rest => rfl

/-- A line without a secret is refused. -/
theorem readSecretLine_of_isBlankLine
    (isBlankLine : IsBlankLine input) :
    readSecretLine input = .error .noSecretGiven := by
  obtain ⟨count, firstLine⟩ : ∃ count, input.takeWhile (· != 0x0A) = List.replicate count 0x0D :=
    ⟨_, List.eq_replicate_iff.mpr ⟨rfl, isBlankLine⟩⟩
  have ascii : ∀ byte ∈ List.replicate count (0x0D : UInt8), byte.toNat < 0x80 := by
    intro byte member
    rw [List.eq_of_mem_replicate member]
    decide
  have trimmed : trimEndWhile (· == '\r') (Text.ofAscii (List.replicate count 0x0D)) = [] := by
    rw [Text.ofAscii, List.map_replicate, ← List.nil_append (List.replicate count _)]
    exact trimEndWhile_append [] fun char member => by
      rw [List.eq_of_mem_replicate member]
      rfl
  rw [readSecretLine, firstLine, Utf8.decode_ofAscii ascii]
  dsimp only
  rw [trimmed]

end FirstLine

/-- The secret on the standard input is stored as one that is given as an argument. -/
theorem run_store_of_input
    (config : Config)
    (target : Target)
    (machine : Machine) :
    execute config (.store target none) machine =
      match readSecretLine machine.input with
      | .error failure => (.error failure, machine)
      | .ok secret => execute config (.store target (some secret)) machine := by
  simp only [execute]
  rw [run_bind, Action.observe]
  dsimp only
  rw [run_bind, Action.lift]
  cases readSecretLine machine.input <;> rfl

/-- Without a secret on the standard input nothing is stored, and nothing else is done. -/
theorem run_store_of_isBlankLine
    (config : Config)
    (target : Target)
    {machine : Machine}
    (isBlankLine : IsBlankLine machine.input) :
    execute config (.store target none) machine = (.error .noSecretGiven, machine) := by
  rw [run_store_of_input, readSecretLine_of_isBlankLine isBlankLine]

end CommandLine
end Lockbox
