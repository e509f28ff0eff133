import Lockbox.Codec
import Lockbox.Proofs.Envelope

/-!
# One attempt and a second one

Decryption is an attempt at what a buffer stands for and, if the tag of that does not match and it
is a token, one more attempt at what it spells (`decrypt_eq_attempts`). How an attempt ends is told
by `Attempted`.
-/

namespace Lockbox

/-- Taking a payload apart says nothing about its tag. -/
theorem Envelope.parse_ne_authenticationFailure (payload : Bytes) :
    parse payload ≠ .error .authenticationFailure := by
  intro refused
  unfold parse ofBody at refused
  split at refused
  next => split at refused <;> cases refused
  next => cases refused
  next =>
    split at refused
    next => cases refused
    next => split at refused <;> cases refused

namespace Codec

/-! ## Opening -/

/-- A payload that authenticates a plaintext opens to it. -/
theorem openPayload_of_decrypt?
    {cipherKey : CipherKey}
    {payload plaintext : Bytes}
    {envelope : Envelope}
    (nonempty : plaintext ≠ [])
    (parsed : Envelope.parse payload = .ok envelope)
    (opened : envelope.decrypt? cipherKey = some plaintext) :
    openPayload cipherKey payload =
      .ok { plaintext := plaintext, encoded := Base64.Token.wrap plaintext } := by
  simp only [openPayload, parsed, bind, Except.bind, opened, Encoding.present_of_ne_nil nonempty]
  rfl

/-- What is no envelope is refused for what it lacks. -/
theorem openPayload_of_parse_eq_error
    {cipherKey : CipherKey}
    {payload : Bytes}
    {failure : CodecError}
    (refused : Envelope.parse payload = .error failure) :
    openPayload cipherKey payload = .error failure := by
  rw [openPayload, refused]
  rfl

/-- A payload whose tag does not match is refused as tampered with. -/
theorem openPayload_of_closed
    {cipherKey : CipherKey}
    {payload : Bytes}
    {envelope : Envelope}
    (parsed : Envelope.parse payload = .ok envelope)
    (closed : envelope.decrypt? cipherKey = none) :
    openPayload cipherKey payload = .error .authenticationFailure := by
  simp only [openPayload, parsed, bind, Except.bind, closed]
  rfl

/-- The payload of an empty plaintext is refused, as there is nothing to show. -/
theorem openPayload_of_empty
    {cipherKey : CipherKey}
    {payload : Bytes}
    {envelope : Envelope}
    (parsed : Envelope.parse payload = .ok envelope)
    (opened : envelope.decrypt? cipherKey = some []) :
    openPayload cipherKey payload = .error .nothingToEncode := by
  simp only [openPayload, parsed, bind, Except.bind, opened]
  rfl

/-! ## Attempts -/

/-- An attempt at a payload: plaintext key material is given back as it is, and everything else is
opened. -/
def attempt (cipherKey : CipherKey) (payload : Bytes) : Except CodecError Opened :=
  if holdsPlaintext payload then .ok (passThrough payload) else openPayload cipherKey payload

section Attempts

variable {cipherKey : CipherKey} {payload : Bytes}

/-- How an attempt at a payload ends. -/
inductive Attempted (cipherKey : CipherKey) (payload : Bytes) : Except CodecError Opened → Prop
  /-- The payload is plaintext key material. -/
  | passed
      (marked : holdsPlaintext payload = true) :
      Attempted cipherKey payload (.ok (passThrough payload))
  /-- The payload is no envelope. -/
  | malformed {failure : CodecError}
      (unmarked : holdsPlaintext payload = false)
      (refused : Envelope.parse payload = .error failure) :
      Attempted cipherKey payload (.error failure)
  /-- The tag does not match. -/
  | rejected {envelope : Envelope}
      (unmarked : holdsPlaintext payload = false)
      (parsed : Envelope.parse payload = .ok envelope)
      (closed : envelope.decrypt? cipherKey = none) :
      Attempted cipherKey payload (.error .authenticationFailure)
  /-- The tag matches, but there is no plaintext that could be shown. -/
  | hollow {envelope : Envelope}
      (unmarked : holdsPlaintext payload = false)
      (parsed : Envelope.parse payload = .ok envelope)
      (opened : envelope.decrypt? cipherKey = some []) :
      Attempted cipherKey payload (.error .nothingToEncode)
  /-- The tag matches. -/
  | opened {envelope : Envelope} {plaintext : Bytes}
      (unmarked : holdsPlaintext payload = false)
      (parsed : Envelope.parse payload = .ok envelope)
      (opened : envelope.decrypt? cipherKey = some plaintext)
      (nonempty : plaintext ≠ []) :
      Attempted cipherKey payload
        (.ok { plaintext := plaintext, encoded := Base64.Token.wrap plaintext })

theorem attempt_of_holdsPlaintext
    (marked : holdsPlaintext payload = true) :
    attempt cipherKey payload = .ok (passThrough payload) := by
  rw [attempt, if_pos marked]

theorem attempt_of_unmarked
    (unmarked : holdsPlaintext payload = false) :
    attempt cipherKey payload = openPayload cipherKey payload := by
  rw [attempt, if_neg (by simp [unmarked])]

/-- Every attempt ends in one of these ways. -/
theorem attempted_attempt (cipherKey : CipherKey) (payload : Bytes) :
    Attempted cipherKey payload (attempt cipherKey payload) := by
  cases marked : holdsPlaintext payload with
  | true =>
      rw [attempt_of_holdsPlaintext marked]
      exact .passed marked
  | false =>
      rw [attempt_of_unmarked marked]
      cases parsed : Envelope.parse payload with
      | error failure =>
          rw [openPayload_of_parse_eq_error parsed]
          exact .malformed marked parsed
      | ok envelope =>
          cases opened : envelope.decrypt? cipherKey with
          | none =>
              rw [openPayload_of_closed parsed opened]
              exact .rejected marked parsed opened
          | some plaintext =>
              by_cases empty : plaintext = []
              · subst empty
                rw [openPayload_of_empty parsed opened]
                exact .hollow marked parsed opened
              · rw [openPayload_of_decrypt? empty parsed opened]
                exact .opened marked parsed opened empty

/-- A payload is an envelope whose tag matches under a key, and holds the plaintext. -/
def Authenticates (cipherKey : CipherKey) (payload plaintext : Bytes) : Prop :=
  ∃ envelope, Envelope.parse payload = .ok envelope ∧ envelope.decrypt? cipherKey = some plaintext

/-- A payload is an envelope whose tag does not match under a key. -/
def Refuses (cipherKey : CipherKey) (payload : Bytes) : Prop :=
  ∃ envelope, Envelope.parse payload = .ok envelope ∧ envelope.decrypt? cipherKey = none

/-- A payload backs a plaintext: it holds the marker of plaintext key material and is the plaintext,
or it holds no marker and authenticates the plaintext. -/
def Backs (cipherKey : CipherKey) (payload plaintext : Bytes) : Prop :=
  (holdsPlaintext payload = true ∧ payload = plaintext) ∨
    (holdsPlaintext payload = false ∧ Authenticates cipherKey payload plaintext)

/-- An attempt at a payload gives what the payload backs, unless that is empty. -/
theorem attempt_eq_ok_iff
    {plaintext : Bytes} :
    (attempt cipherKey payload).map Opened.plaintext = .ok plaintext ↔
      plaintext ≠ [] ∧ Backs cipherKey payload plaintext := by
  have ended := attempted_attempt cipherKey payload
  generalize attempt cipherKey payload = outcome at ended ⊢
  cases ended with
  | passed marked =>
      have nonempty : payload ≠ [] := by
        rintro rfl
        cases marked
      simp only [Backs, marked, Except.map, passThrough]
      constructor
      · rintro ⟨⟩
        exact ⟨nonempty, Or.inl ⟨trivial, rfl⟩⟩
      · rintro ⟨-, ⟨-, rfl⟩ | ⟨impossible, -⟩⟩
        · rfl
        · cases impossible
  | malformed unmarked refused => simp [Backs, Authenticates, unmarked, refused, Except.map]
  | rejected unmarked parsed closed =>
      simp [Backs, Authenticates, unmarked, parsed, closed, Except.map]
  | hollow unmarked parsed opened =>
      simp [Backs, Authenticates, unmarked, parsed, opened, Except.map, eq_comm]
  | opened unmarked parsed opened nonempty =>
      simp only [Backs, Authenticates, unmarked, parsed, Except.map]
      constructor
      · rintro ⟨⟩
        exact ⟨nonempty, Or.inr ⟨trivial, _, rfl, opened⟩⟩
      · rintro ⟨-, ⟨impossible, -⟩ | ⟨-, _, ⟨⟩, openedAgain⟩⟩
        · cases impossible
        · rw [Option.some.inj (opened.symm.trans openedAgain)]

/-- An attempt at a payload reports that its tag does not match exactly if that is so. -/
theorem attempt_eq_authenticationFailure_iff :
    attempt cipherKey payload = .error .authenticationFailure ↔
      holdsPlaintext payload = false ∧ Refuses cipherKey payload := by
  have ended := attempted_attempt cipherKey payload
  generalize attempt cipherKey payload = outcome at ended ⊢
  cases ended with
  | passed marked => simp [marked]
  | @malformed failure unmarked refused =>
      have noTag : failure ≠ .authenticationFailure := by
        rintro rfl
        exact Envelope.parse_ne_authenticationFailure payload refused
      simp [Refuses, refused, noTag]
  | rejected unmarked parsed closed => simp [Refuses, unmarked, parsed, closed]
  | hollow unmarked parsed opened => simp [Refuses, parsed, opened]
  | opened unmarked parsed opened => simp [Refuses, parsed, opened]

end Attempts

/-- Decryption of what is not blank under a key that can be used: the buffer is unwrapped, and if
the tag of what it stands for does not match, that is unwrapped once more. -/
theorem decrypt_eq_attempts
    {data key : Bytes}
    {cipherKey : CipherKey}
    (notBlank : Bytes.trim data ≠ [])
    (resolved : Key.resolve key = .ok cipherKey) :
    decrypt data key =
      match attempt cipherKey (Base64.Token.unwrap (Bytes.trim data)),
        Base64.Token.decode? (Base64.Token.unwrap (Bytes.trim data)) with
      | .error .authenticationFailure, some inner => attempt cipherKey inner
      | outcome, _ => outcome := by
  have notEmpty : ¬ (Bytes.trim data).isEmpty = true := by simpa using notBlank
  rw [decrypt, if_neg notEmpty]
  dsimp only
  cases marked : holdsPlaintext (Base64.Token.unwrap (Bytes.trim data)) with
  | true =>
      rw [attempt_of_holdsPlaintext marked]
      rfl
  | false =>
      rw [attempt_of_unmarked marked, resolved]
      dsimp only
      cases openPayload cipherKey (Base64.Token.unwrap (Bytes.trim data)) with
      | ok opened => rfl
      | error failure =>
          cases failure <;>
            cases Base64.Token.decode? (Base64.Token.unwrap (Bytes.trim data)) <;> rfl

end Codec
end Lockbox
