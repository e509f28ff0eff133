import Lockbox.Proofs.MasterKey.KeyFile

/-!
# Keys in a keyring

A new key is handed out only after it has been read back from the keyring through an entry opened
afresh, so whichever calls of the keyring go wrong, a key that is handed out can be had again
(`resolve_keyring_durable`), in particular by the next process (`run_ofKeyring_again`). A key is
written only where the keyring keeps nothing, and nothing else is ever changed in it (`Obtains`).
-/

namespace Lockbox

/-! ## Keyrings -/

namespace Keyring

variable {keyring changed : Keyring} {name other : KeyringName} {secret : Bytes} {text : Text}

theorem find?_keep_self : (keyring.keep name secret).find? name = some secret := by
  simp [find?, keep]

theorem find?_keep_of_ne (different : other ≠ name) :
    (keyring.keep name secret).find? other = keyring.find? other := by
  have skipped : (other == name) = false := by simpa using different
  rw [find?, keep, List.lookup_cons, skipped]
  exact lookup_filter_ne keyring.entries different

/-- Writing to an entry changes no other one, whatever becomes of it. -/
theorem find?_write_of_ne (different : other ≠ name) :
    (keyring.write name secret).2.find? other = keyring.find? other := by
  unfold write
  split
  next => exact find?_keep_of_ne different
  next fault _ =>
    cases fault.kept with
    | none => rfl
    | some replacement => exact find?_keep_of_ne different

theorem textOf_of_find? (found : keyring.find? name = some (Utf8.encode text)) :
    keyring.textOf name = .ok text := by
  simp [textOf, found]

/-- A text that is given is kept. -/
theorem find?_of_textOf_eq_ok (given : keyring.textOf name = .ok text) :
    keyring.find? name = some (Utf8.encode text) := by
  unfold textOf at given
  split at given
  next => cases given
  next secret found =>
    split at given
    next decoded =>
      cases given
      rw [found, Utf8.encode_of_decode_eq_ok decoded]
    next => cases given

/-- No entry is only reported where there is none. -/
theorem find?_of_textOf_eq_noEntry (given : keyring.textOf name = .error .noEntry) :
    keyring.find? name = none := by
  unfold textOf at given
  split at given
  next missing => exact missing
  next => split at given <;> cases given

/-- What a fresh entry of a name gives, if it can be opened and read, and the keyring after that. -/
def look (keyring : Keyring) (name : KeyringName) : Except KeyringError Text × Keyring :=
  match keyring.openEntry with
  | (.ok (), opened) => opened.read name
  | (.error failure, refused) => (.error failure, refused)

/-- The next entry of a keyring can be opened, and after that it can be read. -/
structure Serves (keyring : Keyring) : Prop where
  opens : keyring.faults.opening keyring.calls = none
  reads : keyring.faults.reading (keyring.calls + 1) = none

/-- None of the calls of a keyring goes wrong. -/
def Healthy (keyring : Keyring) : Prop :=
  keyring.faults = {}

theorem Healthy.called (healthy : keyring.Healthy) : keyring.called.Healthy :=
  healthy

theorem Healthy.serves (healthy : keyring.Healthy) : keyring.Serves := by
  constructor <;> rw [healthy]

theorem Healthy.write_eq (healthy : keyring.Healthy) :
    keyring.write name secret = (.ok (), (keyring.keep name secret).called) := by
  rw [write, healthy]

theorem look_of_serves (serves : keyring.Serves) (name : KeyringName) :
    keyring.look name = (keyring.textOf name, keyring.called.called) := by
  obtain ⟨opens, reads⟩ := serves
  rw [look, openEntry, opens]
  dsimp only
  rw [read, show keyring.called.faults.reading keyring.called.calls = none from reads]
  rfl

/-- A look gives what the keyring keeps, unless the keyring fails in words of its own. -/
theorem look_cases (keyring : Keyring) (name : KeyringName) :
    (keyring.Serves ∧ keyring.look name = (keyring.textOf name, keyring.called.called)) ∨
      ∃ wording calls,
        keyring.look name = (.error (.failed wording), { keyring with calls := calls }) := by
  cases opening : keyring.faults.opening keyring.calls with
  | some wording =>
      right
      rw [look, openEntry, opening]
      exact ⟨_, _, rfl⟩
  | none =>
      cases reading : keyring.faults.reading (keyring.calls + 1) with
      | none => exact Or.inl ⟨⟨opening, reading⟩, look_of_serves ⟨opening, reading⟩ name⟩
      | some wording =>
          right
          rw [look, openEntry, opening]
          dsimp only
          rw [read, show keyring.called.faults.reading keyring.called.calls = some wording
            from reading]
          exact ⟨_, _, rfl⟩

/-- A look changes nothing that is kept. -/
theorem exists_calls_of_look (keyring : Keyring) (name : KeyringName) :
    ∃ calls, (keyring.look name).2 = { keyring with calls := calls } := by
  rcases look_cases keyring name with ⟨-, looked⟩ | ⟨wording, calls, looked⟩
  · rw [looked]
    exact ⟨_, rfl⟩
  · rw [looked]
    exact ⟨_, rfl⟩

@[simp] theorem find?_look : (keyring.look other).2.find? name = keyring.find? name := by
  obtain ⟨calls, same⟩ := exists_calls_of_look keyring other
  rw [same]
  rfl

/-- A keyring that does not fail in words of its own has served, and gives what it keeps. -/
theorem serves_of_look
    {outcome : Except KeyringError Text}
    (looked : (keyring.look name).1 = outcome)
    (answered : ∀ wording, outcome ≠ .error (.failed wording)) :
    keyring.Serves ∧ keyring.textOf name = outcome := by
  rcases look_cases keyring name with ⟨serves, same⟩ | ⟨wording, calls, same⟩
  · rw [same] at looked
    exact ⟨serves, looked⟩
  · rw [same] at looked
    exact absurd looked.symm (answered wording)

/-- A text that a fresh entry gives is kept, and the keyring has served. -/
theorem of_look_eq_ok (looked : (keyring.look name).1 = .ok text) :
    keyring.Serves ∧ keyring.find? name = some (Utf8.encode text) :=
  (serves_of_look looked (by simp)).imp_right find?_of_textOf_eq_ok

/-- No entry is reported only where there is none, by a keyring that has served. -/
theorem of_look_eq_noEntry (looked : (keyring.look name).1 = .error .noEntry) :
    keyring.Serves ∧ keyring.find? name = none :=
  (serves_of_look looked (by simp)).imp_right find?_of_textOf_eq_noEntry

end Keyring

namespace MasterKey

/-! ## What asking a keyring for a key does -/

/-- All that asking a keyring for the key of a name can do to a machine: how it can end, and the
machine after it. -/
inductive Obtains (name : KeyringName) (before : Machine) :
    Except KeyError MasterKey → Machine → Prop
  /-- The entry cannot be opened or read. -/
  | unread {failure : KeyringError}
      (unreadable : (before.keyring.look name).1 = .error failure)
      (there : failure ≠ .noEntry) :
      Obtains name before (.error (.keyring failure))
        { before with keyring := (before.keyring.look name).2 }
  /-- What the keyring keeps gives the key or not. -/
  | read {text : Text} {outcome : Except KeyError MasterKey}
      (found : (before.keyring.look name).1 = .ok text)
      (parsed : ofText text .keyring = outcome) :
      Obtains name before outcome { before with keyring := (before.keyring.look name).2 }
  /-- There is no entry, and no new key is known to be kept. -/
  | failed {failure : KeyError} {rest : RandomSource} {keyring : Keyring}
      (missing : before.keyring.find? name = none)
      (spared : ∀ other, other ≠ name → keyring.find? other = before.keyring.find? other) :
      Obtains name before (.error failure) { before with random := rest, keyring := keyring }
  /-- There is no entry, and a new key is kept in one. -/
  | kept {bytes : FixedBytes 32} {rest : RandomSource} {keyring : Keyring}
      (missing : before.keyring.find? name = none)
      (spared : ∀ other, other ≠ name → keyring.find? other = before.keyring.find? other)
      (found : keyring.find? name =
        some (Utf8.encode (Text.ofAscii (encode ⟨bytes, .keyring⟩)))) :
      Obtains name before (.ok ⟨bytes, .keyring⟩)
        { before with random := rest, keyring := keyring }

/-- What the check of a new key comes to, by what a fresh entry gives. -/
def keptOutcome (name : KeyringName) (key : MasterKey) :
    Except KeyringError Text → Except KeyError Unit
  | .error failure => .error (.notPersisted name (some failure))
  | .ok text =>
    if text = Text.ofAscii key.encode then .ok () else .error (.notPersisted name none)

theorem keptOutcome_eq_ok_iff
    {name : KeyringName}
    {key : MasterKey}
    {looked : Except KeyringError Text} :
    keptOutcome name key looked = .ok () ↔ looked = .ok (Text.ofAscii key.encode) := by
  cases looked with
  | error failure => simp [keptOutcome]
  | ok text =>
      rw [keptOutcome]
      split
      next same => simp [same]
      next different => simpa using different

section Runs

variable {name : KeyringName} {machine : Machine}

/-- Whether a new key is kept depends on what a fresh entry gives. -/
theorem run_verifyKept (name : KeyringName) (key : MasterKey) (machine : Machine) :
    verifyKept name key machine =
      (keptOutcome name key (machine.keyring.look name).1,
        { machine with keyring := (machine.keyring.look name).2 }) := by
  rw [verifyKept, run_bind, Action.mapError, Action.tryKeyring, Keyring.look]
  cases machine.keyring.openEntry with
  | mk outcome opened =>
      cases outcome with
      | error failure => rfl
      | ok =>
          dsimp only [Except.mapError]
          rw [run_bind, Action.mapError, Action.tryKeyring]
          dsimp only
          cases opened.read name with
          | mk outcome after =>
              cases outcome with
              | error failure => rfl
              | ok text =>
                  dsimp only [Except.mapError, keptOutcome]
                  split <;> rfl

/-- A new key is handed out if the keyring takes it and a fresh entry gives it again. -/
theorem run_keepNew (name : KeyringName) (machine : Machine) :
    keepNew name machine =
      match machine.random.draw 32 with
      | (none, rest) => (.error .generation, { machine with random := rest })
      | (some bytes, rest) =>
        match machine.keyring.write name (encode ⟨bytes, .keyring⟩) with
        | (.error failure, changed) =>
          (.error (.keyring failure), { machine with random := rest, keyring := changed })
        | (.ok (), changed) =>
          ((keptOutcome name ⟨bytes, .keyring⟩ (changed.look name).1).map
              fun _ => ⟨bytes, .keyring⟩,
            { machine with random := rest, keyring := (changed.look name).2 }) := by
  rw [keepNew, run_bind, run_generate]
  cases machine.random.draw 32 with
  | mk outcome rest =>
      cases outcome with
      | none => rfl
      | some bytes =>
          dsimp only
          rw [run_bind, Action.mapError, Action.tryKeyring]
          dsimp only
          cases machine.keyring.write name (encode ⟨bytes, .keyring⟩) with
          | mk outcome changed =>
              cases outcome with
              | error failure => rfl
              | ok =>
                  dsimp only [Except.mapError]
                  rw [run_bind, run_verifyKept]
                  dsimp only
                  cases keptOutcome name ⟨bytes, .keyring⟩ (changed.look name).1 <;> rfl

/-- What happens to a request for a key depends on what a fresh entry gives. -/
theorem run_ofKeyring (name : KeyringName) (machine : Machine) :
    ofKeyring name machine =
      let looked := { machine with keyring := (machine.keyring.look name).2 }
      match (machine.keyring.look name).1 with
      | .ok text => (ofText text .keyring, looked)
      | .error .noEntry => keepNew name looked
      | .error failure => (.error (.keyring failure), looked) := by
  rw [ofKeyring, run_bind, Action.mapError, Action.tryKeyring, Keyring.look, Keyring.openEntry]
  cases machine.keyring.faults.opening machine.keyring.calls with
  | some wording => rfl
  | none =>
      dsimp only [Except.mapError]
      rw [run_bind, Action.attempt, Action.tryKeyring]
      dsimp only
      cases machine.keyring.called.read name with
      | mk outcome after =>
          cases outcome with
          | ok text => rfl
          | error failure => cases failure <;> rfl

/-- An entry that cannot be opened or read gives no key. -/
theorem run_ofKeyring_of_unread
    {failure : KeyringError}
    (unreadable : (machine.keyring.look name).1 = .error failure)
    (there : failure ≠ .noEntry) :
    ofKeyring name machine =
      (.error (.keyring failure), { machine with keyring := (machine.keyring.look name).2 }) := by
  rw [run_ofKeyring, unreadable]
  cases failure with
  | noEntry => exact absurd rfl there
  | _ => rfl

/-- A text that is read is all that the key depends on. -/
theorem run_ofKeyring_of_read
    {text : Text}
    (found : (machine.keyring.look name).1 = .ok text) :
    ofKeyring name machine =
      (ofText text .keyring, { machine with keyring := (machine.keyring.look name).2 }) := by
  rw [run_ofKeyring, found]

/-- A new key is made where an entry is missing. -/
theorem run_ofKeyring_of_missing
    (missing : (machine.keyring.look name).1 = .error .noEntry) :
    ofKeyring name machine =
      keepNew name { machine with keyring := (machine.keyring.look name).2 } := by
  rw [run_ofKeyring, missing]

/-- Giving a new key to a keyring that has no entry for it is a way to ask for a key. -/
theorem obtains_keepNew
    {opened : Keyring}
    (missing : machine.keyring.find? name = none)
    (same : ∀ other, opened.find? other = machine.keyring.find? other) :
    Obtains name machine (keepNew name { machine with keyring := opened }).1
      (keepNew name { machine with keyring := opened }).2 := by
  rw [run_keepNew]
  dsimp only
  cases machine.random.draw 32 with
  | mk outcome rest =>
      cases outcome with
      | none => exact .failed missing fun other _ => same other
      | some bytes =>
          have spared (other : KeyringName) (different : other ≠ name) :
              (opened.write name (encode ⟨bytes, .keyring⟩)).2.find? other =
                machine.keyring.find? other := by
            rw [Keyring.find?_write_of_ne different, same]
          dsimp only
          cases written : opened.write name (encode ⟨bytes, .keyring⟩) with
          | mk outcome changed =>
              rw [written] at spared
              cases outcome with
              | error failure => exact .failed missing spared
              | ok =>
                  dsimp only
                  have sparedAfter (other : KeyringName) (different : other ≠ name) :
                      (changed.look name).2.find? other = machine.keyring.find? other := by
                    rw [Keyring.find?_look, spared other different]
                  cases verdict : keptOutcome name ⟨bytes, .keyring⟩ (changed.look name).1 with
                  | error failure => exact .failed missing sparedAfter
                  | ok =>
                      refine .kept missing sparedAfter ?_
                      rw [Keyring.find?_look]
                      exact (Keyring.of_look_eq_ok (keptOutcome_eq_ok_iff.mp verdict)).2

/-- Asking a keyring for a key does one of these things. -/
theorem obtains_ofKeyring (name : KeyringName) (machine : Machine) :
    Obtains name machine (ofKeyring name machine).1 (ofKeyring name machine).2 := by
  cases looked : (machine.keyring.look name).1 with
  | ok text =>
      rw [run_ofKeyring_of_read looked]
      exact .read looked rfl
  | error failure =>
      by_cases absent : failure = .noEntry
      · subst absent
        rw [run_ofKeyring_of_missing looked]
        exact obtains_keepNew (Keyring.of_look_eq_noEntry looked).2 fun _ => Keyring.find?_look
      · rw [run_ofKeyring_of_unread looked absent]
        exact .unread looked absent

/-- A keyring that has handed out a key has served. -/
theorem serves_of_ofKeyring_eq_ok
    {key : MasterKey}
    {after : Machine}
    (had : ofKeyring name machine = (.ok key, after)) :
    machine.keyring.Serves := by
  rcases Keyring.look_cases machine.keyring name with ⟨serves, -⟩ | ⟨wording, calls, looked⟩
  · exact serves
  · rw [run_ofKeyring_of_unread (congrArg Prod.fst looked) (by simp)] at had
    cases (Prod.mk.inj had).1

/-- A keyring that serves gives the key of the text that it keeps. -/
theorem run_ofKeyring_of_serves
    {key : MasterKey}
    {text : Text}
    (serves : machine.keyring.Serves)
    (found : machine.keyring.find? name = some (Utf8.encode text))
    (parsed : parse text .keyring = .ok key) :
    ofKeyring name machine =
      (.ok key, { machine with keyring := machine.keyring.called.called }) := by
  have looked := Keyring.look_of_serves serves name
  rw [Keyring.textOf_of_find? found] at looked
  rw [run_ofKeyring_of_read (congrArg Prod.fst looked), looked, ofText_eq_ok_iff.mpr parsed]

end Runs

namespace Obtains

variable {name other : KeyringName} {before after : Machine} {outcome : Except KeyError MasterKey}

/-- What the keyring keeps, under whatever name, it goes on keeping. -/
theorem find?_eq_some
    {secret : Bytes}
    (obtains : Obtains name before outcome after)
    (found : before.keyring.find? other = some secret) :
    after.keyring.find? other = some secret := by
  have elsewhere (missing : before.keyring.find? name = none) : other ≠ name := by
    rintro rfl
    cases missing.symm.trans found
  cases obtains with
  | unread => exact Keyring.find?_look.trans found
  | read => exact Keyring.find?_look.trans found
  | failed missing spared => rw [spared other (elsewhere missing), found]
  | kept missing spared => rw [spared other (elsewhere missing), found]

/-- Only random bytes are taken, and only the keyring is changed. -/
theorem files_eq (obtains : Obtains name before outcome after) : after.files = before.files := by
  cases obtains <;> rfl

/-- A key that is handed out is kept in the keyring. -/
theorem exists_text
    {key : MasterKey}
    (obtains : Obtains name before (.ok key) after) :
    ∃ text, after.keyring.find? name = some (Utf8.encode text) ∧
      parse text .keyring = .ok key := by
  cases obtains with
  | read looked parsed =>
      have found := (Keyring.of_look_eq_ok looked).2
      exact ⟨_, Keyring.find?_look.trans found, ofText_eq_ok_iff.mp parsed⟩
  | kept missing spared found => exact ⟨_, found, parse_encode _ _⟩

end Obtains

/-- A key that has been handed out is had again, by this process or another one, from a keyring
that serves and keeps the same under the name. -/
theorem run_ofKeyring_again
    {name : KeyringName}
    {key : MasterKey}
    {before after later : Machine}
    (had : ofKeyring name before = (.ok key, after))
    (serves : later.keyring.Serves)
    (same : later.keyring.find? name = after.keyring.find? name) :
    ofKeyring name later = (.ok key, { later with keyring := later.keyring.called.called }) := by
  have obtains := obtains_ofKeyring name before
  rw [had] at obtains
  obtain ⟨text, found, parsed⟩ := obtains.exists_text
  exact run_ofKeyring_of_serves serves (same.trans found) parsed

end MasterKey

namespace KeyProvider

open MasterKey

theorem run_resolve_keyring (name : KeyringName) (machine : Machine) :
    (keyring name).resolve machine =
      ((ofKeyring name machine).1.map fun key => (key, keyring name),
        (ofKeyring name machine).2) := by
  rw [resolve, run_bind]
  cases ofKeyring name machine with
  | mk outcome after => cases outcome <;> rfl

theorem of_resolve_keyring_eq_ok
    {name : KeyringName}
    {key : MasterKey}
    {provider : KeyProvider}
    {machine after : Machine}
    (resolved : (keyring name).resolve machine = (.ok (key, provider), after)) :
    provider = keyring name ∧ ofKeyring name machine = (.ok key, after) := by
  rw [resolve] at resolved
  obtain ⟨other, final, had, ended⟩ := exists_of_bind_eq_ok resolved
  cases ended
  exact ⟨rfl, had⟩

/-- A new key that the keyring has taken is handed out exactly if a fresh entry gives its text. -/
theorem resolve_eq_ok_iff_of_written
    {name : KeyringName}
    {before : Machine}
    {bytes : FixedBytes 32}
    {rest : RandomSource}
    {changed : Keyring}
    (missing : (before.keyring.look name).1 = .error .noEntry)
    (drawn : before.random.draw 32 = (some bytes, rest))
    (written : (before.keyring.look name).2.write name (encode ⟨bytes, .keyring⟩) =
      (.ok (), changed)) :
    ((keyring name).resolve before).1 = .ok (⟨bytes, .keyring⟩, keyring name) ↔
      (changed.look name).1 = .ok (Text.ofAscii (encode ⟨bytes, .keyring⟩)) := by
  rw [run_resolve_keyring, run_ofKeyring_of_missing missing, run_keepNew]
  dsimp only
  rw [drawn]
  dsimp only
  rw [written, ← keptOutcome_eq_ok_iff]
  dsimp only
  cases keptOutcome name ⟨bytes, .keyring⟩ (changed.look name).1 with
  | error failure => simp [Except.map]
  | ok => simp [Except.map]

/-- A healthy keyring that keeps nothing under a name takes a new key, which is handed out. -/
theorem resolve_eq_ok_of_healthy
    {name : KeyringName}
    {before : Machine}
    {bytes : FixedBytes 32}
    {rest : RandomSource}
    (healthy : before.keyring.Healthy)
    (missing : before.keyring.find? name = none)
    (drawn : before.random.draw 32 = (some bytes, rest)) :
    ((keyring name).resolve before).1 = .ok (⟨bytes, .keyring⟩, keyring name) := by
  let text := Text.ofAscii (encode ⟨bytes, .keyring⟩)
  let changed := (before.keyring.called.called.keep name (encode ⟨bytes, .keyring⟩)).called
  have looked := Keyring.look_of_serves healthy.serves name
  have written : (before.keyring.look name).2.write name (encode ⟨bytes, .keyring⟩) =
      (.ok (), changed) := by
    rw [looked]
    exact healthy.called.called.write_eq
  have found : changed.find? name = some (Utf8.encode text) := by
    rw [Utf8.encode_ofAscii fun _ => ascii_of_mem_encode]
    exact Keyring.find?_keep_self
  have healthyAfter : changed.Healthy := healthy
  refine (resolve_eq_ok_iff_of_written ?_ drawn written).mpr ?_
  · rw [looked, Keyring.textOf, missing]
  · rw [Keyring.look_of_serves healthyAfter.serves, Keyring.textOf_of_find? found]

/-- A key of a keyring is durable or refused, whatever the keyring keeps and whichever of its calls
go wrong. If a key is handed out, then the keyring keeps a text of it, and from every keyring that
serves and keeps the same the same key is had again without random bytes. What the keyring keeps
under any name stays. An entry that cannot be opened or read, and one whose text is not a key, are
reported, and nothing is changed. A new key that the keyring has taken is handed out exactly if a
fresh entry gives its text, so always by a healthy keyring. -/
theorem resolve_keyring_durable
    (name : KeyringName)
    (before : Machine) :
    let resolved := (keyring name).resolve before
    let looked := before.keyring.look name
    (∀ key provider, resolved.1 = .ok (key, provider) →
      (∃ text, resolved.2.keyring.find? name = some (Utf8.encode text) ∧
        parse text .keyring = .ok key) ∧
      ∀ later : Machine, later.keyring.Serves →
        later.keyring.find? name = resolved.2.keyring.find? name →
          provider.resolve later =
            (.ok (key, provider), { later with keyring := later.keyring.called.called })) ∧
    (∀ other secret, before.keyring.find? other = some secret →
      resolved.2.keyring.find? other = some secret) ∧
    (∀ failure, looked.1 = .error failure → failure ≠ .noEntry →
      ∃ calls, resolved = (.error (.keyring failure),
        { before with keyring := { before.keyring with calls := calls } })) ∧
    (∀ text fault, looked.1 = .ok text → parse text .keyring = .error fault →
      ∃ calls, resolved = (.error (.decode fault),
        { before with keyring := { before.keyring with calls := calls } })) ∧
    (∀ bytes rest changed, looked.1 = .error .noEntry →
      before.random.draw 32 = (some bytes, rest) →
      looked.2.write name (encode ⟨bytes, .keyring⟩) = (.ok (), changed) →
      (resolved.1 = .ok (⟨bytes, .keyring⟩, keyring name) ↔
        (changed.look name).1 = .ok (Text.ofAscii (encode ⟨bytes, .keyring⟩)))) ∧
    (∀ bytes rest, before.keyring.Healthy → before.keyring.find? name = none →
      before.random.draw 32 = (some bytes, rest) →
      resolved.1 = .ok (⟨bytes, .keyring⟩, keyring name)) := by
  intro resolved looked
  obtain ⟨calls, unchanged⟩ := Keyring.exists_calls_of_look before.keyring name
  have ran : resolved = _ := run_resolve_keyring name before
  refine ⟨?_, ?_, ?_, ?_, fun _ _ _ => resolve_eq_ok_iff_of_written,
    fun _ _ => resolve_eq_ok_of_healthy⟩
  · intro key provider succeeded
    obtain ⟨rfl, had⟩ : provider = keyring name ∧ ofKeyring name before = (.ok key, resolved.2) :=
      of_resolve_keyring_eq_ok (Prod.ext succeeded rfl)
    have obtains := obtains_ofKeyring name before
    rw [had] at obtains
    refine ⟨obtains.exists_text, fun later serves same => ?_⟩
    rw [run_resolve_keyring, run_ofKeyring_again had serves same]
    rfl
  · intro other secret found
    rw [ran]
    exact (obtains_ofKeyring name before).find?_eq_some found
  · intro failure unreadable there
    rw [ran, run_ofKeyring_of_unread unreadable there, unchanged]
    exact ⟨calls, rfl⟩
  · intro text fault found unparsed
    rw [ran, run_ofKeyring_of_read found, ofText, unparsed, unchanged]
    exact ⟨calls, rfl⟩

/-- A new key is kept, and had again from a keyring that takes nothing more; a keyring that keeps
another key instead is not believed; an entry that cannot be read and one that holds no key are
reported. -/
theorem resolve_keyring_durable_samples :
    let name : KeyringName := ⟨"sealbox".toList, "default".toList⟩
    let drawn : FixedBytes 32 := ⟨List.replicate 32 7, rfl⟩
    let other : FixedBytes 32 := ⟨List.replicate 32 8, rfl⟩
    let machine (keyring : Keyring) : Machine :=
      { files := ⟨[], []⟩, random := [.bytes drawn.val], keyring := keyring }
    let entry (text : Bytes) : List (KeyringName × Bytes) := [(name, text)]
    let locked : KeyringFaults := { writing := fun _ => some { failure := some "locked" } }
    let altering : KeyringFaults :=
      { writing := fun _ => some { kept := some (encode ⟨other, .keyring⟩) } }
    let unreadable : KeyringFaults :=
      { reading := fun call => if call = 1 then some "locked" else none }
    ((keyring name).resolve (machine {})).1 = .ok (⟨drawn, .keyring⟩, keyring name) ∧
      (keyring name).resolve
          (machine { faults := locked, entries := entry (encode ⟨drawn, .keyring⟩) }) =
        (.ok (⟨drawn, .keyring⟩, keyring name),
          machine { faults := locked, calls := 2, entries := entry (encode ⟨drawn, .keyring⟩) }) ∧
      ((keyring name).resolve (machine { faults := altering })).1 ≠
        .ok (⟨drawn, .keyring⟩, keyring name) ∧
      (∃ calls, (keyring name).resolve (machine { faults := unreadable, entries := entry [] }) =
        (.error (.keyring (.failed "locked")),
          machine { faults := unreadable, calls := calls, entries := entry [] })) ∧
      ∃ calls, (keyring name).resolve (machine { entries := entry [] }) =
        (.error (.decode (.decodedLength 0)), machine { calls := calls, entries := entry [] }) := by
  intro name drawn other machine entry locked altering unreadable
  have made : ((keyring name).resolve (machine {})).1 = .ok (⟨drawn, .keyring⟩, keyring name) :=
    (resolve_keyring_durable name (machine {})).2.2.2.2.2 drawn [.bytes []] rfl rfl
      (by decide +kernel)
  refine ⟨made, ?_, ?_, ?_, ?_⟩
  · exact ((resolve_keyring_durable name (machine {})).1 _ _ made).2
      (machine { faults := locked, entries := entry (encode ⟨drawn, .keyring⟩) }) ⟨rfl, rfl⟩
      (by decide +kernel)
  · have believed := (resolve_keyring_durable name (machine { faults := altering })).2.2.2.2.1 drawn
      [.bytes []] _ (by decide +kernel) (by decide +kernel) rfl
    exact mt believed.mp (by decide +kernel)
  · exact (resolve_keyring_durable name
      (machine { faults := unreadable, entries := entry [] })).2.2.1 (.failed "locked")
      (by decide +kernel) (by decide)
  · exact (resolve_keyring_durable name (machine { entries := entry [] })).2.2.2.1 []
      (.decodedLength 0) (by decide +kernel) (by decide +kernel)

end KeyProvider
end Lockbox
