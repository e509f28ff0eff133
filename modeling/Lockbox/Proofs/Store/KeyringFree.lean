import Lockbox.Proofs.Runs
import Lockbox.Store.FileStore

/-!
# What does not depend on the keyring

An action ignores the keyring if it does the same with every keyring and gives it back unchanged.
One lemma for each way to make an action, and whatever is made up of actions that ignore the keyring
ignores it too: so does every request for the key of a directory, and every store that is made from
settings (`FileStore.ignoresKeyring_bootstrap`).
-/

namespace Lockbox

namespace Action

section Ignoring

variable {ε ε' α β : Type} {action : Action ε α}

/-- An action does the same whatever the keyring, and leaves it as it is. -/
def IgnoresKeyring (action : Action ε α) : Prop :=
  ∀ (machine : Machine) (keyring : Keyring),
    action { machine with keyring := keyring } =
      ((action machine).1, { (action machine).2 with keyring := keyring })

namespace IgnoresKeyring

theorem pure (value : α) : IgnoresKeyring (pure value : Action ε α) :=
  fun _ _ => rfl

theorem throw (failure : ε) : IgnoresKeyring (throw failure : Action ε α) :=
  fun _ _ => rfl

/-- The second step may depend on what the first one gives. -/
theorem bind
    {next : α → Action ε β}
    (first : action.IgnoresKeyring)
    (second : ∀ value, (next value).IgnoresKeyring) :
    IgnoresKeyring (action >>= next) := by
  intro machine keyring
  rw [run_bind, run_bind, first machine keyring]
  cases action machine with
  | mk outcome after =>
      cases outcome with
      | ok value => exact second value after keyring
      | error failure => rfl

/-- A look at something else than the keyring. -/
theorem observe
    {view : Machine → α}
    (blind : ∀ (machine : Machine) (keyring : Keyring),
      view { machine with keyring := keyring } = view machine) :
    IgnoresKeyring (observe view : Action ε α) := by
  intro machine keyring
  rw [Action.observe, Action.observe, blind]

theorem draw (drawing : Drawing ε α) : (draw drawing).IgnoresKeyring :=
  fun _ _ => rfl

theorem lift (outcome : Except ε α) : (lift outcome).IgnoresKeyring :=
  fun _ _ => rfl

theorem lookFiles (look : FileSystem → Except ε α) : (lookFiles look).IgnoresKeyring :=
  fun _ _ => rfl

theorem tryFiles (change : FileSystem → Except IoError α × FileSystem) :
    (tryFiles change).IgnoresKeyring :=
  fun _ _ => rfl

theorem changeFiles (change : FileSystem → Except IoError FileSystem) :
    (changeFiles change).IgnoresKeyring := by
  intro machine keyring
  simp only [Action.changeFiles]
  cases change machine.files <;> rfl

theorem mapError
    (retell : ε → ε')
    (ignores : action.IgnoresKeyring) :
    (mapError retell action).IgnoresKeyring := by
  intro machine keyring
  rw [Action.mapError, ignores]
  rfl

theorem orElse
    {second : ε → Action ε' α}
    (ignores : action.IgnoresKeyring)
    (otherwise : ∀ failure, (second failure).IgnoresKeyring) :
    (orElse action second).IgnoresKeyring := by
  intro machine keyring
  rw [Action.orElse, Action.orElse, ignores]
  cases action machine with
  | mk outcome after =>
      cases outcome with
      | ok value => rfl
      | error failure => exact otherwise failure after keyring

/-- What ignores the keyring leaves it as it is. -/
theorem keyring_eq
    {machine after : Machine}
    {outcome : Except ε α}
    (ignores : action.IgnoresKeyring)
    (ran : action machine = (outcome, after)) :
    after.keyring = machine.keyring := by
  have same := congrArg (fun result => result.2.keyring) (ignores machine machine.keyring)
  rwa [ran] at same

end IgnoresKeyring
end Ignoring
end Action

/-! ## Files and keys -/

theorem PrivateFile.ignoresKeyring_lock (path : Path) : (lock path).IgnoresKeyring :=
  .bind (.changeFiles _) fun _ => .changeFiles _

theorem PrivateFile.ignoresKeyring_put (path : Path) (content : Bytes) :
    (put path content).IgnoresKeyring := by
  refine .bind (.observe fun _ _ => rfl) fun chosen => ?_
  cases chosen with
  | none => exact .changeFiles _
  | some temporary =>
      have completing := Action.IgnoresKeyring.bind
        (.bind (.changeFiles (FileSystem.setMode · temporary mode)) fun _ =>
          .changeFiles (FileSystem.write · temporary content))
        fun _ => .changeFiles (FileSystem.moveFile · temporary path)
      refine .bind (.changeFiles _) fun _ => .orElse completing fun failure => ?_
      exact .bind (.orElse (.changeFiles _) fun _ => .pure _) fun _ => .throw _

theorem Directories.ignoresKeyring_createPrivate (path : Path) :
    (createPrivate path).IgnoresKeyring :=
  .bind (.tryFiles _) fun _ => .changeFiles _

theorem Directories.ignoresKeyring_resolve {ε : Type} (requested : Option Path) :
    (resolve requested : Action ε Path).IgnoresKeyring :=
  .bind (.observe fun _ _ => rfl) fun _ =>
    .orElse (.bind (ignoresKeyring_createPrivate _) fun _ => .pure _) fun _ =>
      .orElse (.bind (ignoresKeyring_createPrivate _) fun _ => .pure _) fun _ => .pure _

namespace MasterKey

theorem ignoresKeyring_generate (origin : KeyOrigin) : (generate origin).IgnoresKeyring :=
  .bind (.draw _) fun _ => .pure _

theorem ignoresKeyring_ofDirectory (directory : Path) : (ofDirectory directory).IgnoresKeyring := by
  refine .bind (.mapError _ (PrivateFile.ignoresKeyring_lock _)) fun _ =>
    .bind (.observe fun _ _ => rfl) fun content => ?_
  split
  next => exact .lift _
  next =>
    exact .bind (ignoresKeyring_generate _) fun key =>
      .bind (.mapError _ (PrivateFile.ignoresKeyring_put _ _)) fun _ => .pure _
  next => exact .throw _

/-- The key of a directory is had without the keyring. -/
theorem ignoresKeyring_ofDirectoryOr (explicit : Option Text) (directory : Path) :
    (ofDirectoryOr explicit directory).IgnoresKeyring := by
  cases explicit with
  | none => exact ignoresKeyring_ofDirectory directory
  | some value => exact .orElse (.lookFiles _) fun _ => ignoresKeyring_ofDirectory directory

end MasterKey

namespace FileStore

theorem ignoresKeyring_lastResort : lastResort.IgnoresKeyring := by
  intro machine keyring
  rw [lastResort, lastResort]
  dsimp only
  cases machine.generator.key machine.random with
  | mk outcome rest => cases outcome <;> rfl

/-- A store is made from settings without the keyring. -/
theorem ignoresKeyring_bootstrap (identity : Identity) (settings : Settings) (codec : Codec) :
    (bootstrap identity settings codec).IgnoresKeyring :=
  .bind (Directories.ignoresKeyring_resolve _) fun _ =>
    .bind
      (.orElse (MasterKey.ignoresKeyring_ofDirectoryOr _ _) fun _ =>
        .orElse (MasterKey.ignoresKeyring_generate _) fun _ => ignoresKeyring_lastResort)
      fun _ => .pure _

end FileStore
end Lockbox
