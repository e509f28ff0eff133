import Lockbox.Proofs.FileSystem.Changes
import Lockbox.Proofs.Runs
import Mathlib.Order.Defs.Unbundled

/-!
# What actions do to the files

Some relations between the files before and after hold where nothing happens and across one thing
after another. Such a relation is ensured by a compound action if each of its parts ensures it,
whether or not it fails half-way.
-/

namespace Lockbox

instance (touched : Location → Prop) :
    IsPreorder FileSystem (FileSystem.ChangesOnly touched) where
  refl := FileSystem.ChangesOnly.refl
  trans := fun _ _ _ => FileSystem.ChangesOnly.trans

namespace Action

/-- Whatever becomes of an action, the files after it are related to those before it. -/
def Ensures
    {ε α : Type}
    (relation : FileSystem → FileSystem → Prop)
    (action : Action ε α) : Prop :=
  ∀ machine : Machine, relation machine.files (action machine).2.files

namespace Ensures

variable {ε ε' α β : Type} {relation : FileSystem → FileSystem → Prop}

theorem mapError
    {action : Action ε α}
    (ensures : action.Ensures relation)
    (retell : ε → ε') :
    (Action.mapError retell action).Ensures relation :=
  ensures

variable [IsPreorder FileSystem relation]

/-- An action that leaves the files alone. -/
theorem of_files_eq
    {action : Action ε α}
    (alone : ∀ machine, (action machine).2.files = machine.files) :
    action.Ensures relation := by
  intro machine
  rw [alone machine]
  exact refl _

theorem pure (value : α) :
    (Pure.pure value : Action ε α).Ensures relation :=
  .of_files_eq fun _ => rfl

theorem throw (failure : ε) :
    (throw failure : Action ε α).Ensures relation :=
  .of_files_eq fun _ => rfl

theorem observe (view : Machine → α) :
    (Action.observe view : Action ε α).Ensures relation :=
  .of_files_eq fun _ => rfl

theorem lift (outcome : Except ε α) :
    (Action.lift outcome).Ensures relation :=
  .of_files_eq fun _ => rfl

theorem draw (drawing : Drawing ε α) :
    (Action.draw drawing).Ensures relation :=
  .of_files_eq fun _ => rfl

theorem lookFiles
    (look : FileSystem → Except ε α) :
    (Action.lookFiles look).Ensures relation :=
  .of_files_eq fun _ => rfl

/-- A change of the files that happens wholly or not at all. -/
theorem changeFiles
    {change : FileSystem → Except IoError FileSystem}
    (ensures : ∀ files changed, change files = .ok changed → relation files changed) :
    (Action.changeFiles change).Ensures relation := by
  intro machine
  unfold Action.changeFiles
  split
  next changed succeeded => exact ensures _ _ succeeded
  next => exact refl _

theorem bind
    {first : Action ε α}
    {next : α → Action ε β}
    (ensuresFirst : first.Ensures relation)
    (ensuresNext : ∀ value, (next value).Ensures relation) :
    (first >>= next : Action ε β).Ensures relation := by
  intro machine
  have upToNext := ensuresFirst machine
  rw [run_bind]
  split
  next value after ran =>
    rw [ran] at upToNext
    exact Trans.trans upToNext (ensuresNext value after)
  next failure after ran =>
    rw [ran] at upToNext
    exact upToNext

theorem orElse
    {first : Action ε α}
    {second : ε → Action ε' α}
    (ensuresFirst : first.Ensures relation)
    (ensuresSecond : ∀ failure, (second failure).Ensures relation) :
    (Action.orElse first second).Ensures relation := by
  intro machine
  have upToSecond := ensuresFirst machine
  unfold Action.orElse
  split
  next value after ran =>
    rw [ran] at upToSecond
    exact upToSecond
  next failure after ran =>
    rw [ran] at upToSecond
    exact Trans.trans upToSecond (ensuresSecond failure after)

end Ensures
end Action
end Lockbox
