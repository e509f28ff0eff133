import Lockbox.Proofs.MasterKey.KeyFile

/-!
# Providers of one key file

Any number of providers may ask for the key of one directory, one after the other. The key file
that is there stays, a key file is made only together with the key that is handed out, and all
those that do not take an explicit value agree on the key (`resolveAll_agree`).
-/

namespace Lockbox

open FileSystem

namespace FileSystem

theorem isFile_of_readText_eq_ok
    {files : FileSystem}
    {path : Path}
    {text : Text}
    (read : files.readText path = .ok text) :
    files.isFile path = true := by
  unfold readText FileSystem.read at read
  unfold isFile
  cases found : files.status path with
  | error failure => simp [found] at read
  | ok node =>
      cases node with
      | directory mode => simp [found] at read
      | file mode content => rfl

end FileSystem

/-! ## Requests -/

/-- A provider of a key file that is asked for its key. -/
structure KeyRequest where
  directory : Path
  explicit : Option Text
  deriving DecidableEq, Repr

/-- What a request has done. -/
structure Resolution where
  request : KeyRequest
  before : Machine
  outcome : Except KeyError MasterKey
  after : Machine

namespace KeyRequest

/-- The answer of the provider. -/
def resolve (request : KeyRequest) : Action KeyError MasterKey := do
  return (← (KeyProvider.file request.directory request.explicit).resolve).1

/-- What a request does to a machine. -/
def resolution (request : KeyRequest) (machine : Machine) : Resolution where
  request := request
  before := machine
  outcome := (request.resolve machine).1
  after := (request.resolve machine).2

/-- What one request after the other does. -/
def resolveAll : List KeyRequest → Machine → List Resolution
  | [], _ => []
  | request :: rest, machine =>
    request.resolution machine :: resolveAll rest (request.resolve machine).2

theorem run_resolve (request : KeyRequest) (machine : Machine) :
    request.resolve machine =
      MasterKey.ofDirectoryOr request.explicit request.directory machine := by
  rw [resolve, KeyProvider.resolve, run_bind, run_bind]
  cases MasterKey.ofDirectoryOr request.explicit request.directory machine with
  | mk outcome after => cases outcome <;> rfl

theorem resolves (request : KeyRequest) (machine : Machine) :
    MasterKey.Resolves request.explicit request.directory machine (request.resolve machine).1
      (request.resolve machine).2 := by
  rw [run_resolve]
  exact MasterKey.resolves_ofDirectoryOr _ _ _

end KeyRequest

/-! ## Explicit values -/

namespace MasterKey

/-- An explicit value spells a key: the file to which it leads does, or there is no such file and
the value does itself. -/
def SpelledBy (value : Text) (files : FileSystem) (key : MasterKey) : Prop :=
  (∃ text, files.readText (Text.trim value) = .ok text ∧ parse text .environment = .ok key) ∨
    (files.isFile (Text.trim value) = false ∧ parse value .environment = .ok key)

theorem ofExplicit_eq_ok_iff
    {value : Text}
    {files : FileSystem}
    {key : MasterKey} :
    ofExplicit value files = .ok key ↔ SpelledBy value files key := by
  rw [ofExplicit, SpelledBy]
  cases isFile : files.isFile (Text.trim value) with
  | false =>
      have unread : ∀ text, files.readText (Text.trim value) ≠ .ok text := by
        intro text read
        rw [isFile_of_readText_eq_ok read] at isFile
        cases isFile
      simp [unread, ofText_eq_ok_iff]
  | true =>
      cases files.readText (Text.trim value) with
      | error failure => simp
      | ok text => simp [ofText_eq_ok_iff]

theorem explicitKey?_eq_some_iff
    {explicit : Option Text}
    {files : FileSystem}
    {key : MasterKey} :
    explicitKey? explicit files = some key ↔
      ∃ value, explicit = some value ∧ SpelledBy value files key := by
  simp only [explicitKey?, Option.bind_eq_some_iff, ← ofExplicit_eq_ok_iff]
  apply exists_congr
  intro value
  cases ofExplicit value files <;> simp [Except.toOption]

end MasterKey

/-! ## What requests preserve -/

namespace Resolution

/-- What is in the place of the key file stays as it is. -/
def KeepsKeyFile (directory : Path) (resolution : Resolution) : Prop :=
  ∀ node, MasterKey.keyNode? resolution.before.files directory = some node →
    MasterKey.keyNode? resolution.after.files directory = some node

/-- A key file comes into being only together with a new key that is handed out, and it holds this
key. -/
def MakesKeyFileForKey (directory : Path) (resolution : Resolution) : Prop :=
  ∀ node, MasterKey.keyNode? resolution.before.files directory = none →
    MasterKey.keyNode? resolution.after.files directory = some node →
    ∃ key : MasterKey, resolution.outcome = .ok key ∧
      key.origin = .generated (MasterKey.filePath resolution.request.directory) ∧
      node = .file PrivateFile.mode key.encode

/-- The key that the explicit value spells is taken, and nothing is touched. -/
def TakesExplicitKey (resolution : Resolution) : Prop :=
  ∀ value key, resolution.request.explicit = some value →
    MasterKey.SpelledBy value resolution.before.files key →
    resolution.outcome = .ok key ∧ key.origin = .environment ∧
      resolution.after = resolution.before

/-- No explicit value spells a key. -/
def WithoutExplicitKey (resolution : Resolution) : Prop :=
  ∀ value key, resolution.request.explicit = some value →
    ¬ MasterKey.SpelledBy value resolution.before.files key

/-- The key has the given bytes and is read from the key file; no random bytes are drawn. -/
def Rereads (resolution : Resolution) (bytes : FixedBytes 32) (key : MasterKey) : Prop :=
  key.bytes = bytes ∧
    key.origin = .keyFile (MasterKey.filePath resolution.request.directory) ∧
    resolution.after.random = resolution.before.random

/-- Of two requests without an explicit key that both give a key, the later one gives that of the
earlier one. -/
def Agree (earlier later : Resolution) : Prop :=
  earlier.WithoutExplicitKey → later.WithoutExplicitKey →
    ∀ first second, earlier.outcome = .ok first → later.outcome = .ok second →
      later.Rereads first.bytes second

end Resolution

namespace Resolution

theorem explicitKey?_of_withoutExplicitKey
    {resolution : Resolution}
    (without : resolution.WithoutExplicitKey) :
    MasterKey.explicitKey? resolution.request.explicit resolution.before.files = none := by
  rw [Option.eq_none_iff_forall_ne_some]
  intro key given
  obtain ⟨value, isValue, spelled⟩ := MasterKey.explicitKey?_eq_some_iff.mp given
  exact without value key isValue spelled

end Resolution

namespace KeyRequest

section Steps

variable {request : KeyRequest} {machine : Machine} {directory : Path}

/-- A request leads no path to its directory astray. -/
theorem reach_resolve
    {other : Path}
    (same : machine.files.reach other = machine.files.reach request.directory) :
    (request.resolve machine).2.files.reach other = machine.files.reach other :=
  PrivateFile.reach_of_changes (request.resolves machine).changes same

/-- Paths that lead to one directory still do after a request for its key. -/
theorem reach_eq_resolve
    {other : Path}
    (here : machine.files.reach request.directory = machine.files.reach directory)
    (there : machine.files.reach other = machine.files.reach directory) :
    (request.resolve machine).2.files.reach other =
      (request.resolve machine).2.files.reach directory := by
  rw [reach_resolve (there.trans here.symm), reach_resolve here.symm, there]

theorem keyNode?_resolve
    (same : machine.files.reach request.directory = machine.files.reach directory) :
    MasterKey.keyNode? (request.resolve machine).2.files request.directory =
      MasterKey.keyNode? (request.resolve machine).2.files directory := by
  exact MasterKey.keyNode?_congr (reach_eq_resolve same same)

theorem keepsKeyFile_resolution
    (same : machine.files.reach request.directory = machine.files.reach directory) :
    (request.resolution machine).KeepsKeyFile directory := by
  intro node found
  rw [resolution, ← MasterKey.keyNode?_congr same] at found
  rw [resolution, ← keyNode?_resolve same]
  exact (request.resolves machine).keyNode?_eq_some found

theorem makesKeyFileForKey_resolution
    (same : machine.files.reach request.directory = machine.files.reach directory) :
    (request.resolution machine).MakesKeyFileForKey directory := by
  intro node missing found
  rw [resolution, ← MasterKey.keyNode?_congr same] at missing
  rw [resolution, ← keyNode?_resolve same] at found
  exact (request.resolves machine).exists_generated missing found

theorem takesExplicitKey_resolution : (request.resolution machine).TakesExplicitKey := by
  intro value key isValue spelled
  have origin : key.origin = .environment := by
    rcases spelled with ⟨text, -, parsed⟩ | ⟨-, parsed⟩
    · exact MasterKey.origin_of_parse_eq_ok parsed
    · exact MasterKey.origin_of_parse_eq_ok parsed
  have given := MasterKey.explicitKey?_eq_some_iff.mpr ⟨value, isValue, spelled⟩
  have ran := (request.run_resolve machine).trans
    (MasterKey.run_ofDirectoryOr_of_explicitKey? given)
  refine ⟨?_, origin, ?_⟩
  · rw [resolution, ran]
  · rw [resolution, ran]

/-- The key file can be read as the given bytes, whatever its directory is called. -/
def Holds (directory : Path) (bytes : FixedBytes 32) (machine : Machine) : Prop :=
  ∃ node other key, MasterKey.keyNode? machine.files directory = some node ∧
    MasterKey.openNode other node = .ok key ∧ key.bytes = bytes

theorem holds_resolve
    {bytes : FixedBytes 32}
    (same : machine.files.reach request.directory = machine.files.reach directory)
    (holds : Holds directory bytes machine) :
    Holds directory bytes (request.resolve machine).2 := by
  obtain ⟨node, other, key, found, opened, sameBytes⟩ := holds
  exact ⟨node, other, key, keepsKeyFile_resolution same node found, opened, sameBytes⟩

/-- Once the key file can be read, requests without an explicit key read it. -/
theorem rereads_resolution
    {bytes : FixedBytes 32}
    {key : MasterKey}
    (same : machine.files.reach request.directory = machine.files.reach directory)
    (holds : Holds directory bytes machine)
    (without : (request.resolution machine).WithoutExplicitKey)
    (handedOut : (request.resolution machine).outcome = .ok key) :
    (request.resolution machine).Rereads bytes key := by
  obtain ⟨node, other, kept, found, opened, rfl⟩ := holds
  have resolves := request.resolves machine
  rw [show (request.resolve machine).1 = .ok key from handedOut] at resolves
  obtain ⟨openedHere, noneDrawn⟩ := resolves.openNode_eq_ok
    (Resolution.explicitKey?_of_withoutExplicitKey without)
    ((MasterKey.keyNode?_congr same).trans found)
  exact ⟨MasterKey.bytes_of_openNode_eq_ok opened openedHere,
    MasterKey.origin_of_openNode_eq_ok openedHere, noneDrawn⟩

/-- A key without an explicit value leaves a key file that can be read as this key. -/
theorem holds_of_resolution
    {key : MasterKey}
    (same : machine.files.reach request.directory = machine.files.reach directory)
    (without : (request.resolution machine).WithoutExplicitKey)
    (handedOut : (request.resolution machine).outcome = .ok key) :
    Holds directory key.bytes (request.resolve machine).2 := by
  have resolves := request.resolves machine
  rw [show (request.resolve machine).1 = .ok key from handedOut] at resolves
  obtain ⟨node, found, opened⟩ := resolves.exists_openNode_eq_ok
    (Resolution.explicitKey?_of_withoutExplicitKey without)
  exact ⟨node, request.directory, _, (keyNode?_resolve same).symm.trans found, opened, rfl⟩

end Steps

/-! ## Runs -/

section Run

variable {directory : Path}

/-- What every request does where an invariant holds, and what keeps the invariant, is done by
every request of a run. -/
theorem forall_mem_resolveAll
    {invariant : Machine → Prop}
    {property : Resolution → Prop}
    (step : ∀ (request : KeyRequest) (machine : Machine),
      machine.files.reach request.directory = machine.files.reach directory →
      invariant machine →
      property (request.resolution machine) ∧ invariant (request.resolve machine).2)
    {requests : List KeyRequest}
    {machine : Machine}
    (oneDirectory : ∀ request ∈ requests,
      machine.files.reach request.directory = machine.files.reach directory)
    (start : invariant machine) :
    ∀ resolution ∈ resolveAll requests machine, property resolution := by
  induction requests generalizing machine with
  | nil => simp [resolveAll]
  | cons request rest inductionHypothesis =>
      have here := oneDirectory request (List.mem_cons_self ..)
      obtain ⟨done, next⟩ := step request machine here start
      rw [resolveAll, List.forall_mem_cons]
      refine ⟨done, inductionHypothesis ?_ next⟩
      intro other member
      exact reach_eq_resolve here (oneDirectory other (List.mem_cons_of_mem _ member))

theorem pairwise_agree_resolveAll
    {requests : List KeyRequest}
    {machine : Machine}
    (oneDirectory : ∀ request ∈ requests,
      machine.files.reach request.directory = machine.files.reach directory) :
    (resolveAll requests machine).Pairwise Resolution.Agree := by
  induction requests generalizing machine with
  | nil => exact .nil
  | cons request rest inductionHypothesis =>
      have here := oneDirectory request (List.mem_cons_self ..)
      have restDirectory : ∀ other ∈ rest, (request.resolve machine).2.files.reach other.directory =
          (request.resolve machine).2.files.reach directory := by
        intro other member
        exact reach_eq_resolve here (oneDirectory other (List.mem_cons_of_mem _ member))
      rw [resolveAll, List.pairwise_cons]
      refine ⟨?_, inductionHypothesis restDirectory⟩
      intro later member withoutFirst withoutLater first second handedOut handedOutLater
      have rereads : ∀ later ∈ resolveAll rest (request.resolve machine).2,
          later.WithoutExplicitKey → ∀ second, later.outcome = .ok second →
            later.Rereads first.bytes second := by
        refine forall_mem_resolveAll ?_ restDirectory
          (holds_of_resolution here withoutFirst handedOut)
        intro other between same holds
        exact ⟨fun without _ => rereads_resolution same holds without, holds_resolve same holds⟩
      exact rereads later member withoutLater second handedOutLater

end Run

/-- One request after the other for the key of one directory, with explicit values or without: a
key file that is there stays as it is; one that comes into being holds the key that is handed out;
all keys that are not given explicitly are the same, and all but the first of them are read from
the key file; a key that is given explicitly is taken, and nothing is touched. -/
theorem resolveAll_agree
    (directory : Path)
    (requests : List KeyRequest)
    (machine : Machine)
    (oneDirectory : ∀ request ∈ requests,
      machine.files.reach request.directory = machine.files.reach directory) :
    (∀ resolution ∈ resolveAll requests machine,
      resolution.KeepsKeyFile directory ∧ resolution.MakesKeyFileForKey directory ∧
        resolution.TakesExplicitKey) ∧
      (resolveAll requests machine).Pairwise Resolution.Agree := by
  refine ⟨?_, pairwise_agree_resolveAll oneDirectory⟩
  refine forall_mem_resolveAll (fun request between same (_ : True) => ?_) oneDirectory trivial
  exact ⟨⟨keepsKeyFile_resolution same, makesKeyFileForKey_resolution same,
    takesExplicitKey_resolution⟩, trivial⟩

/-! ## Sample requests -/

/-- An empty directory for the sample requests, and the random bytes of two keys. -/
def sampleMachine : Machine where
  files := { entries := [(["s".toList], .directory 0o755)], workingDirectory := [] }
  random := [.bytes (List.replicate 64 0x6B)]

/-- Requests with and without an explicit value, which call the directory by different names. -/
def sampleRequests : List KeyRequest :=
  [⟨"/s".toList, none⟩, ⟨"s/".toList, some (List.replicate 32 'x')⟩,
    ⟨"s".toList, some "no key".toList⟩, ⟨"/s/.".toList, none⟩]

theorem resolveAll_sampleRequests_agree :
    (resolveAll sampleRequests sampleMachine).map Resolution.outcome =
        [.ok ⟨⟨List.replicate 32 0x6B, rfl⟩, .generated "/s/master.key".toList⟩,
          .ok ⟨⟨List.replicate 32 0x78, rfl⟩, .environment⟩,
          .ok ⟨⟨List.replicate 32 0x6B, rfl⟩, .keyFile "s/master.key".toList⟩,
          .ok ⟨⟨List.replicate 32 0x6B, rfl⟩, .keyFile "/s/./master.key".toList⟩] ∧
      (∀ resolution ∈ resolveAll sampleRequests sampleMachine,
        resolution.KeepsKeyFile "/s".toList) ∧
      (resolveAll sampleRequests sampleMachine).Pairwise Resolution.Agree := by
  obtain ⟨steps, agree⟩ := resolveAll_agree "/s".toList sampleRequests sampleMachine
    (by decide +kernel)
  exact ⟨by decide +kernel, fun resolution member => (steps resolution member).1, agree⟩

/-- A file without a key in it, whose name is a text of a key. -/
def ambiguousMachine : Machine where
  files :=
    { entries := [(["s".toList], .directory 0o755),
        ([List.replicate 32 'x'], .file 0o644 (Utf8.encode "no key".toList))],
      workingDirectory := [] }
  random := [.bytes (List.replicate 32 0x6B)]

/-- An explicit value that spells a key by itself is not taken for it when it leads to a file. -/
theorem resolve_ambiguousMachine :
    MasterKey.parse (List.replicate 32 'x') .environment =
        .ok ⟨⟨List.replicate 32 0x78, rfl⟩, .environment⟩ ∧
      ((⟨"/s".toList, some (List.replicate 32 'x')⟩ : KeyRequest).resolve ambiguousMachine).1 =
        .ok ⟨⟨List.replicate 32 0x6B, rfl⟩, .generated "/s/master.key".toList⟩ := by
  decide +kernel

end KeyRequest
end Lockbox
