import Lockbox.Proofs.Store.Refinement
import Lockbox.Store

/-!
# Memory stores as a stand-in for file stores

A memory store keeps in its cell what a file store keeps in its file (`MemoryStore.Keeps`). One
request preserves this and is answered alike (`StoreRequest.mirrors`), so every run of requests is,
however it is spread over copies of the memory store (`Store.performAll_memory_eq_file`).
-/

namespace Lockbox

/-! ## Random bytes -/

namespace RandomSource

/-- Whether a number of requests for bytes of one length, one after the other, are all met. -/
def supplies (length : Nat) : Nat → RandomSource → Bool
  | 0, _ => true
  | count + 1, source =>
    match source.draw length with
    | (none, _) => false
    | (some _, rest) => supplies length count rest

/-- The first of the requests is met, and so are the others after it. -/
theorem exists_draw_of_supplies
    {length count : Nat}
    {source : RandomSource}
    (enough : source.supplies length (count + 1) = true) :
    ∃ drawn rest, source.draw length = (some drawn, rest) ∧
      RandomSource.supplies length count rest = true := by
  rw [supplies] at enough
  split at enough
  next => cases enough
  next drawn rest met => exact ⟨drawn, rest, met, enough⟩

end RandomSource

/-! ## Requests -/

/-- What stores of either kind can be asked for. -/
inductive StoreRequest
  | put (secret : Text)
  | get
  | delete
  deriving DecidableEq, Repr

namespace StoreRequest

/-- The operation of a file store that a request is for. -/
def operation : StoreRequest → Operation
  | put secret => .put secret
  | get => .get
  | delete => .delete

/-- Whether a file store has to seal something for a request. -/
def seals : StoreRequest → Bool
  | put secret => !secret.isEmpty
  | _ => false

/-- A request to a store on a machine. -/
def perform (request : StoreRequest) (store : Store) (machine : Machine) : Answer × Machine :=
  match request with
  | put secret => (.done (store.put secret machine).1, (store.put secret machine).2)
  | get => (.secret (store.get machine).1, (store.get machine).2)
  | delete => (.done (store.delete machine).1, (store.delete machine).2)

theorem perform_file (request : StoreRequest) (store : FileStore) (machine : Machine) :
    request.perform (.file store) machine =
      Call.perform ⟨store, request.operation⟩ machine := by
  cases request <;> rfl

end StoreRequest

/-- The answers to requests to stores, one after the other, and the machine after them. -/
def Store.performAll : List (Store × StoreRequest) → Machine → List Answer × Machine
  | [], machine => ([], machine)
  | (store, request) :: rest, machine =>
    ((request.perform store machine).1 :: (performAll rest (request.perform store machine).2).1,
      (performAll rest (request.perform store machine).2).2)

/-- An answer without the path at which there is no secret. -/
def Answer.withoutPath : Answer → Answer
  | .secret (.error (.notFound _)) => .secret (.error (.notFound []))
  | answer => answer

/-- Requests to one file store are calls to it. -/
theorem Store.performAll_file
    (store : FileStore)
    (requests : List StoreRequest)
    (machine : Machine) :
    Store.performAll (requests.map fun request => (.file store, request)) machine =
      Call.performAll (requests.map fun request => ⟨store, request.operation⟩) machine := by
  induction requests generalizing machine with
  | nil => rfl
  | cons request rest inductionHypothesis =>
      simp only [List.map_cons, Store.performAll, Call.performAll, StoreRequest.perform_file,
        inductionHypothesis]

/-! ## Memory stores -/

namespace MemoryStore

/-- The copies of a store, the copies of these, and so on. -/
inductive IsCopy (store : MemoryStore) : MemoryStore → Prop
  | self : IsCopy store store
  | copy {other : MemoryStore} (isCopy : IsCopy store other) : IsCopy store other.copy

/-- Copies cannot be told from the store. -/
theorem IsCopy.eq
    {store other : MemoryStore}
    (isCopy : store.IsCopy other) :
    other = store := by
  induction isCopy with
  | self => rfl
  | copy _ inductionHypothesis => rw [inductionHypothesis]; rfl

/-- The cell of a store keeps a masked secret, or nothing. -/
def Keeps (store : MemoryStore) (machine : Machine) (kept : Option Text) : Prop :=
  machine.cells[store.cell]? = some (kept.map fun secret => mask (Utf8.encode secret))

section Operations

variable {store : MemoryStore} {machine : Machine} {kept : Option Text}

/-- A new store keeps nothing. -/
theorem run_create (identity : Identity) (machine : Machine) :
    ∃ store after,
      (create identity : Action StoreError MemoryStore) machine = (.ok store, after) ∧
      store.identity = identity ∧ store.Keeps after none :=
  ⟨⟨identity, machine.cells.length⟩, { machine with cells := machine.cells ++ [none] }, rfl, rfl,
    by simp [Keeps]⟩

theorem keeps_of_set
    (keeps : store.Keeps machine kept)
    (other : Option Text) :
    store.Keeps { machine with
      cells := machine.cells.set store.cell (other.map fun secret => mask (Utf8.encode secret)) }
      other := by
  obtain ⟨there, -⟩ := List.getElem?_eq_some_iff.mp keeps
  exact List.getElem?_set_self there

theorem run_put_of_ne_nil
    {secret : Text}
    (nonempty : secret ≠ []) :
    store.put secret machine =
      (.ok (), { machine with
        cells := machine.cells.set store.cell (some (mask (Utf8.encode secret))) }) := by
  simp only [put, if_neg (show ¬ secret.isEmpty = true by simpa using nonempty)]
  rfl

theorem run_get_of_none
    (keeps : store.Keeps machine none) :
    store.get machine = (.error (.notFound store.identity.fileName), machine) := by
  rw [get, run_bind, Action.observe]
  dsimp only
  rw [keeps]
  rfl

/-- The secret is what is kept, without its mask. -/
theorem run_get_of_some
    {secret : Text}
    (keeps : store.Keeps machine (some secret)) :
    store.get machine = (.ok secret, machine) := by
  rw [get, run_bind, Action.observe]
  dsimp only
  rw [keeps]
  simp only [Option.map_some, Option.join_some, mask_mask, Utf8.decode_encode]
  rfl

end Operations
end MemoryStore

/-! ## Steps -/

namespace StoreRequest

/-- A request to a memory store agrees with what it does to the map: the answers are the same but
for the path of a missing secret, and the cell goes on keeping what the map has. -/
structure Mirrors (memory : MemoryStore) (store : FileStore) (request : StoreRequest)
    (machine : Machine) (vault : Vault) : Prop where
  answer : (request.perform (.memory memory) machine).1.withoutPath =
    (Call.specify ⟨store, request.operation⟩ vault).1.withoutPath
  keeps : memory.Keeps (request.perform (.memory memory) machine).2
    ((Call.specify ⟨store, request.operation⟩ vault).2.secrets store.identity.fileName)

section Steps

variable {memory : MemoryStore} {store : FileStore} {machine : Machine} {vault : Vault}

theorem mirrors_put_of_nonce
    {secret : Text}
    {nonce : FixedBytes store.codec.algorithm.nonceLength}
    {rest : RandomSource}
    (keeps : memory.Keeps machine (vault.secrets store.identity.fileName))
    (nonempty : secret ≠ [])
    (drawn : vault.random.draw store.codec.algorithm.nonceLength = (some nonce, rest)) :
    Mirrors memory store (.put secret) machine vault := by
  have ran : memory.put secret machine = _ := MemoryStore.run_put_of_ne_nil nonempty
  have specified : Call.specify ⟨store, .put secret⟩ vault =
      (.done (.ok ()), (vault.set store.identity.fileName (some secret)).withRandom rest) := by
    simp only [Call.specify, if_neg nonempty, drawn]
    rfl
  constructor
  · simp only [perform, Store.put, ran, operation, specified]
  · simp only [perform, Store.put, ran, operation, specified, Vault.withRandom,
      Vault.secrets_set_self]
    exact MemoryStore.keeps_of_set keeps (some secret)

/-- One request is answered alike, if there is a nonce for it when it needs one. -/
theorem mirrors
    (request : StoreRequest)
    (keeps : memory.Keeps machine (vault.secrets store.identity.fileName))
    (enough : request.seals = true →
      ∃ nonce rest, vault.random.draw store.codec.algorithm.nonceLength = (some nonce, rest)) :
    Mirrors memory store request machine vault := by
  cases request with
  | put secret =>
      by_cases empty : secret = []
      · subst empty
        exact ⟨rfl, keeps⟩
      · obtain ⟨nonce, rest, drawn⟩ := enough (by simpa [seals] using empty)
        exact mirrors_put_of_nonce keeps empty drawn
  | get =>
      cases known : vault.secrets store.identity.fileName with
      | none =>
          rw [known] at keeps
          have ran := MemoryStore.run_get_of_none keeps
          have specified : Call.specify ⟨store, .get⟩ vault =
              (.secret (.error (.notFound store.secretPath)), vault) := by
            simp only [Call.specify, Call.fileName, known]
          constructor
          · simp only [perform, Store.get, ran, operation, specified, Answer.withoutPath]
          · simpa only [perform, Store.get, ran, operation, specified, known] using keeps
      | some secret =>
          rw [known] at keeps
          have ran := MemoryStore.run_get_of_some keeps
          have specified : Call.specify ⟨store, .get⟩ vault = (.secret (.ok secret), vault) := by
            simp only [Call.specify, Call.fileName, known]
          constructor
          · simp only [perform, Store.get, ran, operation, specified]
          · simpa only [perform, Store.get, ran, operation, specified, known] using keeps
  | delete =>
      constructor
      · rfl
      · simp only [operation, Call.specify, Call.fileName, Vault.secrets_set_self]
        exact MemoryStore.keeps_of_set keeps none

/-- After a request there are nonces for the requests to come. -/
theorem supplies_of_specify
    {count : Nat}
    (request : StoreRequest)
    (enough : vault.random.supplies store.codec.algorithm.nonceLength
      (count + if request.seals then 1 else 0) = true) :
    (Call.specify ⟨store, request.operation⟩ vault).2.random.supplies
      store.codec.algorithm.nonceLength count = true := by
  cases request with
  | put secret =>
      by_cases empty : secret = []
      · subst empty
        exact enough
      · obtain ⟨nonce, rest, drawn, others⟩ :=
          RandomSource.exists_draw_of_supplies (by simpa [seals, empty] using enough)
        simpa only [operation, Call.specify, if_neg empty, drawn, Vault.withRandom] using others
  | get =>
      simp only [operation, Call.specify, Call.fileName]
      cases vault.secrets store.identity.fileName <;> exact enough
  | delete => exact enough

end Steps
end StoreRequest

/-! ## Runs -/

namespace Store

/-- Requests to a memory store are answered like the map answers them. -/
theorem performAll_memory_of_keeps
    {memory : MemoryStore}
    {store : FileStore}
    (requests : List StoreRequest)
    {machine : Machine}
    {vault : Vault}
    (keeps : memory.Keeps machine (vault.secrets store.identity.fileName))
    (enough : vault.random.supplies store.codec.algorithm.nonceLength
      (requests.countP StoreRequest.seals) = true) :
    (performAll (requests.map fun request => (.memory memory, request)) machine).1.map
        Answer.withoutPath =
      (Call.specifyAll (requests.map fun request => ⟨store, request.operation⟩) vault).1.map
        Answer.withoutPath := by
  induction requests generalizing machine vault with
  | nil => rfl
  | cons request rest inductionHypothesis =>
      rw [List.countP_cons] at enough
      have step := StoreRequest.mirrors request keeps (by
        intro sealing
        rw [if_pos sealing] at enough
        obtain ⟨nonce, left, drawn, -⟩ := RandomSource.exists_draw_of_supplies enough
        exact ⟨nonce, left, drawn⟩)
      have others := inductionHypothesis step.keeps
        (StoreRequest.supplies_of_specify request enough)
      simp only [List.map_cons, performAll, Call.specifyAll, step.answer, others]

/-- A memory store answers like a file store. A new memory store can be had on every machine, and
requests to it, spread in any way over copies of it, are answered like the same requests to a usable
file store that keeps nothing yet, but for the path of a missing secret. The file store needs a
nonce for every secret that it seals, and no sealed secret may look like plain text. -/
theorem performAll_memory_eq_file
    {store : FileStore}
    {place : Location}
    (machine other : Machine)
    (usable : store.Usable machine.files place)
    (fresh : machine.files.pathExists store.secretPath = false) :
    ∃ memory after,
      (MemoryStore.create store.identity : Action StoreError MemoryStore) other =
        (.ok memory, after) ∧
      memory.identity = store.identity ∧
      ∀ calls : List (MemoryStore × StoreRequest),
        (∀ call ∈ calls, memory.IsCopy call.1) →
        machine.random.supplies store.codec.algorithm.nonceLength
          ((calls.map Prod.snd).countP StoreRequest.seals) = true →
        (∀ payload ∈ Call.payloads
            ((calls.map Prod.snd).map fun request => ⟨store, request.operation⟩)
            (Vault.empty machine.random),
          Codec.holdsPlaintext payload = false) →
        (performAll (calls.map fun call => (.memory call.1, call.2)) after).1.map
            Answer.withoutPath =
          (performAll ((calls.map Prod.snd).map fun request => (.file store, request))
            machine).1.map Answer.withoutPath := by
  obtain ⟨memory, after, created, sameIdentity, keeps⟩ :=
    MemoryStore.run_create store.identity other
  refine ⟨memory, after, created, sameIdentity, fun calls copies enough unmarked => ?_⟩
  have spread : calls.map (fun call => (Store.memory call.1, call.2)) =
      (calls.map Prod.snd).map fun request => (Store.memory memory, request) := by
    rw [List.map_map]
    apply List.map_congr_left
    intro call member
    rw [(copies call member).eq]
    rfl
  rw [spread, performAll_file]
  generalize calls.map Prod.snd = requests at enough unmarked
  have refines : ∀ call ∈ requests.map (fun request => (⟨store, request.operation⟩ : Call)),
      Refines store.masterKey place machine.files (Vault.empty machine.random) call.store := by
    intro call member
    obtain ⟨request, -, rfl⟩ := List.mem_map.mp member
    exact .of_fresh rfl usable fresh machine.random
  rw [Call.performAll_of_refines _ rfl refines unmarked]
  exact performAll_memory_of_keeps requests keeps enough

/-- Requests of all kinds, with one secret to be sealed. -/
def sampleRequests : List StoreRequest :=
  [.get, .put ['x'], .put [], .get, .delete, .delete, .get]

/-- The sample requests to a memory store, its copy and the copy of that. -/
theorem performAll_memory_eq_file_sample :
    ∃ memory after,
      (MemoryStore.create (FileStore.sample ['a'] ['b']).identity :
        Action StoreError MemoryStore) FileStore.freshMachine = (.ok memory, after) ∧
      (performAll
        [(.memory memory, .get), (.memory memory.copy, .put ['x']), (.memory memory, .put []),
          (.memory memory.copy.copy, .get), (.memory memory, .delete),
          (.memory memory.copy, .delete), (.memory memory, .get)] after).1.map Answer.withoutPath =
        [.secret (.error (.notFound [])), .done (.ok ()), .done (.error .emptySecret),
          .secret (.ok ['x']), .done (.ok ()), .done (.ok ()),
          .secret (.error (.notFound []))] := by
  obtain ⟨memory, after, created, -, alike⟩ := performAll_memory_eq_file
    FileStore.freshMachine FileStore.freshMachine
    (by decide +kernel : (FileStore.sample ['a'] ['b']).Usable _ ["s".toList]) (by decide +kernel)
  have enough : FileStore.freshMachine.random.supplies 24
      (sampleRequests.countP StoreRequest.seals) = true := by
    decide +kernel
  have unmarked : ∀ payload ∈ Call.payloads
      (sampleRequests.map fun request => ⟨FileStore.sample ['a'] ['b'], request.operation⟩)
      (Vault.empty FileStore.freshMachine.random), Codec.holdsPlaintext payload = false := by
    decide +kernel
  have original : memory.IsCopy memory := .self
  refine ⟨memory, after, created, (alike [(memory, .get), (memory.copy, .put ['x']),
    (memory, .put []), (memory.copy.copy, .get), (memory, .delete), (memory.copy, .delete),
    (memory, .get)] ?_ enough unmarked).trans ?_⟩
  · simp [original, original.copy, original.copy.copy]
  · change (performAll (sampleRequests.map fun request =>
      (.file (FileStore.sample ['a'] ['b']), request)) FileStore.freshMachine).1.map _ = _
    decide +kernel

end Store
end Lockbox
