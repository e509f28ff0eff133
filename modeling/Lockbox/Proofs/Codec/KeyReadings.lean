import Lockbox.Proofs.Base64.Grammar
import Lockbox.Proofs.Codec.Keys
import Lockbox.Proofs.Codec.Readings
import Mathlib.Data.List.Nodup

/-!
# The readings of a key

A key is read as it is, as what it spells, and as what that spells. Each of these readings is
shorter than the one before, so no two of them are equally long (`Key.nodup_lengths_readings`). At
most one of them is a cipher key, and it is found in whatever order they are tried
(`Key.resolve_soleReading`).
-/

namespace Lockbox

/-- Where no two buffers are equally long, the one of a given length is found wherever it stands. -/
theorem FixedBytes.findSome?_ofBytes?_eq_some_iff
    {length : Nat}
    {list : List Bytes}
    {fixed : FixedBytes length}
    (distinct : (list.map List.length).Nodup) :
    list.findSome? (ofBytes? length) = some fixed ↔ fixed.val ∈ list := by
  induction list with
  | nil => simp
  | cons head tail inductionHypothesis =>
      rw [List.map_cons, List.nodup_cons] at distinct
      rw [List.findSome?_cons, List.mem_cons]
      cases found : ofBytes? length head with
      | some first =>
          have firstIsHead := ofBytes?_eq_some_iff.mp found
          have notInTail : fixed.val ∉ tail := by
            intro member
            apply distinct.1
            rw [← firstIsHead, first.property, ← fixed.property]
            exact List.mem_map_of_mem member
          simp only [Option.some.injEq, notInTail, or_false]
          rw [← firstIsHead, Subtype.ext_iff, eq_comm]
      | none =>
          have misfit := ofBytes?_eq_none_iff.mp found
          have notHead : fixed.val ≠ head := by
            rintro rfl
            exact misfit fixed.property
          simp only [inductionHypothesis distinct.2, notHead, false_or]

namespace Key

variable {key : Bytes}

/-! ## The readings -/

/-- The readings of a key are those of any buffer. -/
theorem mem_readings_iff
    {reading : Bytes} :
    reading ∈ readings key ↔ Codec.Reading key reading := by
  constructor
  · intro member
    simp only [readings, List.mem_append, Option.mem_toList, List.mem_singleton,
      Option.bind_eq_some_iff] at member
    rcases member with (once | rfl) | ⟨payload, once, again⟩
    · exact .once (by rwa [Base64.Token.decode?_trim])
    · exact .plain
    · exact .twice (by rwa [Base64.Token.decode?_trim]) again
  · intro isReading
    simp only [readings, List.mem_append, Option.mem_toList, List.mem_singleton,
      Option.bind_eq_some_iff]
    cases isReading with
    | plain => exact Or.inl (Or.inr rfl)
    | once decoded =>
        rw [Base64.Token.decode?_trim] at decoded
        exact Or.inl (Or.inl decoded)
    | twice decoded decodedAgain =>
        rw [Base64.Token.decode?_trim] at decoded
        exact Or.inr ⟨_, decoded, decodedAgain⟩

/-- No two readings of a key are equally long. -/
theorem nodup_lengths_readings (key : Bytes) :
    ((readings key).map List.length).Nodup := by
  rw [readings]
  cases once : Base64.Token.decode? key with
  | none => simp
  | some payload =>
      have shorter := Base64.Token.length_lt_of_decode? once
      cases twice : Base64.Token.decode? payload with
      | none =>
          have apart : payload.length ≠ (Bytes.trim key).length := by omega
          simpa [twice] using apart
      | some inner =>
          have evenShorter := Base64.Token.length_lt_of_decode? twice
          have notLonger : (Bytes.trim payload).length ≤ payload.length :=
            length_trimWhile_le Bytes.isBlank payload
          have apart : (payload.length ≠ (Bytes.trim key).length ∧ payload.length ≠ inner.length) ∧
              (Bytes.trim key).length ≠ inner.length := by
            omega
          simpa [twice] using apart

/-- At most one reading of a key has a given length. -/
theorem countP_readings_le_one
    (key : Bytes)
    (length : Nat) :
    (readings key).countP (·.length == length) ≤ 1 := by
  have once := List.nodup_iff_count_le_one.mp (nodup_lengths_readings key) length
  rwa [List.count, List.countP_map] at once

/-! ## Resolving -/

/-- A key is resolved to the same outcome in whatever order its readings are tried. -/
theorem resolve_eq_of_perm
    {order : List Bytes}
    (reordered : order.Perm (readings key)) :
    resolve key =
      match order.findSome? (FixedBytes.ofBytes? 32) with
      | some cipherKey => .ok cipherKey
      | none => .error (.invalidKey .unresolvable) := by
  have distinct := nodup_lengths_readings key
  have distinctToo := (reordered.map List.length).nodup_iff.mpr distinct
  have same : order.findSome? (FixedBytes.ofBytes? 32) =
      (readings key).findSome? (FixedBytes.ofBytes? 32) := by
    ext cipherKey
    rw [FixedBytes.findSome?_ofBytes?_eq_some_iff distinctToo,
      FixedBytes.findSome?_ofBytes?_eq_some_iff distinct, reordered.mem_iff]
  rw [same]
  rfl

/-- A key resolves to a cipher key exactly when that is one of its readings. -/
theorem resolve_eq_ok_iff
    {cipherKey : CipherKey} :
    resolve key = .ok cipherKey ↔ Codec.Reading key cipherKey.val := by
  rw [← mem_readings_iff,
    ← FixedBytes.findSome?_ofBytes?_eq_some_iff (nodup_lengths_readings key), resolve]
  cases (readings key).findSome? (FixedBytes.ofBytes? 32) <;> simp

/-- A key none of whose readings is as long as a cipher key is refused. -/
theorem resolve_eq_error
    (misfits : ∀ reading, Codec.Reading key reading → reading.length ≠ 32) :
    resolve key = .error (.invalidKey .unresolvable) := by
  have notFound : (readings key).findSome? (FixedBytes.ofBytes? 32) = none := by
    rw [List.findSome?_eq_none_iff]
    intro reading member
    exact FixedBytes.ofBytes?_eq_none_iff.mpr (misfits reading (mem_readings_iff.mp member))
  rw [resolve, notFound]

/-- Every spelling of a cipher key resolves to it, and so does every spelling of such a spelling. -/
theorem resolve_of_spelling
    {cipherKey : CipherKey}
    {text : Bytes}
    (spelling : Base64.Spelling (Base64.encode .urlSafe cipherKey.val) text) :
    resolve text = .ok cipherKey ∧
      ∀ wrapped, Base64.Spelling (Base64.encode .urlSafe text) wrapped →
        resolve wrapped = .ok cipherKey := by
  have long : 12 ≤ cipherKey.val.length := by
    rw [cipherKey.property]
    decide
  have decoded := Base64.Token.decode?_of_spelling long spelling
  refine ⟨resolve_eq_ok_iff.mpr (.once decoded), fun wrapped spellingAgain => ?_⟩
  have notLonger := length_trimWhile_le Bytes.isBlank text
  have shorter := Base64.Token.length_lt_of_decode? decoded
  rw [Bytes.trim_trim, Bytes.trim] at shorter
  have longText : 12 ≤ text.length := by omega
  have decodedOuter := Base64.Token.decode?_of_spelling longText spellingAgain
  rw [Base64.Token.decode?_trim] at decoded
  exact resolve_eq_ok_iff.mpr (.twice decodedOuter decoded)

/-- A key that is as long as a cipher key is one, without the white space around it. -/
theorem resolve_of_isValid
    (valid : isValid key = true) :
    ∃ cipherKey : CipherKey, cipherKey.val = Bytes.trim key ∧ resolve key = .ok cipherKey :=
  ⟨⟨Bytes.trim key, beq_iff_eq.mp valid⟩, rfl, resolve_eq_ok_iff.mpr .plain⟩

/-- A key has at most one reading that is as long as a cipher key, and resolving finds that one in
whatever order the readings are tried. So the text of a cipher key stands for it, wrapped once or
twice, a key of the right length stands for itself, and the key text of a master key stands for the
digest of its bytes. -/
theorem resolve_soleReading :
    (∀ key : Bytes,
      (readings key).countP (·.length == 32) ≤ 1 ∧
      (∀ reading, reading ∈ readings key ↔ Codec.Reading key reading) ∧
      (∀ cipherKey : CipherKey, resolve key = .ok cipherKey ↔ Codec.Reading key cipherKey.val) ∧
      ((∀ reading, Codec.Reading key reading → reading.length ≠ 32) →
        resolve key = .error (.invalidKey .unresolvable)) ∧
      (∀ order : List Bytes, order.Perm (readings key) →
        resolve key =
          match order.findSome? (FixedBytes.ofBytes? 32) with
          | some cipherKey => .ok cipherKey
          | none => .error (.invalidKey .unresolvable)) ∧
      (isValid key = true →
        ∃ cipherKey : CipherKey, cipherKey.val = Bytes.trim key ∧ resolve key = .ok cipherKey)) ∧
    (∀ (cipherKey : CipherKey) (text : Bytes),
      Base64.Spelling (Base64.encode .urlSafe cipherKey.val) text →
        resolve text = .ok cipherKey ∧
          ∀ wrapped, Base64.Spelling (Base64.encode .urlSafe text) wrapped →
            resolve wrapped = .ok cipherKey) ∧
    ∀ masterKey : MasterKey,
      resolve masterKey.cipherKeyText = .ok (Sha256.digest masterKey.bytes.val) := by
  refine ⟨fun key => ?_, fun _ _ => resolve_of_spelling, MasterKey.resolve_cipherKeyText⟩
  exact ⟨countP_readings_le_one key 32, fun _ => mem_readings_iff, fun _ => resolve_eq_ok_iff,
    resolve_eq_error, fun _ => resolve_eq_of_perm, resolve_of_isValid⟩

/-- Thirty-two bytes, wrapped in the standard alphabet between blanks and once more with two
marks. -/
theorem resolve_soleReading_wrapped :
    resolve (Base64.encode .urlSafe
        ([0x20] ++ (Base64.Alphabet.standard.respell
          (Base64.encode .urlSafe (List.replicate 32 0xFF)) ++ List.replicate 1 Base64.padMark) ++
          [0x0A])) =
      .ok ⟨List.replicate 32 0xFF, rfl⟩ := by
  have spelling : Base64.Spelling (Base64.encode .urlSafe (List.replicate 32 0xFF)) _ :=
    .intro .standard 1 (by decide) [0x20] [0x0A] (by decide +kernel) (by decide +kernel)
  exact (resolve_soleReading.2.1 ⟨List.replicate 32 0xFF, rfl⟩ _ spelling).2 _ (.refl _)

end Key
end Lockbox
