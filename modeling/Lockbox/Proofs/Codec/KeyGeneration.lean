import Lockbox.Proofs.Codec.KeyReadings

/-!
# Generated keys

A key is made of the accepted bytes of as few pools as hold enough of them
(`Key.gather_eq_some_iff`), and none is made exactly when a pool that is still missing cannot be
drawn (`Key.gather_eq_none_iff`). What a key is made of survives trimming, so a key is valid exactly
when it has the length of a cipher key, and it stands for itself.
-/

namespace Lockbox

namespace RandomSource

/-- The bytes of some pools drawn one after the other and the source after them, unless one of them
cannot be drawn. -/
def drawPools : Nat → RandomSource → Option (Bytes × RandomSource)
  | 0, source => some ([], source)
  | count + 1, source =>
    match source.draw Key.poolSize with
    | (none, _) => none
    | (some pool, rest) =>
      (drawPools count rest).map fun drawn => (pool.val ++ drawn.1, drawn.2)

section Pools

variable {source rest final : RandomSource} {count : Nat} {bytes : Bytes}

theorem drawPools_zero_eq_some_iff :
    drawPools 0 source = some (bytes, final) ↔ bytes = [] ∧ final = source := by
  rw [drawPools, Option.some.injEq, Prod.mk.injEq, eq_comm, eq_comm (a := source)]

theorem drawPools_succ_of_none
    (undrawn : source.draw Key.poolSize = (none, rest)) :
    drawPools (count + 1) source = none := by
  simp only [drawPools, undrawn]

theorem drawPools_succ_eq_some_iff
    {pool : FixedBytes Key.poolSize}
    (drawn : source.draw Key.poolSize = (some pool, rest)) :
    drawPools (count + 1) source = some (bytes, final) ↔
      ∃ more, bytes = pool.val ++ more ∧ drawPools count rest = some (more, final) := by
  simp only [drawPools, drawn, Option.map_eq_some_iff, Prod.mk.injEq, Prod.exists]
  constructor
  · rintro ⟨more, other, drawnMore, rfl, rfl⟩
    exact ⟨more, rfl, drawnMore⟩
  · rintro ⟨more, rfl, drawnMore⟩
    exact ⟨more, final, drawnMore, rfl, rfl⟩

end Pools

end RandomSource

namespace Key

open RandomSource

/-! ## Accepted bytes -/

/-- The bytes that choose a character. -/
def accepted (bytes : Bytes) : Bytes :=
  bytes.filter fun byte => byte.toNat < 248

/-- The character that an accepted byte chooses. -/
def letter (byte : UInt8) : UInt8 :=
  charset.getD (byte.toNat % 62) 0

theorem chosen_eq (pool : Bytes) : chosen pool = (accepted pool).map letter := by
  have size : charset.length = 62 := by decide
  have bound : acceptBelow = 248 := by decide
  simp only [chosen, accepted, size, bound]
  rfl

theorem accepted_append (front back : Bytes) :
    accepted (front ++ back) = accepted front ++ accepted back :=
  List.filter_append ..

/-! ## Gathering characters -/

/-- The accepted bytes of some pools are enough, and those of fewer pools are not. -/
structure LeastPools
    (missing : Nat)
    (source : RandomSource)
    (count : Nat)
    (bytes : Bytes)
    (rest : RandomSource) : Prop where
  drawn : source.drawPools count = some (bytes, rest)
  enough : missing ≤ (accepted bytes).length
  least : ∀ fewer < count, ∀ others final, source.drawPools fewer = some (others, final) →
    (accepted others).length < missing

section Gathering

variable {missing count : Nat} {source rest final : RandomSource} {bytes key : Bytes}
  {pool : FixedBytes poolSize}

theorem leastPools_none_missing :
    LeastPools 0 source count bytes final ↔ count = 0 ∧ bytes = [] ∧ final = source := by
  constructor
  · intro pools
    cases count with
    | zero => exact ⟨rfl, drawPools_zero_eq_some_iff.mp pools.drawn⟩
    | succ count =>
        have fewer := pools.least 0 (Nat.succ_pos count) [] source rfl
        exact absurd fewer (Nat.not_lt_zero _)
  · rintro ⟨rfl, rfl, rfl⟩
    exact ⟨rfl, Nat.zero_le _, fun fewer less => absurd less (Nat.not_lt_zero _)⟩

/-- Where something is missing, no pools are not enough. -/
theorem not_leastPools_zero
    (someMissing : missing ≠ 0) :
    ¬ LeastPools missing source 0 bytes final := by
  intro pools
  obtain ⟨rfl, -⟩ := drawPools_zero_eq_some_iff.mp pools.drawn
  exact someMissing (Nat.le_zero.mp pools.enough)

/-- After one pool, as few pools are needed as for what is still missing then. -/
theorem leastPools_succ_iff
    (someMissing : missing ≠ 0)
    (drawn : source.draw poolSize = (some pool, rest)) :
    LeastPools missing source (count + 1) bytes final ↔
      ∃ more, bytes = pool.val ++ more ∧
        LeastPools (missing - (accepted pool.val).length) rest count more final := by
  constructor
  · intro pools
    obtain ⟨more, rfl, drawnMore⟩ := (drawPools_succ_eq_some_iff drawn).mp pools.drawn
    have enough := pools.enough
    rw [accepted_append, List.length_append] at enough
    refine ⟨more, rfl, drawnMore, by omega, ?_⟩
    intro fewer less others last drawnOthers
    have short := pools.least (fewer + 1) (by omega) (pool.val ++ others) last
      ((drawPools_succ_eq_some_iff drawn).mpr ⟨others, rfl, drawnOthers⟩)
    rw [accepted_append, List.length_append] at short
    omega
  · rintro ⟨more, rfl, pools⟩
    have enough := pools.enough
    refine ⟨(drawPools_succ_eq_some_iff drawn).mpr ⟨more, rfl, pools.drawn⟩, ?_, ?_⟩
    · rw [accepted_append, List.length_append]
      omega
    · intro fewer less others last drawnOthers
      cases fewer with
      | zero =>
          obtain ⟨rfl, -⟩ := drawPools_zero_eq_some_iff.mp drawnOthers
          exact Nat.pos_of_ne_zero someMissing
      | succ fewer =>
          obtain ⟨tail, rfl, drawnTail⟩ := (drawPools_succ_eq_some_iff drawn).mp drawnOthers
          have short := pools.least fewer (by omega) tail last drawnTail
          rw [accepted_append, List.length_append]
          omega

theorem gather_zero (source : RandomSource) : gather 0 source = (some [], source) := by
  rw [gather, if_pos rfl]

theorem gather_of_undrawn
    (someMissing : missing ≠ 0)
    (undrawn : source.draw poolSize = (none, rest)) :
    gather missing source = (none, rest) := by
  rw [gather, if_neg someMissing]
  split
  next other met => rw [undrawn] at met; rw [(Prod.mk.inj met).2]
  next other met => rw [undrawn] at met; cases (Prod.mk.inj met).1

theorem gather_of_drawn
    (someMissing : missing ≠ 0)
    (drawn : source.draw poolSize = (some pool, rest)) :
    gather missing source =
      ((gather (missing - (accepted pool.val).length) rest).1.map
          (((accepted pool.val).map letter).take missing ++ ·),
        (gather (missing - (accepted pool.val).length) rest).2) := by
  have stillMissing : missing - (((accepted pool.val).map letter).take missing).length =
      missing - (accepted pool.val).length := by
    rw [List.length_take, List.length_map]
    omega
  rw [gather, if_neg someMissing]
  split
  next other met => rw [drawn] at met; cases (Prod.mk.inj met).1
  next other after met =>
    rw [drawn] at met
    obtain ⟨same, rfl⟩ := Prod.mk.inj met
    obtain rfl := Option.some.inj same
    rw [← stillMissing, ← chosen_eq]

/-- Induction on the pools that are drawn while characters are missing. -/
theorem gather_induction
    {motive : Nat → RandomSource → Prop}
    (complete : ∀ source, motive 0 source)
    (undrawn : ∀ missing source rest, missing ≠ 0 → source.draw poolSize = (none, rest) →
      motive missing source)
    (drawn : ∀ missing source (pool : FixedBytes poolSize) rest, missing ≠ 0 →
      source.draw poolSize = (some pool, rest) →
      motive (missing - (accepted pool.val).length) rest → motive missing source)
    (missing : Nat)
    (source : RandomSource) :
    motive missing source := by
  refine gather.induct motive complete
    (fun missing source someMissing rest met => undrawn missing source rest someMissing met)
    ?_ missing source
  intro missing source someMissing pool rest met _ characters _ _ _ inductionHypothesis
  have stillMissing : missing - characters.length = missing - (accepted pool.val).length := by
    simp only [characters, chosen_eq, List.length_take, List.length_map]
    omega
  rw [stillMissing] at inductionHypothesis
  exact drawn missing source pool rest someMissing met inductionHypothesis

/-- Characters are gathered from as few pools as hold enough accepted bytes, in their order. -/
theorem gather_eq_some_iff :
    gather missing source = (some key, final) ↔
      ∃ count bytes, LeastPools missing source count bytes final ∧
        key = ((accepted bytes).take missing).map letter := by
  induction missing, source using gather_induction generalizing key final with
  | complete source =>
      rw [gather_zero, Prod.mk.injEq, Option.some.injEq]
      simp only [leastPools_none_missing]
      constructor
      · rintro ⟨rfl, rfl⟩
        exact ⟨0, [], ⟨rfl, rfl, rfl⟩, rfl⟩
      · rintro ⟨-, -, ⟨rfl, rfl, rfl⟩, rfl⟩
        exact ⟨rfl, rfl⟩
  | undrawn missing source rest someMissing undrawn =>
      rw [gather_of_undrawn someMissing undrawn]
      constructor
      · intro impossible
        cases (Prod.mk.inj impossible).1
      · rintro ⟨count, bytes, pools, -⟩
        cases count with
        | zero => exact absurd pools (not_leastPools_zero someMissing)
        | succ count =>
            have drawn := pools.drawn
            rw [drawPools_succ_of_none undrawn] at drawn
            cases drawn
  | drawn missing source pool rest someMissing drawn inductionHypothesis =>
      rw [gather_of_drawn someMissing drawn, Prod.mk.injEq, Option.map_eq_some_iff]
      have joined (more : Bytes) :
          ((accepted (pool.val ++ more)).take missing).map letter =
            ((accepted pool.val).map letter).take missing ++
              ((accepted more).take (missing - (accepted pool.val).length)).map letter := by
        rw [accepted_append, List.take_append, List.map_append, List.map_take]
      constructor
      · rintro ⟨⟨others, gathered, rfl⟩, rfl⟩
        obtain ⟨count, more, pools, rfl⟩ := inductionHypothesis.mp (Prod.ext gathered rfl)
        exact ⟨count + 1, _, (leastPools_succ_iff someMissing drawn).mpr ⟨more, rfl, pools⟩,
          (joined more).symm⟩
      · rintro ⟨count, bytes, pools, rfl⟩
        cases count with
        | zero => exact absurd pools (not_leastPools_zero someMissing)
        | succ count =>
            obtain ⟨more, rfl, morePools⟩ := (leastPools_succ_iff someMissing drawn).mp pools
            have gathered := inductionHypothesis.mpr ⟨count, more, morePools, rfl⟩
            rw [gathered]
            exact ⟨⟨_, rfl, (joined more).symm⟩, rfl⟩

/-- No characters are gathered exactly when the accepted bytes of some pools are not enough and the
next pool cannot be drawn. -/
theorem gather_eq_none_iff :
    gather missing source = (none, final) ↔
      ∃ count bytes rest, source.drawPools count = some (bytes, rest) ∧
        (accepted bytes).length < missing ∧ rest.draw poolSize = (none, final) := by
  induction missing, source using gather_induction generalizing final with
  | complete source =>
      rw [gather_zero]
      constructor
      · intro impossible
        cases (Prod.mk.inj impossible).1
      · rintro ⟨_, _, _, -, short, -⟩
        exact absurd short (Nat.not_lt_zero _)
  | undrawn missing source after someMissing undrawn =>
      rw [gather_of_undrawn someMissing undrawn]
      constructor
      · intro same
        obtain rfl := (Prod.mk.inj same).2
        exact ⟨0, [], source, rfl, Nat.pos_of_ne_zero someMissing, undrawn⟩
      · rintro ⟨count, bytes, rest, drawn, -, undrawnNext⟩
        cases count with
        | zero =>
            obtain ⟨-, rfl⟩ := drawPools_zero_eq_some_iff.mp drawn
            rw [undrawn] at undrawnNext
            rw [(Prod.mk.inj undrawnNext).2]
        | succ count =>
            rw [drawPools_succ_of_none undrawn] at drawn
            cases drawn
  | drawn missing source pool after someMissing drawn inductionHypothesis =>
      rw [gather_of_drawn someMissing drawn, Prod.mk.injEq, Option.map_eq_none_iff]
      constructor
      · rintro ⟨gathered, rfl⟩
        obtain ⟨count, more, rest, drawnMore, short, undrawn⟩ :=
          inductionHypothesis.mp (Prod.ext gathered rfl)
        refine ⟨count + 1, _, rest,
          (drawPools_succ_eq_some_iff drawn).mpr ⟨more, rfl, drawnMore⟩, ?_, undrawn⟩
        rw [accepted_append, List.length_append]
        omega
      · rintro ⟨count, bytes, rest, drawnAll, short, undrawn⟩
        cases count with
        | zero =>
            obtain ⟨-, rfl⟩ := drawPools_zero_eq_some_iff.mp drawnAll
            rw [drawn] at undrawn
            cases (Prod.mk.inj undrawn).1
        | succ count =>
            obtain ⟨more, rfl, drawnMore⟩ := (drawPools_succ_eq_some_iff drawn).mp drawnAll
            rw [accepted_append, List.length_append] at short
            have gathered := inductionHypothesis.mpr
              ⟨count, more, rest, drawnMore, by omega, undrawn⟩
            rw [gathered]
            exact ⟨rfl, rfl⟩

end Gathering

/-! ## Characters of keys -/

/-- Every character of a key is a letter or a digit, so none is white space. -/
theorem letter_alphanumeric (byte : UInt8) :
    (Char.ofNat (letter byte).toNat).isAlphanum = true ∧ Bytes.isBlank (letter byte) = false := by
  have everywhere : ∀ index < 62,
      (Char.ofNat (charset.getD index 0).toNat).isAlphanum = true ∧
        Bytes.isBlank (charset.getD index 0) = false := by
    decide
  exact everywhere _ (Nat.mod_lt _ (by decide))

/-- Trimming does nothing to a key. -/
theorem trim_map_letter (bytes : Bytes) : Bytes.trim (bytes.map letter) = bytes.map letter := by
  have visible : ∀ byte ∈ bytes.map letter, Bytes.isBlank byte = false := by
    intro byte member
    obtain ⟨original, -, rfl⟩ := List.mem_map.mp member
    exact (letter_alphanumeric original).2
  have nothing : ∀ byte ∈ ([] : Bytes), Bytes.isBlank byte = true := by simp
  have trimmed := trimWhile_surrounded nothing visible nothing
  rwa [List.nil_append, List.append_nil] at trimmed

theorem isValid_map_letter_iff
    {bytes : Bytes} :
    isValid (bytes.map letter) = true ↔ bytes.length = 32 := by
  rw [isValid, trim_map_letter, beq_iff_eq, List.length_map]

/-- A key as long as a cipher key stands for itself. -/
theorem resolve_map_letter
    {bytes : Bytes}
    (length : bytes.length = 32) :
    ∃ cipherKey : CipherKey, cipherKey.val = bytes.map letter ∧
      resolve (bytes.map letter) = .ok cipherKey := by
  have resolved := resolve_of_isValid (isValid_map_letter_iff.mpr length)
  rwa [trim_map_letter] at resolved

/-! ## Keys -/

section Generation

variable {length : Nat} {source final : RandomSource}

/-- Where there is room for a key, its outcome is that of gathering its characters, but only a key
as long as a cipher key is handed out. -/
theorem generateOnRequest_eq
    (fits : length ≤ Bytes.maximumLength)
    (source : RandomSource) :
    generateOnRequest length source =
      match gather length source with
      | (none, final) => (.error (.codec .noRandomness), final)
      | (some key, final) =>
        (if length = 32 then .ok key else .error (.codec (.invalidKey (.generatedLength length))),
          final) := by
  rw [generateOnRequest, if_neg (Nat.not_lt.mpr fits), generateOfLength]
  cases gathered : gather length source with
  | mk outcome final =>
      cases outcome with
      | none => rfl
      | some key =>
          obtain ⟨count, bytes, pools, rfl⟩ := gather_eq_some_iff.mp gathered
          have size : ((accepted bytes).take length).length = length :=
            List.length_take_of_le pools.enough
          by_cases isKey : length = 32
          · have valid := isValid_map_letter_iff.mpr (size.trans isKey)
            simp only [valid, if_true, if_pos isKey]
          · have invalid : isValid (((accepted bytes).take length).map letter) = false := by
              rw [← Bool.not_eq_true, isValid_map_letter_iff, size]
              exact isKey
            simp only [invalid, isKey, Bool.false_eq_true, if_false]

theorem generateOnRequest_eq_noRandomness_iff
    (fits : length ≤ Bytes.maximumLength) :
    generateOnRequest length source = (.error (.codec .noRandomness), final) ↔
      gather length source = (none, final) := by
  rw [generateOnRequest_eq fits]
  rcases gather length source with ⟨_ | key, last⟩
  · constructor
    · intro same
      rw [(Prod.mk.inj same).2]
    · intro same
      rw [(Prod.mk.inj same).2]
  · refine iff_of_false (fun same => ?_) (fun same => by cases (Prod.mk.inj same).1)
    have outcome := (Prod.mk.inj same).1
    split at outcome <;> cases outcome

theorem generateOnRequest_eq_iff
    {outcome : Except GenerationFailure Bytes}
    (fits : length ≤ Bytes.maximumLength)
    (otherwise : outcome ≠ .error (.codec .noRandomness)) :
    generateOnRequest length source = (outcome, final) ↔
      ∃ key, gather length source = (some key, final) ∧
        outcome =
          if length = 32 then .ok key
          else .error (.codec (.invalidKey (.generatedLength length))) := by
  rw [generateOnRequest_eq fits]
  rcases gather length source with ⟨_ | key, last⟩
  · refine iff_of_false (fun same => otherwise (Prod.mk.inj same).1.symm) ?_
    rintro ⟨key, same, -⟩
    cases (Prod.mk.inj same).1
  · constructor
    · intro same
      obtain ⟨rfl, rfl⟩ := Prod.mk.inj same
      exact ⟨key, rfl, rfl⟩
    · rintro ⟨other, same, rfl⟩
      obtain ⟨sameKey, rfl⟩ := Prod.mk.inj same
      rw [Option.some.inj sameKey]

/-- Where there is room for a key of the given length, it is made of the accepted bytes of as few
pools as hold enough of them, and no more pools are drawn. Without one of these pools there is no
key, and none of another length than a cipher key's is handed out. A key that is handed out consists
of letters and digits, is valid and stands for itself. -/
theorem generateOnRequest_least
    (fits : length ≤ Bytes.maximumLength)
    (source : RandomSource) :
    (∀ final, generateOnRequest length source = (.error (.codec .noRandomness), final) ↔
      ∃ count bytes rest, source.drawPools count = some (bytes, rest) ∧
        (accepted bytes).length < length ∧ rest.draw poolSize = (none, final)) ∧
    (∀ outcome final, outcome ≠ .error (.codec .noRandomness) →
      (generateOnRequest length source = (outcome, final) ↔
        ∃ count bytes, LeastPools length source count bytes final ∧
          outcome =
            if length = 32 then .ok (((accepted bytes).take length).map letter)
            else .error (.codec (.invalidKey (.generatedLength length))))) ∧
    (length = 0 → (generateOnRequest length source).2 = source) ∧
    ∀ key final, generateOnRequest length source = (.ok key, final) →
      (∀ byte ∈ key, (Char.ofNat byte.toNat).isAlphanum = true) ∧
      isValid key = true ∧
      ∃ cipherKey : CipherKey, cipherKey.val = key ∧ resolve key = .ok cipherKey := by
  refine ⟨?_, ?_, ?_, ?_⟩
  · intro final
    rw [generateOnRequest_eq_noRandomness_iff fits, gather_eq_none_iff]
  · intro outcome final otherwise
    rw [generateOnRequest_eq_iff fits otherwise]
    constructor
    · rintro ⟨key, gathered, rfl⟩
      obtain ⟨count, bytes, pools, rfl⟩ := gather_eq_some_iff.mp gathered
      exact ⟨count, bytes, pools, rfl⟩
    · rintro ⟨count, bytes, pools, rfl⟩
      exact ⟨_, gather_eq_some_iff.mpr ⟨count, bytes, pools, rfl⟩, rfl⟩
  · rintro rfl
    rw [generateOnRequest_eq fits, gather_zero]
  · intro key final generated
    obtain ⟨characters, gathered, outcome⟩ :=
      (generateOnRequest_eq_iff fits (by simp)).mp generated
    obtain ⟨count, bytes, pools, rfl⟩ := gather_eq_some_iff.mp gathered
    have isKey : length = 32 := by
      by_contra otherLength
      rw [if_neg otherLength] at outcome
      cases outcome
    rw [if_pos isKey] at outcome
    obtain rfl := Except.ok.inj outcome
    have size : ((accepted bytes).take length).length = 32 :=
      (List.length_take_of_le pools.enough).trans isKey
    refine ⟨?_, isValid_map_letter_iff.mpr size, resolve_map_letter size⟩
    intro byte member
    obtain ⟨original, -, rfl⟩ := List.mem_map.mp member
    exact (letter_alphanumeric original).1

end Generation

/-- Two pools of which the first holds too few accepted bytes. -/
def stingySource : RandomSource :=
  [.bytes (List.replicate 40 0xFF ++ List.replicate 24 0x3E), .bytes (List.replicate 64 0x01)]

theorem generateOnRequest_least_stingySource :
    generateOnRequest 32 stingySource =
      (.ok (List.replicate 24 0x61 ++ List.replicate 8 0x62), [.bytes []]) := by
  have pools : LeastPools 32 stingySource 2
      (List.replicate 40 0xFF ++ List.replicate 24 0x3E ++ List.replicate 64 0x01)
      [.bytes []] := by
    refine ⟨by decide +kernel, by decide +kernel, ?_⟩
    intro fewer less others final drawn
    obtain rfl | rfl : fewer = 0 ∨ fewer = 1 := by omega
    · obtain ⟨rfl, -⟩ := drawPools_zero_eq_some_iff.mp drawn
      decide
    · have onePool : stingySource.drawPools 1 =
          some (List.replicate 40 0xFF ++ List.replicate 24 0x3E,
            [.bytes [], .bytes (List.replicate 64 0x01)]) := by
        decide +kernel
      rw [onePool] at drawn
      rw [← (Prod.mk.inj (Option.some.inj drawn)).1]
      decide +kernel
  exact ((generateOnRequest_least (by decide) stingySource).2.1 _ _ (by simp)).mpr
    ⟨2, _, pools, by decide +kernel⟩

/-- A key for which no buffer has room is not even begun, although no pool could be drawn for it. -/
theorem generateOnRequest_oversized :
    drawPools 0 [] = some ([], []) ∧
      (accepted []).length < 0x8000000000000000 ∧
      RandomSource.draw poolSize [] = (none, []) ∧
      generateOnRequest 0x8000000000000000 [] = (.error .oversized, []) := by
  exact ⟨rfl, by decide, rfl, rfl⟩

end Key
end Lockbox
