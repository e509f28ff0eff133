import Lockbox.Bytes

/-!
# Random bytes

A random source is the list of the bytes it is going to deliver, cut into segments by moments at
which it fails. A request is met from one segment or not at all, and a request that is not met
takes nothing.
-/

namespace Lockbox

/-- A part of what a random source is going to do. -/
inductive RandomSegment
  /-- Bytes that are delivered on request. -/
  | bytes (remaining : Bytes)
  /-- One failure. -/
  | outage
  deriving DecidableEq, Repr

/-- All that a random source is going to do, in order. After the last segment it fails. -/
abbrev RandomSource := List RandomSegment

namespace RandomSource

/-- The number of bytes not yet delivered. -/
def left : RandomSource → Nat
  | [] => 0
  | .bytes remaining :: rest => remaining.length + left rest
  | .outage :: rest => left rest

/-- A request for `count` bytes: the bytes, unless the request fails, and the source after it.
Used-up segments at the front are dropped first, then an outage fails the request and is over. -/
def draw (count : Nat) : RandomSource → Option (FixedBytes count) × RandomSource
  | [] => (FixedBytes.ofBytes? count [], [])
  | .outage :: rest => (none, rest)
  | .bytes [] :: rest => draw count rest
  | .bytes (first :: others) :: rest =>
    let remaining := first :: others
    if enough : count ≤ remaining.length then
      (some ⟨remaining.take count, List.length_take_of_le enough⟩,
        .bytes (remaining.drop count) :: rest)
    else (none, .bytes remaining :: rest)

/-- The bytes of a request that is met are bytes of the source. -/
theorem left_of_draw_eq_some {count : Nat} {source rest : RandomSource} {drawn : FixedBytes count}
    (met : source.draw count = (some drawn, rest)) : source.left = rest.left + count := by
  induction source with
  | nil =>
    simp only [draw, Prod.mk.injEq, FixedBytes.ofBytes?_eq_some_iff] at met
    obtain ⟨empty, rfl⟩ := met
    have length := drawn.property
    rw [empty] at length
    simpa [left] using length
  | cons segment source inductionHypothesis =>
    cases segment with
    | outage => simp [draw] at met
    | bytes remaining =>
      cases remaining with
      | nil => simpa [left] using inductionHypothesis (by simpa [draw] using met)
      | cons first others =>
        simp only [draw] at met
        split at met
        next enough =>
          obtain ⟨-, rfl⟩ := Prod.mk.inj met
          simp only [left, List.length_drop]
          omega
        next => simp at met

end RandomSource

/-- A computation that may request random bytes and may fail. What it has requested stays
requested when it fails. -/
abbrev Drawing (ε α : Type) := ExceptT ε (StateM RandomSource) α

namespace Drawing

/-- A request for `count` bytes, which fails in the given way. -/
def request {ε : Type} (failure : ε) (count : Nat) : Drawing ε (FixedBytes count) := fun source =>
  match source.draw count with
  | (some drawn, rest) => (.ok drawn, rest)
  | (none, rest) => (.error failure, rest)

end Drawing
end Lockbox
