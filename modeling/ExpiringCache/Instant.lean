/-!
# Instants and durations

An instant counts nanoseconds from an arbitrary origin and holds what a signed 64-bit count of
seconds with a nanosecond part can hold. A signed duration keeps its sign apart from its size, so
minus zero is a duration of its own. Applying a duration to an instant either gives the exact
sum, or says that a future instant does not fit, or leaves the instant where it was when a past
one does not fit.
-/

namespace ExpiringCache

/-- Nanoseconds in one second. -/
def nanosPerSecond : Nat := 1000000000

/-- One past the largest number of seconds, and minus the smallest, that an instant can hold. -/
def secondsBound : Nat := 9223372036854775808

/-- A point in time, in nanoseconds from the origin of the clock. -/
structure Instant where
  nanos : Int
  lower : -((secondsBound * nanosPerSecond : Nat) : Int) ≤ nanos
  upper : nanos < ((secondsBound * nanosPerSecond : Nat) : Int)

namespace Instant

@[ext]
protected theorem ext {s t : Instant} (h : s.nanos = t.nanos) : s = t := by
  cases s; cases t; cases h; rfl

instance : DecidableEq Instant := fun s t =>
  if h : s.nanos = t.nanos then isTrue (Instant.ext h)
  else isFalse fun e => h (e ▸ rfl)

instance : LE Instant := ⟨fun s t => s.nanos ≤ t.nanos⟩

instance : LT Instant := ⟨fun s t => s.nanos < t.nanos⟩

instance (s t : Instant) : Decidable (s ≤ t) := inferInstanceAs (Decidable (s.nanos ≤ t.nanos))

instance (s t : Instant) : Decidable (s < t) := inferInstanceAs (Decidable (s.nanos < t.nanos))

theorem le_iff {s t : Instant} : s ≤ t ↔ s.nanos ≤ t.nanos := Iff.rfl

theorem lt_iff {s t : Instant} : s < t ↔ s.nanos < t.nanos := Iff.rfl

/-- The instant so many nanoseconds from the origin, if an instant can hold it. -/
def ofNanos? (nanos : Int) : Option Instant :=
  if h : -((secondsBound * nanosPerSecond : Nat) : Int) ≤ nanos ∧
      nanos < ((secondsBound * nanosPerSecond : Nat) : Int) then
    some ⟨nanos, h.1, h.2⟩
  else
    none

theorem ofNanos?_eq_some_iff {n : Int} {t : Instant} : ofNanos? n = some t ↔ t.nanos = n := by
  unfold ofNanos?
  split
  · simp only [Option.some.injEq]
    exact ⟨fun h => h ▸ rfl, fun h => Instant.ext h.symm⟩
  · rename_i hn
    simp only [reduceCtorEq, false_iff]
    rintro rfl
    exact hn ⟨t.lower, t.upper⟩

/-- The origin of the clock. -/
def origin : Instant := ⟨0, by decide, by decide⟩

/-- How many nanoseconds lie between an earlier instant and a later one; none if it is not
earlier. -/
def since (later earlier : Instant) : Nat := (later.nanos - earlier.nanos).toNat

end Instant

/-- A length of time with a direction. -/
structure SignedDuration where
  negative : Bool
  magnitude : Nat
  deriving DecidableEq, Repr

namespace SignedDuration

/-- The number of nanoseconds that the duration denotes. -/
def nanos (d : SignedDuration) : Int := if d.negative then -(d.magnitude : Int) else d.magnitude

/-- The duration applied to an instant. A past instant that does not fit is replaced by the
instant itself, where any duration that is not positive has already run out. -/
def offset (d : SignedDuration) (now : Instant) : Option Instant :=
  if d.negative then
    some ((Instant.ofNanos? (now.nanos - d.magnitude)).getD now)
  else
    Instant.ofNanos? (now.nanos + d.magnitude)

end SignedDuration

end ExpiringCache
