import ExpiringCache.Error
import ExpiringCache.Ttl

/-!
# Lifetimes

When an entry that is stored now with a given time to live expires. A text that denotes no
duration is an error, and so is a future instant that does not fit; it is never wrapped or cut
off.
-/

namespace ExpiringCache

/-- The duration that a text denotes. The empty text denotes none. -/
def SignedDuration.ofSpec (spec : String) : Except CacheError SignedDuration :=
  match SignedDuration.ofText? spec.toList with
  | none => .error (.invalidTtl spec)
  | some d => .ok d

/-- A time to live applied to an instant; with the empty text nothing ever expires. -/
def expirationFromTtl (spec : String) (now : Instant) : Except CacheError (Option Instant) :=
  if spec.isEmpty then .ok none
  else
    match SignedDuration.ofSpec spec with
    | .error e => .error e
    | .ok d =>
      match d.offset now with
      | none => .error (.invalidTtl spec)
      | some t => .ok (some t)

end ExpiringCache
