import ExpiringCache.Instant

/-!
# Entries

A stored value with the instant from which it no longer counts. An entry is expired at exactly
that instant and at every later one.
-/

namespace ExpiringCache

/-- A stored value; without an expiration it is kept until it is deleted. -/
structure Entry where
  value : String
  expiresAt : Option Instant
  deriving DecidableEq

namespace Entry

/-- Whether the entry has run out. -/
def isExpiredAt (e : Entry) (now : Instant) : Bool :=
  match e.expiresAt with
  | none => false
  | some t => decide (t ≤ now)

/-- The bytes that a key and the entry's value take. -/
def footprint (e : Entry) (key : String) : Nat := key.utf8ByteSize + e.value.utf8ByteSize

theorem isExpiredAt_eq_true_iff {e : Entry} {now : Instant} :
    e.isExpiredAt now = true ↔ ∃ t, e.expiresAt = some t ∧ t ≤ now := by
  unfold isExpiredAt
  split <;> simp_all

theorem isExpiredAt_mono {e : Entry} {s t : Instant} (hst : s ≤ t)
    (h : e.isExpiredAt s = true) : e.isExpiredAt t = true := by
  obtain ⟨u, hu, hs⟩ := isExpiredAt_eq_true_iff.1 h
  exact isExpiredAt_eq_true_iff.2 ⟨u, hu, Int.le_trans hs hst⟩

end Entry

end ExpiringCache
