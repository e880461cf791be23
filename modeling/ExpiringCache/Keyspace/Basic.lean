import ExpiringCache.Agenda
import ExpiringCache.Entry
import ExpiringCache.KeyIndex
import ExpiringCache.KeyMap
import ExpiringCache.Keyspace.Footprint

/-!
# The keyspace

The stored entries, the agenda of their expirations and the index of their keys, changed
together. A key set again keeps the records of its earlier expirations on the agenda until they
come due or the key is deleted; a record that no longer describes its key's entry is stale, and
popping it has no further effect.
-/

namespace ExpiringCache

/-- Entries by key, with what is to expire and the keys in order. -/
structure Keyspace where
  entries : KeyMap Entry
  agenda : Agenda
  index : KeyIndex
  deriving DecidableEq

/-- What a look for a key finds. -/
inductive Glance where
  | absent
  | live (value : String)
  | expired
  deriving DecidableEq, Repr

namespace Keyspace

/-- The keyspace that stores nothing. -/
def empty : Keyspace := ⟨.empty, .empty, .empty⟩

/-- How many entries are stored, expired ones included. -/
def size (ks : Keyspace) : Nat := ks.entries.size

/-- Whether nothing is stored. -/
def isEmpty (ks : Keyspace) : Bool := ks.entries.isEmpty

/-- How many records the agenda holds, stale ones included. -/
def pending (ks : Keyspace) : Nat := ks.agenda.size

/-- How many keys are indexed. -/
def indexed (ks : Keyspace) : Nat := ks.index.size

/-- The stored entry of a key, live or expired. -/
def lookup (ks : Keyspace) (key : String) : Option Entry := ks.entries.get? key

/-- The agenda after a key was given an expiration, or none. -/
def schedule (agenda : Agenda) (key : String) : Option Instant → Agenda
  | none => agenda
  | some t => agenda.push ⟨t, key⟩

/-- Writes or overwrites a key. -/
def insert (ks : Keyspace) (key value : String) (expiresAt : Option Instant) : Keyspace :=
  ⟨ks.entries.insert key ⟨value, expiresAt⟩, schedule ks.agenda key expiresAt,
    ks.index.insert key⟩

/-- Takes a key's entry out and leaves its records on the agenda. -/
def remove (ks : Keyspace) (key : String) : Keyspace :=
  match ks.lookup key with
  | none => ks
  | some _ => ⟨ks.entries.erase key, ks.agenda, ks.index.erase key⟩

/-- Takes a key out with all its records, and says whether it was stored. -/
def delete (ks : Keyspace) (key : String) : Bool × Keyspace :=
  match ks.lookup key with
  | none => (false, ks)
  | some _ => (true, ⟨ks.entries.erase key, ks.agenda.removeKey key, ks.index.erase key⟩)

/-- Whether a record gives the expiration that its key's entry has now. -/
def isCurrent (ks : Keyspace) (r : DueRecord) : Bool :=
  match ks.lookup r.key with
  | none => false
  | some e => e.expiresAt == some r.expiresAt

/-- Pops due records, stale ones included and at most as many as the limit, and removes the
entries that they describe. Gives the number of entries removed. -/
def evictExpired (ks : Keyspace) (now : Instant) : Nat → Nat × Keyspace
  | 0 => (0, ks)
  | limit + 1 =>
    match ks.agenda.popDue now with
    | none => (0, ks)
    | some (r, agenda) =>
      let popped := { ks with agenda }
      if ks.isCurrent r then
        let (removed, after) := (popped.remove r.key).evictExpired now limit
        (removed + 1, after)
      else
        popped.evictExpired now limit

/-- Whether a key has an entry that has not expired. -/
def isLive (ks : Keyspace) (now : Instant) (key : String) : Bool :=
  match ks.lookup key with
  | none => false
  | some e => ! e.isExpiredAt now

/-- The first look for a key. -/
def glance (ks : Keyspace) (key : String) (now : Instant) : Glance :=
  match ks.lookup key with
  | none => .absent
  | some e => if e.isExpiredAt now then .expired else .live e.value

/-- The second look for a key, which alone decides. An entry that is still expired is removed,
and one that was written again meanwhile is left alone. -/
def recheck (ks : Keyspace) (key : String) (now : Instant) : Option String × Keyspace :=
  match ks.lookup key with
  | none => (none, ks)
  | some e => if e.isExpiredAt now then (none, ks.remove key) else (some e.value, ks)

/-- Empties the keyspace and gives the number of entries that there were. -/
def clear (ks : Keyspace) : Nat × Keyspace := (ks.size, empty)

/-- The footprint of the stored entries. -/
def footprint (ks : Keyspace) (threshold : Nat) : Footprint :=
  Footprint.estimate threshold ks.entries.entries

end Keyspace

end ExpiringCache
