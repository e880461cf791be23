import ExpiringCache.Keyspace.Basic
import ExpiringCache.Matcher

/-!
# Searching a keyspace

The live keys that a matcher accepts, in order. A search for a prefix walks only the part of the
index where such keys stand.
-/

namespace ExpiringCache.Keyspace

/-- The indexed keys that a matcher accepts. -/
def candidates (ks : Keyspace) : Matcher → List String
  | .startsWith start => ks.index.withPrefix start
  | m => ks.index.keys.filter m.accepts

/-- The live keys that a matcher accepts. Expired entries are passed over and left in place. -/
def search (ks : Keyspace) (m : Matcher) (now : Instant) : List String :=
  (ks.candidates m).filter (ks.isLive now)

end ExpiringCache.Keyspace
