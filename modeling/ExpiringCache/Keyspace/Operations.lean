import ExpiringCache.Guarded
import ExpiringCache.Keyspace.Search
import ExpiringCache.Lifetime

/-!
# Operations on a keyspace

What clients ask of a keyspace, with the reports that each operation makes. An operation is given
the instants at which it reads the clock and consists of one or two sections under the lock. A
look for a key is one section; only if it finds the key expired does a second section, under the
exclusive lock, look again and remove the entry if it is still expired. An operation is reported
to take the time between its first and its last reading of the clock.
-/

namespace ExpiringCache

namespace Keyspace

/-- The reports of the size of a keyspace. -/
def sizeReports (ks : Keyspace) (threshold : Nat) : List Report :=
  let f := ks.footprint threshold
  [.size f.items f.bytes, .elapsed .sizeCalculation 0]

end Keyspace

/-- The reports at the end of an operation. -/
def finishReports (op : Operation) (nanos : Nat) (success : Bool) : List Report :=
  [.elapsed op nanos, .outcome op success]

namespace Guarded

/-- An operation that ends in success. -/
def succeed {α σ : Type} (g : Guarded α σ) (op : Operation) : Guarded α σ :=
  g.report (finishReports op 0 true)

end Guarded

namespace Keyspace

/-- Stores a value under a key, unless its time to live is none. -/
def set (ks : Keyspace) (threshold : Nat) (key value ttl : String) (now : Instant) :
    Guarded (Except CacheError Unit) Keyspace :=
  match expirationFromTtl ttl now with
  | .error e => (Guarded.pure (.error e) ks).report (finishReports .set 0 false)
  | .ok expiresAt =>
    let stored := ks.insert key value expiresAt
    ((Guarded.write (.ok (), stored)).report (stored.sizeReports threshold)).succeed .set

/-- The live value of a key, by one look or two. -/
def get (ks : Keyspace) (key : String) (first second : Instant) :
    Guarded (Option String) Keyspace :=
  (Guarded.read (·.glance key first) ks).andThen fun
    | .absent, ks => (Guarded.pure none ks).report (finishReports .get 0 false)
    | .live v, ks => (Guarded.pure (some v) ks).report (finishReports .get 0 true)
    | .expired, ks =>
      (Guarded.write (ks.recheck key second)).andThen fun value ks =>
        (Guarded.pure value ks).report
          (finishReports .get (second.since first) value.isSome)

/-- Deletes a key, and says whether it was stored. -/
def deleteAs (ks : Keyspace) (op : Operation) (key : String) : Guarded Bool Keyspace :=
  (Guarded.write (ks.delete key)).andThen fun existed ks =>
    (Guarded.pure existed ks).report (finishReports op 0 existed)

/-- The operation as which a search is counted. -/
def searchOperation : SearchMode → Operation
  | .wildcard => .wildcard
  | .regex => .regex

/-- The live keys that a pattern matches. -/
def searchFor (ks : Keyspace) (pattern : String) (mode : SearchMode) (now : Instant) :
    Guarded (Except CacheError (List String)) Keyspace :=
  match Matcher.compile pattern mode with
  | .error fault =>
    (Guarded.pure (.error (.ofPattern pattern fault)) ks).report
      (finishReports (searchOperation mode) 0 false)
  | .ok m =>
    (Guarded.read (fun ks => .ok (ks.search m now)) ks).succeed (searchOperation mode)

/-- Removes every key, and gives the number of entries that there were. -/
def reset (ks : Keyspace) (threshold : Nat) : Guarded Nat Keyspace :=
  (Guarded.write ks.clear).andThen fun count cleared =>
    ((Guarded.pure count cleared).report (cleared.sizeReports threshold)).succeed .reset

end Keyspace

end ExpiringCache
