import ExpiringCache.Evictor
import ExpiringCache.Keyspace.Operations
import ExpiringCache.Settings
import ExpiringCache.Telemetry.Stats

/-!
# The engine

A cache in service: a keyspace with its evictor, and statistics if anyone wants them. Each
operation of the keyspace is carried out on the engine, which counts the reports.
-/

namespace ExpiringCache

/-- A keyspace in service. Without statistics its reports go nowhere. -/
structure Engine where
  keyspace : Keyspace
  sampleThreshold : Nat
  evictor : Evictor
  stats : Option Stats

namespace Engine

/-- An empty cache with its evictor running, whose reports are counted. -/
def start (settings : EngineSettings) : Engine :=
  ⟨.empty, settings.sampleThreshold, .start settings.batch, some .zero⟩

/-- An empty cache with standard settings, whose reports go nowhere. -/
def unobserved : Engine := { start .standard with stats := none }

/-- The engine after a call on its keyspace, with the answer and the reports that were heard. -/
def absorb {α : Type} (e : Engine) (g : Guarded α Keyspace) : Guarded α Engine where
  answer := g.answer
  state := { e with keyspace := g.state, stats := e.stats.map (·.recordAll g.reports) }
  reports := if e.stats.isSome then g.reports else []

/-- Stores a value under a key. -/
def set (e : Engine) (key value ttl : String) (now : Instant) :
    Guarded (Except CacheError Unit) Engine :=
  e.absorb (e.keyspace.set e.sampleThreshold key value ttl now)

/-- The live value of a key. -/
def get (e : Engine) (key : String) (first second : Instant) : Guarded (Option String) Engine :=
  e.absorb (e.keyspace.get key first second)

/-- Deletes a key, and says whether it was stored. -/
def del (e : Engine) (key : String) : Guarded Bool Engine :=
  e.absorb (e.keyspace.deleteAs .del key)

/-- Lets a key expire at once, and says whether it was stored. -/
def expireKey (e : Engine) (key : String) : Guarded Bool Engine :=
  e.absorb (e.keyspace.deleteAs .expireKey key)

/-- The live keys that a pattern matches. -/
def search (e : Engine) (pattern : String) (mode : SearchMode) (now : Instant) :
    Guarded (Except CacheError (List String)) Engine :=
  e.absorb (e.keyspace.searchFor pattern mode now)

/-- Removes every key, and gives the number of entries that there were. -/
def reset (e : Engine) : Guarded Nat Engine := e.absorb (e.keyspace.reset e.sampleThreshold)

/-- How many entries are stored, expired ones included. -/
def size (e : Engine) : Guarded Nat Engine := e.absorb (Guarded.read Keyspace.size e.keyspace)

/-- Whether nothing is stored. -/
def isEmpty (e : Engine) : Guarded Bool Engine :=
  e.absorb (Guarded.read Keyspace.isEmpty e.keyspace)

/-- Some ticks of the evictor's timer. -/
def ticks (e : Engine) (count : Nat) (now : Instant) : Guarded Unit Engine :=
  e.absorb (e.evictor.ticks e.keyspace now count)

/-- Stops the evictor for good. -/
def shutdown (e : Engine) : Engine := { e with evictor := e.evictor.shutdown }

end Engine

end ExpiringCache
