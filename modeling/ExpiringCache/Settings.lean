/-!
# Settings

What a server is told by its environment, and the part of it that a cache needs. A variable
counts only if it is a decimal number that its setting can hold; otherwise the default stands.
An interval or a batch of zero would keep the evictor from working, so zero never replaces a
value that is in force.
-/

namespace ExpiringCache

/-- Nanoseconds between sweeps, records per sweep, and the entry count from which sizes are
estimated. -/
structure EngineSettings where
  intervalNanos : Nat
  batch : Nat
  sampleThreshold : Nat
  deriving DecidableEq, Repr

namespace EngineSettings

/-- A sweep every minute of at most a thousand records, and estimates from ten thousand entries
on. -/
def standard : EngineSettings := ⟨60 * 1000000000, 1000, 10000⟩

/-- Another interval, unless it is zero. -/
def withInterval (s : EngineSettings) (nanos : Nat) : EngineSettings :=
  if nanos = 0 then s else { s with intervalNanos := nanos }

/-- Another batch, unless it is zero. -/
def withBatch (s : EngineSettings) (batch : Nat) : EngineSettings :=
  if batch = 0 then s else { s with batch := batch }

/-- Another threshold, zero included. -/
def withSampleThreshold (s : EngineSettings) (threshold : Nat) : EngineSettings :=
  { s with sampleThreshold := threshold }

end EngineSettings

/-- The port to serve on, seconds between sweeps, records per sweep, and the entry count from
which sizes are estimated. -/
structure Settings where
  serverPort : Nat
  cleanupInterval : Nat
  evictionBatch : Nat
  sampleThreshold : Nat
  deriving DecidableEq, Repr

namespace Settings

/-- The settings of an empty environment. -/
def standard : Settings := ⟨8080, 60, 1000, 10000⟩

/-- The number that a text denotes: an optional plus sign and at least one ASCII digit, and no
more than the limit. -/
def readNumber? (limit : Nat) (text : String) : Option Nat :=
  let digits := match text.toList with
    | '+' :: rest => rest
    | rest => rest
  if digits.isEmpty || ! digits.all Char.isDigit then
    none
  else
    let n := digits.foldl (fun n c => n * 10 + (c.toNat - '0'.toNat)) 0
    if n ≤ limit then some n else none

/-- The largest number of 16 bits. -/
def maxPort : Nat := 65535

/-- The largest number of 64 bits. -/
def maxWord : Nat := 18446744073709551615

/-- The number that a variable holds, or the default if it is unset or holds none. -/
def numberOr (fallback limit : Nat) (value : Option ByteArray) : Nat :=
  ((value.bind String.fromUTF8?).bind (readNumber? limit)).getD fallback

/-- A number, or the default in the place of zero. -/
def nonzeroOr (fallback n : Nat) : Nat := if n = 0 then fallback else n

/-- The settings that an environment asks for. -/
def ofEnvironment (env : String → Option ByteArray) : Settings where
  serverPort := numberOr standard.serverPort maxPort (env "SERVER_PORT")
  cleanupInterval := nonzeroOr standard.cleanupInterval
    (numberOr standard.cleanupInterval maxWord (env "CLEANUP_INTERVAL"))
  evictionBatch := nonzeroOr standard.evictionBatch
    (numberOr standard.evictionBatch maxWord (env "EVICTION_BATCH_SIZE"))
  sampleThreshold := numberOr standard.sampleThreshold maxWord (env "SIZE_SAMPLE_THRESHOLD")

/-- The part of the settings that a cache needs. -/
def engine (s : Settings) : EngineSettings :=
  ((EngineSettings.standard.withInterval (s.cleanupInterval * 1000000000)).withBatch
    s.evictionBatch).withSampleThreshold s.sampleThreshold

end Settings

end ExpiringCache
