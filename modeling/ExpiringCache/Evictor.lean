import ExpiringCache.Guarded
import ExpiringCache.Keyspace.Basic

/-!
# The evictor

The background task that sweeps a keyspace. While it runs, each tick is one sweep under one
exclusive lock, which pops at most `batch` records. It leaves its loop when its handle sends it
word to stop, or when the handle is gone; it never enters the loop again.
-/

namespace ExpiringCache

/-- One pass over the due records of a keyspace, with what it tells the observer. -/
def Keyspace.sweep (ks : Keyspace) (now : Instant) (limit : Nat) : Guarded Nat Keyspace :=
  (Guarded.write (ks.evictExpired now limit)).report
    [.elapsed .evict 0, .outcome .evict true]

/-- The channel from a handle to its task: the value last sent, whether the task has yet to look
at it, and whether the handle is still there. -/
structure StopSignal where
  value : Bool
  unseen : Bool
  held : Bool
  deriving DecidableEq, Repr

/-- What a task hears from its handle. -/
inductive Heard where
  | nothing
  | value (stop : Bool)
  | gone
  deriving DecidableEq, Repr

namespace StopSignal

/-- A channel through which nothing was sent. -/
def fresh : StopSignal := ⟨false, false, true⟩

/-- Sends a value. -/
def send (s : StopSignal) (value : Bool) : StopSignal := { s with value, unseen := true }

/-- The handle goes away. -/
def release (s : StopSignal) : StopSignal := { s with held := false }

/-- What the task hears. A value that it has not seen comes before the end of the handle. -/
def hear (s : StopSignal) : Heard × StopSignal :=
  if s.unseen then (.value s.value, { s with unseen := false })
  else if s.held then (.nothing, s)
  else (.gone, s)

end StopSignal

/-- A task that sweeps at every tick until it leaves its loop, with the channel from its handle. -/
structure Evictor where
  batch : Nat
  running : Bool
  signal : StopSignal
  deriving DecidableEq, Repr

namespace Evictor

/-- A task that has just been started. -/
def start (batch : Nat) : Evictor := ⟨batch, true, .fresh⟩

/-- The task leaves its loop for good. -/
def stop (e : Evictor) : Evictor := { e with running := false }

/-- The task listens to its handle, as long as it is in its loop. It leaves the loop if it is told
to stop or if the handle is gone. It is taken to listen as soon as there is something to hear,
before anything else happens: a tick due at that very instant is not modelled. -/
def notice (e : Evictor) : Evictor :=
  if e.running then
    match e.signal.hear with
    | (.nothing, _) => e
    | (.value stop, signal) =>
      let heard := { e with signal }
      if stop then heard.stop else heard
    | (.gone, _) => e.stop
  else
    e

/-- Tells the task to stop, waits until it has left its loop and uses up the handle. Does nothing
without a handle. -/
def shutdown (e : Evictor) : Evictor :=
  if e.signal.held then
    let told := { e with signal := e.signal.send true }.notice
    { told with signal := told.signal.release }
  else
    e

/-- The handle goes away with nothing said. The task hears of it before the next event, so a tick
due at the very instant of the drop, which might still sweep once, is not modelled. -/
def drop (e : Evictor) : Evictor := { e with signal := e.signal.release }.notice

/-- One tick of the timer: a sweep if the task is running, and nothing otherwise. -/
def tick (e : Evictor) (ks : Keyspace) (now : Instant) : Guarded Unit Keyspace :=
  if e.running then (ks.sweep now e.batch).map fun _ => () else Guarded.pure () ks

/-- Some ticks one after another. -/
def ticks (e : Evictor) (ks : Keyspace) (now : Instant) : Nat → Guarded Unit Keyspace
  | 0 => Guarded.pure () ks
  | n + 1 => (e.tick ks now).andThen fun _ ks' => e.ticks ks' now n

end Evictor

end ExpiringCache
