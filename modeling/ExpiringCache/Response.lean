import ExpiringCache.Error
import ExpiringCache.Json.Writer
import ExpiringCache.Telemetry.Stats

/-!
# Response bodies

What clients are answered, and how it is written. A miss is no error: it is answered with an
empty value that was not found. Errors of the cache and of a request are answered with their
words.
-/

namespace ExpiringCache

/-- Why a request is refused after its body was read. -/
inductive ApiError where
  | cache (e : CacheError)
  | invalidRequest (detail : String)
  deriving DecidableEq, Repr

namespace ApiError

/-- The words for an error. -/
def message : ApiError → String
  | cache e => e.message
  | invalidRequest detail => "Invalid request: " ++ detail

/-- The status with which an error is answered. -/
def status (_ : ApiError) : Nat := 400

end ApiError

/-- What a response says. -/
inductive Payload where
  | get (key value : String) (found : Bool)
  | set (key : String)
  | delete (key : String) (existed : Bool)
  | search (keys : List String)
  | reset (cleared : Nat)
  | health (timestamp : String)
  | stats (s : Stats)
  | error (message : String)
  deriving DecidableEq

namespace Payload

/-- The answer to a look-up. -/
def ofLookup (key : String) (value : Option String) : Payload :=
  .get key (value.getD "") value.isSome

/-- The answer to a refused request. -/
def ofError (e : ApiError) : Payload := .error e.message

open Json in
/-- What is written of one operation. -/
def operationText (s : Stats) (op : Operation) : String :=
  let c := s.operations.get op
  writeObject [("operation", quote op.label), ("success", writeNat c.success.toNat),
    ("failure", writeNat c.failure.toNat), ("total_micros", writeNat c.totalMicros.toNat)]

open Json in
/-- The text of a body. -/
def text : Payload → String
  | get key value found =>
    writeObject [("key", quote key), ("value", quote value), ("found", writeBool found)]
  | set key => writeObject [("success", writeBool true), ("key", quote key)]
  | delete key existed => writeObject [("key", quote key), ("existed", writeBool existed)]
  | search keys => writeObject [("keys", writeArray (keys.map quote))]
  | reset cleared =>
    writeObject [("success", writeBool true), ("keys_cleared", writeNat cleared)]
  | health timestamp =>
    writeObject [("status", quote "healthy"), ("timestamp", quote timestamp)]
  | stats s =>
    writeObject [("operations", writeArray (Operation.all.map (operationText s))),
      ("read_wait_micros", writeNat s.readWaitMicros.toNat),
      ("write_wait_micros", writeNat s.writeWaitMicros.toNat),
      ("item_count", writeNat s.itemCount), ("memory_bytes", writeNat s.memoryBytes),
      ("hit_rate", writeReal s.hitRate)]
  | error message => writeObject [("error", quote message)]

end Payload

end ExpiringCache
