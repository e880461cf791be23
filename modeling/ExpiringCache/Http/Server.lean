import ExpiringCache.Engine
import ExpiringCache.Http.MediaType
import ExpiringCache.Http.Path
import ExpiringCache.Request
import ExpiringCache.Response

/-!
# The HTTP surface

A cache behind HTTP. A request is refused before it reaches the cache if its path leads nowhere,
its method does not fit, its key is no text, or its body is not announced as JSON, too long, or
not what is expected. Any origin may ask, and every request for options is answered as a
preflight.
-/

namespace ExpiringCache.Http

/-- A request; the bytes of its body may be anything. -/
structure Request where
  method : String
  uri : String
  headers : List (String × String)
  body : ByteArray

/-- Why a request is refused before it reaches the cache. -/
inductive Refusal where
  | undecodableKey
  | unsupportedMediaType
  | bodyTooLong
  | malformedBody
  | mismatchedBody
  deriving DecidableEq, Repr

namespace Refusal

/-- The status with which a refusal is answered. -/
def status : Refusal → Nat
  | undecodableKey => 400
  | unsupportedMediaType => 415
  | bodyTooLong => 413
  | malformedBody => 400
  | mismatchedBody => 422

/-- The words for a refusal. -/
def message : Refusal → String
  | undecodableKey => "The key in the path is not UTF-8"
  | unsupportedMediaType => "The body is not announced as JSON"
  | bodyTooLong => "The body is too long"
  | malformedBody => "The body is not JSON"
  | mismatchedBody => "The body does not hold the expected fields"

/-- The refusal of a body that cannot be read. -/
def ofFault : Json.Fault → Refusal
  | .malformed => malformedBody
  | .mismatched => mismatchedBody

end Refusal

/-- What an answer carries. -/
inductive Body where
  | none
  | text (s : String)
  | json (p : Payload)

/-- An answer. A body that is only announced, as after a request for the head, is left out. -/
structure Answer where
  status : Nat
  headers : List (String × String)
  body : Body

/-- The header that lets pages of any origin read an answer. -/
def anyOrigin : String × String := ("access-control-allow-origin", "*")

namespace Answer

/-- An answer without a body. -/
def bare (status : Nat) (headers : List (String × String)) : Answer :=
  ⟨status, anyOrigin :: headers, .none⟩

/-- An answer in JSON. -/
def ofPayload (status : Nat) (p : Payload) : Answer :=
  ⟨status, [anyOrigin, ("content-type", "application/json")], .json p⟩

/-- The answer to a refused request. -/
def ofRefusal (r : Refusal) : Answer :=
  ⟨r.status, [anyOrigin, ("content-type", "text/plain; charset=utf-8")], .text r.message⟩

/-- The answer to a request for the head of this one. -/
def headOnly (a : Answer) : Answer := { a with body := .none }

end Answer

/-- The most bytes that a body may have. -/
def maxBodyBytes : Nat := 2 * 1024 * 1024

/-- The value of a header. The case of its name does not count. -/
def Request.header? (r : Request) (name : String) : Option String :=
  (r.headers.find? (·.1.toLower = name)).map (·.2)

/-- Whether a header value consists of visible ASCII characters, spaces and tabs. -/
def isPlainHeader (value : String) : Bool :=
  value.toList.all fun c => c == '\t' || (decide (32 ≤ c.toNat) && decide (c.toNat < 127))

/-- The record in the body of a request. What comes after it does not matter. -/
def Request.read {α : Type} (r : Request) (fields : List Json.Field)
    (ofFound? : Json.Found → Option α) : Except Refusal α :=
  match r.header? "content-type" with
  | none => .error .unsupportedMediaType
  | some value =>
    if ! (isPlainHeader value && announcesJson value) then .error .unsupportedMediaType
    else if maxBodyBytes < r.body.size then .error .bodyTooLong
    else
      match Json.readLeading fields ofFound? (Json.symbols r.body) with
      | .error fault => .error (.ofFault fault)
      | .ok (request, _) => .ok request

/-- A cache behind HTTP. -/
structure Server where
  engine : Engine

namespace Server

/-- A server with an empty cache. -/
def start (settings : Settings) : Server := ⟨.start settings.engine⟩

/-- The statistics of the cache. -/
def stats (s : Server) : Stats := s.engine.stats.getD .zero

/-- The answer and the server after a call on the engine. -/
def finish {α : Type} (g : Guarded α Engine) (answer : α → Answer) : Answer × Server :=
  (answer g.answer, ⟨g.state⟩)

/-- Stores a pair. -/
def set (s : Server) (now : Instant) (r : Request) : Answer × Server :=
  match r.read SetRequest.fields SetRequest.ofFound? with
  | .error refusal => (.ofRefusal refusal, s)
  | .ok request =>
    match request.invalid? with
    | some detail => (.ofPayload 400 (.ofError (.invalidRequest detail)), s)
    | none =>
      finish (s.engine.set request.key request.value request.expire now) fun
        | .error e => .ofPayload (ApiError.cache e).status (.ofError (.cache e))
        | .ok () => .ofPayload 200 (.set request.key)

/-- Searches for a pattern. -/
def search (s : Server) (now : Instant) (r : Request) : Answer × Server :=
  match r.read SearchRequest.fields SearchRequest.ofFound? with
  | .error refusal => (.ofRefusal refusal, s)
  | .ok request =>
    finish (s.engine.search request.resolve.1 request.resolve.2 now) fun
      | .error e => .ofPayload (ApiError.cache e).status (.ofError (.cache e))
      | .ok keys => .ofPayload 200 (.search keys)

/-- Carries out a request whose method fits its route. The clock is read once, and once more if
a look-up has to look again. -/
def carryOut (s : Server) (now : Instant) (timestamp : String) (route : Route) (r : Request) :
    Answer × Server :=
  let withKey (segment : String) (act : String → Answer × Server) :=
    match keyOfSegment? segment with
    | none => (Answer.ofRefusal .undecodableKey, s)
    | some key => act key
  match route with
  | .set => s.set now r
  | .search => s.search now r
  | .reset => finish s.engine.reset fun count => .ofPayload 200 (.reset count)
  | .stats => (.ofPayload 200 (.stats s.stats), s)
  | .health => (.ofPayload 200 (.health timestamp), s)
  | .get segment => withKey segment fun key =>
    finish (s.engine.get key now now) fun value => .ofPayload 200 (.ofLookup key value)
  | .delete segment => withKey segment fun key =>
    finish (s.engine.del key) fun existed => .ofPayload 200 (.delete key existed)
  | .expire segment => withKey segment fun key =>
    finish (s.engine.expireKey key) fun existed => .ofPayload 200 (.delete key existed)

/-- The header that names the methods of a route. -/
def allow (route : Route) : String × String := ("allow", String.intercalate "," route.methods)

/-- The answer to a preflight. -/
def preflight (route : Option Route) : Answer :=
  .bare 200 ([("access-control-allow-methods", "*"), ("access-control-allow-headers", "*")] ++
    (route.map allow).toList)

/-- Answers a request at an instant, of which the timestamp is the text. -/
def handle (s : Server) (now : Instant) (timestamp : String) (r : Request) : Answer × Server :=
  let route := Route.ofPath? (pathOf r.uri)
  if r.method = "OPTIONS" then (preflight route, s)
  else
    match route with
    | none => (.bare 404 [], s)
    | some route =>
      if r.method ∈ route.methods then
        let (answer, after) := s.carryOut now timestamp route r
        (if r.method = "HEAD" then answer.headOnly else answer, after)
      else (.bare 405 [allow route], s)

/-- Some ticks of the evictor's timer. -/
def ticks (s : Server) (count : Nat) (now : Instant) : Server :=
  ⟨(s.engine.ticks count now).state⟩

end Server

end ExpiringCache.Http
