import ExpiringCache.Http.Server
import ExpiringCache.Proofs.Calls

/-!
# What a request asks of the engine

A request either gets no further than the surface or makes one call on the engine
(`Request.call?`), and leaves the engine as this call does (`handle_eq`). It is answered 200 if it
makes a call that is not refused (`status_of_call`), and one whose call is refused is not.
-/

namespace ExpiringCache

/-- The operation as which a call is counted that is refused before it does anything. -/
def Call.refusedAs? : Call → Option Operation
  | .command (.set _ _ ttl now) =>
    match expirationFromTtl ttl now with
    | .error _ => some .set
    | .ok _ => none
  | .command (.search pattern mode _) =>
    match Matcher.compile pattern mode with
    | .error _ => some (Keyspace.searchOperation mode)
    | .ok _ => none
  | _ => none

section Refused

variable {key value ttl pattern : String} {mode : SearchMode} {now : Instant}

theorem Call.refusedAs?_set_of_ok {t : Option Instant} (h : expirationFromTtl ttl now = .ok t) :
    (Call.command (.set key value ttl now)).refusedAs? = none := by
  rw [refusedAs?, h]

theorem Call.refusedAs?_set_of_error {e : CacheError} (h : expirationFromTtl ttl now = .error e) :
    (Call.command (.set key value ttl now)).refusedAs? = some .set := by
  rw [refusedAs?, h]

theorem Call.refusedAs?_search_of_ok {m : Matcher} (h : Matcher.compile pattern mode = .ok m) :
    (Call.command (.search pattern mode now)).refusedAs? = none := by
  rw [refusedAs?, h]

theorem Call.refusedAs?_search_of_error {fault : PatternFault}
    (h : Matcher.compile pattern mode = .error fault) :
    (Call.command (.search pattern mode now)).refusedAs? =
      some (Keyspace.searchOperation mode) := by
  rw [refusedAs?, h]

end Refused

namespace Http

/-- Where a request leads, if its method fits there. -/
def Request.route? (r : Request) : Option Route :=
  if r.method = "OPTIONS" then none
  else (Route.ofPath? (pathOf r.uri)).filter fun route => decide (r.method ∈ route.methods)

/-- The call that a request makes whose method fits its route. -/
def Route.call? (route : Route) (r : Request) (now : Instant) : Option Call :=
  match route with
  | .set =>
    match r.read SetRequest.fields SetRequest.ofFound? with
    | .error _ => none
    | .ok q =>
      match q.invalid? with
      | some _ => none
      | none => some (.command (.set q.key q.value q.expire now))
  | .search =>
    match r.read SearchRequest.fields SearchRequest.ofFound? with
    | .error _ => none
    | .ok q => some (.command (.search q.resolve.1 q.resolve.2 now))
  | .reset => some (.command .reset)
  | .stats | .health => none
  | .get segment => (keyOfSegment? segment).map fun key => .get key now now
  | .delete segment => (keyOfSegment? segment).map fun key => .command (.del key)
  | .expire segment => (keyOfSegment? segment).map fun key => .command (.expireKey key)

/-- The call that a request makes on the engine, if it gets that far. -/
def Request.call? (r : Request) (now : Instant) : Option Call :=
  r.route?.bind fun route => route.call? r now

theorem Request.call?_set {r : Request} {q : SetRequest} (hroute : r.route? = some .set)
    (hread : r.read SetRequest.fields SetRequest.ofFound? = .ok q) (hvalid : q.invalid? = none)
    (now : Instant) : r.call? now = some (.command (.set q.key q.value q.expire now)) := by
  rw [call?, hroute, Option.bind_some, Route.call?, hread]
  dsimp only
  rw [hvalid]

theorem Request.call?_search {r : Request} {q : SearchRequest} (hroute : r.route? = some .search)
    (hread : r.read SearchRequest.fields SearchRequest.ofFound? = .ok q) (now : Instant) :
    r.call? now = some (.command (.search q.resolve.1 q.resolve.2 now)) := by
  rw [call?, hroute, Option.bind_some, Route.call?, hread]

/-- What befalls a server: a request, or some ticks of the evictor's timer. -/
inductive Event where
  | request (now : Instant) (timestamp : String) (r : Request)
  | ticks (count : Nat) (now : Instant)

namespace Server

variable {s : Server} {r : Request} {now : Instant} {timestamp : String}

/-- A server after an event. -/
def after (s : Server) : Event → Server
  | .request now timestamp r => (s.handle now timestamp r).2
  | .ticks count now => s.ticks count now

/-- A server after some events. -/
def run (s : Server) (events : List Event) : Server := events.foldl after s

/-- Whether a server can come about. -/
def Reachable (s : Server) : Prop :=
  ∃ (settings : Settings) (events : List Event), s = (start settings).run events

/-- The server after a call on its engine, if there is one. -/
def afterCall (s : Server) : Option Call → Server
  | none => s
  | some c => ⟨(s.engine.perform c).state⟩

theorem afterCall_some (s : Server) (c : Call) : (s.afterCall (some c)).engine =
    (s.engine.absorb (s.engine.keyspace.perform s.engine.sampleThreshold c)).state :=
  congrArg Guarded.state (Engine.perform_eq_absorb s.engine c)

theorem carryOut_eq (route : Route) :
    (s.carryOut now timestamp route r).2 = s.afterCall (route.call? r now) := by
  cases route with
  | set =>
    unfold Route.call?
    simp only [carryOut, set]
    cases hr : r.read SetRequest.fields SetRequest.ofFound? with
    | error => rfl
    | ok q =>
      dsimp only
      cases q.invalid? <;> rfl
  | search =>
    unfold Route.call?
    simp only [carryOut, search]
    cases hr : r.read SearchRequest.fields SearchRequest.ofFound? <;> rfl
  | reset | stats | health => rfl
  | get segment | delete segment | expire segment =>
    simp only [carryOut, Route.call?]
    cases keyOfSegment? segment <;> rfl

theorem carryOut_status {route : Route} {c : Call} (h : route.call? r now = some c) :
    (s.carryOut now timestamp route r).1.status = if c.refusedAs?.isSome then 400 else 200 := by
  cases route with
  | set =>
    unfold Route.call? at h
    simp only [carryOut, set]
    cases hr : r.read SetRequest.fields SetRequest.ofFound? with
    | error =>
      rw [hr] at h
      simp at h
    | ok q =>
      rw [hr] at h
      dsimp only at h ⊢
      cases hq : q.invalid? with
      | some =>
        rw [hq] at h
        simp at h
      | none =>
        rw [hq] at h
        cases h
        simp only [finish, Engine.set, Engine.absorb, Keyspace.set]
        cases hexp : expirationFromTtl q.expire now with
        | error =>
          rw [Call.refusedAs?_set_of_error hexp]
          rfl
        | ok =>
          rw [Call.refusedAs?_set_of_ok hexp]
          rfl
  | search =>
    unfold Route.call? at h
    simp only [carryOut, search]
    cases hr : r.read SearchRequest.fields SearchRequest.ofFound? with
    | error =>
      rw [hr] at h
      simp at h
    | ok q =>
      rw [hr] at h
      cases h
      simp only [finish, Engine.search, Engine.absorb, Keyspace.searchFor]
      cases hm : Matcher.compile q.resolve.1 q.resolve.2 with
      | error =>
        rw [Call.refusedAs?_search_of_error hm]
        rfl
      | ok =>
        rw [Call.refusedAs?_search_of_ok hm]
        rfl
  | reset =>
    cases h
    rfl
  | stats | health => simp [Route.call?] at h
  | get segment | delete segment | expire segment =>
    simp only [carryOut, Route.call?] at h ⊢
    cases hkey : keyOfSegment? segment with
    | none =>
      rw [hkey] at h
      simp at h
    | some key =>
      rw [hkey] at h
      cases h
      rfl

theorem handle_of_route {route : Route} (h : r.route? = some route) :
    s.handle now timestamp r =
      (if r.method = "HEAD" then (s.carryOut now timestamp route r).1.headOnly
        else (s.carryOut now timestamp route r).1, (s.carryOut now timestamp route r).2) := by
  unfold Request.route? at h
  split_ifs at h with hoptions
  obtain ⟨hpath, hmethod⟩ := Option.filter_eq_some_iff.1 h
  unfold handle
  dsimp only
  rw [if_neg hoptions, hpath]
  dsimp only
  rw [if_pos (of_decide_eq_true hmethod)]

theorem status_of_route {route : Route} (h : r.route? = some route) :
    (s.handle now timestamp r).1.status = (s.carryOut now timestamp route r).1.status := by
  rw [handle_of_route h]
  dsimp only
  split_ifs <;> rfl

theorem handle_of_no_route (h : r.route? = none) : (s.handle now timestamp r).2 = s := by
  unfold Request.route? at h
  unfold handle
  dsimp only
  by_cases hoptions : r.method = "OPTIONS"
  · rw [if_pos hoptions]
  · rw [if_neg hoptions] at h ⊢
    cases hpath : Route.ofPath? (pathOf r.uri) with
    | none => rfl
    | some route =>
      rw [hpath, Option.filter_eq_none_iff] at h
      dsimp only
      rw [if_neg fun hmethod => h route rfl (decide_eq_true hmethod)]

/-- A request leaves a server as its call does. -/
theorem handle_eq : (s.handle now timestamp r).2 = s.afterCall (r.call? now) := by
  unfold Request.call?
  cases h : r.route? with
  | none => exact handle_of_no_route h
  | some route => rw [handle_of_route h, carryOut_eq, Option.bind_some]

/-- A request that makes a call is answered by whether the call is refused. -/
theorem status_of_call {c : Call} (h : r.call? now = some c) :
    (s.handle now timestamp r).1.status = if c.refusedAs?.isSome then 400 else 200 := by
  obtain ⟨route, hroute, hcall⟩ := Option.bind_eq_some_iff.1 h
  rw [status_of_route hroute, carryOut_status hcall]

end Server

end Http

end ExpiringCache
