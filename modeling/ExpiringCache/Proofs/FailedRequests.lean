import ExpiringCache.Proofs.Requests

/-!
# Requests that fail

A request that is not answered 200 leaves the keyspace and the gauges as they were. At most one
counter moves: a set whose time to live is refused, and a search whose pattern is, count as one
failure each (`failed_requests_leave_cache_intact`). Every other request that fails does not get
as far as the engine.
-/

namespace ExpiringCache

/-- A call that is refused leaves the keyspace alone and is reported as one failure. -/
theorem Keyspace.perform_of_refusedAs (ks : Keyspace) (threshold : Nat) {c : Call}
    {op : Operation} (h : c.refusedAs? = some op) :
    (ks.perform threshold c).state = ks ∧
      (ks.perform threshold c).reports = finishReports op 0 false := by
  unfold Call.refusedAs? at h
  split at h
  · rename_i key value ttl now
    split at h
    · rename_i e hexp
      cases h
      refine ⟨state_set_of_error hexp, ?_⟩
      show (ks.set threshold key value ttl now).reports = _
      unfold set
      rw [hexp]
      rfl
    · simp at h
  · rename_i pattern mode now
    split at h
    · rename_i fault hm
      cases h
      refine ⟨state_searchFor ks pattern mode now, ?_⟩
      show (ks.searchFor pattern mode now).reports = _
      unfold searchFor
      rw [hm]
      rfl
    · simp at h
  · simp at h

namespace Stats

/-- The counters after the report of one failure. -/
theorem recordAll_failure (s : Stats) (op o : Operation) (nanos : Nat) :
    let after := s.recordAll (finishReports op nanos false)
    after.itemCount = s.itemCount ∧ after.memoryBytes = s.memoryBytes ∧
      (after.operations.get o).success = (s.operations.get o).success ∧
      (after.operations.get o).failure =
        if op = o then (s.operations.get o).failure + 1 else (s.operations.get o).failure := by
  refine ⟨rfl, rfl, ?_, ?_⟩
  all_goals
    simp only [recordAll, finishReports, List.foldl_cons, List.foldl_nil, record,
      OperationTable.get_modify]
    split <;> rfl

end Stats

namespace Http

/-- Whether a request is a set that is refused for its time to live, or a search that is refused
for its pattern, and as which operation its failure counts. -/
inductive Request.RefusedAs (r : Request) (now : Instant) : Operation → Prop
  | ttl {q : SetRequest} {e : CacheError} (hroute : r.route? = some .set)
      (hread : r.read SetRequest.fields SetRequest.ofFound? = .ok q) (hvalid : q.invalid? = none)
      (hrefused : expirationFromTtl q.expire now = .error e) : r.RefusedAs now .set
  | pattern {q : SearchRequest} {fault : PatternFault} (hroute : r.route? = some .search)
      (hread : r.read SearchRequest.fields SearchRequest.ofFound? = .ok q)
      (hrefused : Matcher.compile q.resolve.1 q.resolve.2 = .error fault) :
      r.RefusedAs now (Keyspace.searchOperation q.resolve.2)

variable {s : Server} {r : Request} {now : Instant} {timestamp : String} {op : Operation}

theorem Request.refusedAs_iff :
    r.RefusedAs now op ↔ (r.call? now).bind Call.refusedAs? = some op := by
  rw [Option.bind_eq_some_iff]
  constructor
  · intro h
    cases h with
    | ttl hroute hread hvalid hrefused =>
      exact ⟨_, call?_set hroute hread hvalid now, Call.refusedAs?_set_of_error hrefused⟩
    | pattern hroute hread hrefused =>
      exact ⟨_, call?_search hroute hread now, Call.refusedAs?_search_of_error hrefused⟩
  · rintro ⟨c, hcall, hrefused⟩
    obtain ⟨route, hroute, hcall⟩ := Option.bind_eq_some_iff.1 hcall
    cases route with
    | set =>
      simp only [Route.call?] at hcall
      split at hcall
      · simp at hcall
      · rename_i q hread
        split at hcall
        · simp at hcall
        · rename_i hvalid
          cases hcall
          unfold Call.refusedAs? at hrefused
          dsimp only at hrefused
          split at hrefused
          · rename_i e hexp
            cases hrefused
            exact .ttl hroute hread hvalid hexp
          · simp at hrefused
    | search =>
      simp only [Route.call?] at hcall
      split at hcall
      · simp at hcall
      · rename_i q hread
        cases hcall
        unfold Call.refusedAs? at hrefused
        dsimp only at hrefused
        split at hrefused
        · rename_i fault hm
          cases hrefused
          exact .pattern hroute hread hm
        · simp at hrefused
    | reset =>
      cases hcall
      simp [Call.refusedAs?] at hrefused
    | stats | health => simp [Route.call?] at hcall
    | get segment | delete segment | expire segment =>
      obtain ⟨key, -, rfl⟩ := Option.map_eq_some_iff.1 hcall
      simp [Call.refusedAs?] at hrefused

namespace Server

theorem stats_isSome_afterCall {c : Option Call} (h : s.engine.stats.isSome = true) :
    (s.afterCall c).engine.stats.isSome = true := by
  cases c with
  | none => exact h
  | some c =>
    rw [afterCall_some]
    simpa [Engine.absorb] using h

theorem Reachable.stats_isSome (h : s.Reachable) : s.engine.stats.isSome = true := by
  have hrun : ∀ (events : List Event) (s : Server), s.engine.stats.isSome = true →
      (s.run events).engine.stats.isSome = true := by
    intro events
    induction events with
    | nil => exact fun s h => h
    | cons event events ih =>
      refine fun s h => ih _ ?_
      cases event with
      | request now timestamp r =>
        show (s.handle now timestamp r).2.engine.stats.isSome = true
        rw [handle_eq]
        exact stats_isSome_afterCall h
      | ticks count now =>
        show (s.engine.ticks count now).state.stats.isSome = true
        simpa [Engine.ticks, Engine.absorb] using h
  obtain ⟨settings, events, rfl⟩ := h
  exact hrun events _ rfl

theorem stats_perform (hs : s.engine.stats.isSome = true) (c : Call) :
    (s.afterCall (some c)).stats =
      s.stats.recordAll (s.engine.keyspace.perform s.engine.sampleThreshold c).reports := by
  obtain ⟨stats, hstats⟩ := Option.isSome_iff_exists.1 hs
  unfold Server.stats
  rw [afterCall_some]
  simp only [Engine.absorb, hstats, Option.map_some, Option.getD_some]

/-- A request that is not answered 200 changes nothing in the cache, and no count but that of one
failure if its time to live or its pattern is refused. -/
theorem failed_requests_leave_cache_intact (hs : s.Reachable)
    (h : (s.handle now timestamp r).1.status ≠ 200) :
    let after := (s.handle now timestamp r).2
    after.engine.keyspace = s.engine.keyspace ∧
      after.stats.itemCount = s.stats.itemCount ∧ after.stats.memoryBytes = s.stats.memoryBytes ∧
      ∀ op, (after.stats.operations.get op).success = (s.stats.operations.get op).success ∧
        (r.RefusedAs now op → (after.stats.operations.get op).failure =
          (s.stats.operations.get op).failure + 1) ∧
        (¬ r.RefusedAs now op → (after.stats.operations.get op).failure =
          (s.stats.operations.get op).failure) := by
  dsimp only
  simp only [Request.refusedAs_iff]
  rw [handle_eq]
  cases hcall : r.call? now with
  | none =>
    refine ⟨rfl, rfl, rfl, fun op => ⟨rfl, fun hop => ?_, fun _ => rfl⟩⟩
    simp at hop
  | some c =>
    rw [status_of_call hcall] at h
    cases hrefused : c.refusedAs? with
    | none =>
      rw [hrefused] at h
      exact absurd rfl h
    | some failed =>
      obtain ⟨hstate, hreports⟩ :=
        s.engine.keyspace.perform_of_refusedAs s.engine.sampleThreshold hrefused
      have hkeyspace : (s.afterCall (some c)).engine.keyspace = s.engine.keyspace := by
        rw [afterCall_some]
        exact hstate
      refine ⟨hkeyspace, ?_⟩
      rw [stats_perform hs.stats_isSome c, hreports]
      refine ⟨rfl, rfl, fun op => ?_⟩
      obtain ⟨-, -, hsuccess, hfailure⟩ := s.stats.recordAll_failure failed op 0
      rw [Option.bind_some, hrefused, Option.some.injEq]
      refine ⟨hsuccess, ?_, ?_⟩
      · intro hop
        rw [hfailure, if_pos hop]
      · intro hop
        rw [hfailure, if_neg hop]

/-- A key that is stored, and a set of it whose time to live has an unknown unit. -/
theorem failed_requests_leave_cache_intact_unknown_unit :
    ∃ (s : Server) (r : Request) (now : Instant), s.stats.itemCount = 1 ∧
      (s.stats.operations.get .set).failure = 0 ∧ (s.handle now "" r).1.status = 400 ∧
      (s.handle now "" r).2.engine.keyspace = s.engine.keyspace ∧
      ((s.handle now "" r).2.stats.operations.get .set).failure = 1 := by
  let put (body : String) : Request :=
    ⟨"PUT", "/set", [("content-type", "application/json")], body.toUTF8⟩
  let s := (start .standard).run
    [.request (.early 0) "" (put "\x7b\"key\": \"k\", \"value\": \"v\"\x7d")]
  let r := put "\x7b\"key\": \"k\", \"value\": \"w\", \"expire\": \"5x\"\x7d"
  have hs : s.Reachable := ⟨.standard, _, rfl⟩
  have hstatus : (s.handle (.early 0) "" r).1.status = 400 := by decide +kernel
  have hbefore : (s.stats.operations.get .set).failure = 0 := by decide +kernel
  obtain ⟨hkeyspace, -, -, hcounts⟩ :=
    failed_requests_leave_cache_intact hs (by rw [hstatus]; decide)
  refine ⟨s, r, .early 0, by decide +kernel, hbefore, hstatus, hkeyspace, ?_⟩
  have hrefused : r.RefusedAs (.early 0) .set := Request.refusedAs_iff.2 (by decide +kernel)
  rw [(hcounts .set).2.1 hrefused, hbefore]
  rfl

end Server

end Http

end ExpiringCache
