import ExpiringCache.Proofs.Calls

/-!
# What is counted

Every call tells the observer once how it ended, in agreement with what it answers, and tells it
the size of the keyspace if it is a reset or a set that was accepted (`reports_perform`). So after
any calls the counters of an operation are the numbers of calls of this operation that succeeded
and that failed, modulo 2^64, and the gauges are those of the keyspace right after the last
accepted set or reset (`counters_agree_with_answers`).
-/

namespace ExpiringCache

/-- The operation as which a call counts that has answered, and whether as a success. -/
def Call.counts? : Call → Answer → Option (Operation × Bool)
  | .get _ _ _, .value found => some (.get, found.isSome)
  | .command (.set _ _ _ _), .stored outcome => some (.set, outcome.isOk)
  | .command (.del _), .existed answer => some (.del, answer)
  | .command (.expireKey _), .existed answer => some (.expireKey, answer)
  | .command (.search _ .wildcard _), .keys found => some (.wildcard, found.isOk)
  | .command (.search _ .regex _), .keys found => some (.regex, found.isOk)
  | .command .reset, .count _ => some (.reset, true)
  | .command (.sweep _ _), .count _ => some (.evict, true)
  | _, _ => none

/-- Whether a call that has answered is a reset or a set that was accepted. -/
def Call.resizes : Call → Answer → Bool
  | .command (.set _ _ _ _), .stored outcome => outcome.isOk
  | .command .reset, _ => true
  | _, _ => false

/-- A call carried out on an engine, with its answer and the keyspace that it left. -/
structure Carried where
  call : Call
  answer : Answer
  after : Keyspace

/-- Some calls carried out on an engine one after another. -/
def Engine.trace (e : Engine) : List Call → List Carried
  | [] => []
  | c :: calls =>
    let g := e.perform c
    ⟨c, g.answer, g.state.keyspace⟩ :: g.state.trace calls

/-- The number of outcomes of one kind. -/
def OperationCounters.count (c : OperationCounters) : Bool → UInt64
  | true => c.success
  | false => c.failure

section Reports

variable {ks : Keyspace} {threshold : Nat}

/-- A call waits for locks, reports the size of the keyspace if it is a reset or an accepted set,
and ends with the one outcome that its answer shows. -/
theorem reports_perform (ks : Keyspace) (threshold : Nat) (c : Call) :
    let g := ks.perform threshold c
    ∃ waits op nanos success, (∀ r ∈ waits, ∃ mode t, r = Report.lockWait mode t) ∧
      c.counts? g.answer = some (op, success) ∧
      g.reports = waits ++ (if c.resizes g.answer then g.state.sizeReports threshold else []) ++
        finishReports op nanos success := by
  have hread : ∀ r ∈ [Report.lockWait .read 0], ∃ mode t, r = Report.lockWait mode t := by simp
  have hwrite : ∀ r ∈ [Report.lockWait .write 0], ∃ mode t, r = Report.lockWait mode t := by simp
  have hnone : ∀ r ∈ ([] : List Report), ∃ mode t, r = Report.lockWait mode t := by simp
  rcases c with ⟨key, first, second⟩ | c
  · have hget : ks.perform threshold (.get key first second) =
        (Guarded.andThen ⟨ks.glance key first, ks, [.lockWait .read 0]⟩ _).map .value := rfl
    rw [hget]
    unfold Guarded.andThen
    cases ks.glance key first with
    | absent => exact ⟨_, _, _, _, hread, rfl, rfl⟩
    | live v => exact ⟨_, _, _, _, hread, rfl, rfl⟩
    | expired =>
      refine ⟨[.lockWait .read 0, .lockWait .write 0], _, _, _, ?_, rfl, rfl⟩
      simp
  · cases c with
    | set key value ttl now =>
      have hset : ks.perform threshold (.command (.set key value ttl now)) =
          (ks.set threshold key value ttl now).map .stored := rfl
      rw [hset]
      unfold Keyspace.set
      cases expirationFromTtl ttl now with
      | error e => exact ⟨_, _, _, _, hnone, rfl, rfl⟩
      | ok t => exact ⟨_, _, _, _, hwrite, rfl, rfl⟩
    | del key | expireKey key | reset | sweep now limit => exact ⟨_, _, _, _, hwrite, rfl, rfl⟩
    | search pattern mode now =>
      have hsearch : ks.perform threshold (.command (.search pattern mode now)) =
          (ks.searchFor pattern mode now).map .keys := rfl
      rw [hsearch]
      unfold Keyspace.searchFor
      cases Matcher.compile pattern mode with
      | error fault => cases mode <;> exact ⟨_, _, _, _, hnone, rfl, rfl⟩
      | ok m => cases mode <;> exact ⟨_, _, _, _, hread, rfl, rfl⟩

end Reports

namespace Stats

theorem recordAll_append (s : Stats) (a b : List Report) :
    s.recordAll (a ++ b) = (s.recordAll a).recordAll b := List.foldl_append

theorem count_addMicros (c : OperationCounters) (micros : UInt64) (b : Bool) :
    (c.addMicros micros).count b = c.count b := by
  cases b <;> rfl

theorem count_addOutcome (c : OperationCounters) (success b : Bool) :
    (c.addOutcome success).count b = if success = b then c.count b + 1 else c.count b := by
  cases success <;> cases b <;> rfl

/-- Waiting for locks moves no count of outcomes and no gauge. -/
theorem recordAll_waits {waits : List Report} (h : ∀ r ∈ waits, ∃ mode t, r = .lockWait mode t)
    (s : Stats) : (s.recordAll waits).operations = s.operations ∧
      (s.recordAll waits).itemCount = s.itemCount ∧
      (s.recordAll waits).memoryBytes = s.memoryBytes := by
  induction waits generalizing s with
  | nil => exact ⟨rfl, rfl, rfl⟩
  | cons r waits ih =>
    obtain ⟨mode, t, rfl⟩ := h r List.mem_cons_self
    obtain ⟨hops, hitems, hbytes⟩ := ih (fun r hr => h r (List.mem_cons_of_mem _ hr))
      (s.record (.lockWait mode t))
    show ((s.record (.lockWait mode t)).recordAll waits).operations = _ ∧ _
    cases mode <;> exact ⟨hops, hitems, hbytes⟩

theorem count_recordAll_finish (s : Stats) (op o : Operation) (nanos : Nat) (success b : Bool) :
    ((s.recordAll (finishReports op nanos success)).operations.get o).count b =
      (s.operations.get o).count b + if (op, success) = (o, b) then 1 else 0 := by
  simp only [recordAll, finishReports, List.foldl_cons, List.foldl_nil, record,
    OperationTable.get_modify, Prod.mk.injEq]
  by_cases hop : op = o
  · by_cases hb : success = b
    · simp [hop, hb, count_addOutcome, count_addMicros]
    · simp [hop, hb, count_addOutcome, count_addMicros]
  · simp [hop]

theorem recordAll_finish_gauges (s : Stats) (op : Operation) (nanos : Nat) (success : Bool) :
    (s.recordAll (finishReports op nanos success)).itemCount = s.itemCount ∧
      (s.recordAll (finishReports op nanos success)).memoryBytes = s.memoryBytes :=
  ⟨rfl, rfl⟩

theorem count_recordAll_size (s : Stats) (ks : Keyspace) (threshold : Nat) (o : Operation)
    (b : Bool) : ((s.recordAll (ks.sizeReports threshold)).operations.get o).count b =
      (s.operations.get o).count b := by
  simp only [recordAll, Keyspace.sizeReports, List.foldl_cons, List.foldl_nil, record,
    OperationTable.get_modify]
  split
  · cases b <;> rfl
  · rfl

theorem recordAll_size_gauges (s : Stats) (ks : Keyspace) (threshold : Nat) :
    (s.recordAll (ks.sizeReports threshold)).itemCount = ks.size ∧
      (s.recordAll (ks.sizeReports threshold)).memoryBytes = (ks.footprint threshold).bytes := by
  refine ⟨?_, rfl⟩
  show (Footprint.estimate threshold ks.entries.entries).items = ks.entries.entries.length
  unfold Footprint.estimate
  dsimp only
  split <;> rfl

/-- A call moves the one count that its answer shows, and the gauges if it resizes. -/
theorem recordAll_perform (s : Stats) (ks : Keyspace) (threshold : Nat) (c : Call) :
    let g := ks.perform threshold c
    let after := s.recordAll g.reports
    (∀ op b, (after.operations.get op).count b =
      (s.operations.get op).count b + if c.counts? g.answer = some (op, b) then 1 else 0) ∧
    after.itemCount = (if c.resizes g.answer then g.state.size else s.itemCount) ∧
    after.memoryBytes =
      if c.resizes g.answer then (g.state.footprint threshold).bytes else s.memoryBytes := by
  obtain ⟨waits, op, nanos, success, hwaits, hcounts, hreports⟩ := reports_perform ks threshold c
  dsimp only at hcounts hreports ⊢
  obtain ⟨hops, hitems, hbytes⟩ := recordAll_waits hwaits s
  rw [hreports, recordAll_append, recordAll_append, hcounts]
  have hfinish := recordAll_finish_gauges
    ((s.recordAll waits).recordAll (if c.resizes (ks.perform threshold c).answer then
      (ks.perform threshold c).state.sizeReports threshold else [])) op nanos success
  rw [hfinish.1, hfinish.2]
  simp only [count_recordAll_finish, Option.some.injEq]
  split_ifs
  · obtain ⟨hsize, hfootprint⟩ :=
      recordAll_size_gauges (s.recordAll waits) (ks.perform threshold c).state threshold
    refine ⟨fun o b => ?_, hsize, hfootprint⟩
    rw [count_recordAll_size, hops]
  · refine ⟨fun o b => ?_, hitems, hbytes⟩
    rw [show (s.recordAll waits).recordAll [] = s.recordAll waits from rfl, hops]

end Stats

section Runs

/-- The counts after some calls are those before and one for each call that counts so. The gauges
are those of the last call that resizes, if there is one. -/
theorem stats_run : ∀ (calls : List Call) (e : Engine) {s : Stats}, e.stats = some s →
    ∃ after, (e.run calls).stats = some after ∧
      (∀ op b, (after.operations.get op).count b = (s.operations.get op).count b +
        UInt64.ofNat ((e.trace calls).countP fun d => d.call.counts? d.answer = some (op, b))) ∧
      let resized := ((e.trace calls).filter fun d => d.call.resizes d.answer).getLast?
      after.itemCount = (resized.map fun d => d.after.size).getD s.itemCount ∧
      after.memoryBytes =
        (resized.map fun d => (d.after.footprint e.sampleThreshold).bytes).getD s.memoryBytes
  | [], e, s, hs => ⟨s, hs, fun op b => by simp [Engine.trace], rfl, rfl⟩
  | c :: calls, e, s, hs => by
    obtain ⟨answer, next, hnext, htrace, hstats⟩ : ∃ answer, ∃ next : Engine,
        (e.perform c).state = next ∧
        e.trace (c :: calls) = ⟨c, answer, next.keyspace⟩ :: next.trace calls ∧
        ∃ t, next.stats = some t ∧ next.sampleThreshold = e.sampleThreshold ∧
          (∀ op b, (t.operations.get op).count b = (s.operations.get op).count b +
            if c.counts? answer = some (op, b) then 1 else 0) ∧
          t.itemCount = (if c.resizes answer then next.keyspace.size else s.itemCount) ∧
          t.memoryBytes = if c.resizes answer then
            (next.keyspace.footprint e.sampleThreshold).bytes else s.memoryBytes := by
      refine ⟨_, _, rfl, rfl, ?_⟩
      rw [Engine.perform_eq_absorb]
      refine ⟨s.recordAll (e.keyspace.perform e.sampleThreshold c).reports, ?_, rfl,
        s.recordAll_perform e.keyspace e.sampleThreshold c⟩
      simp [Engine.absorb, hs]
    obtain ⟨t, ht, hthreshold, hcounts, hitems, hbytes⟩ := hstats
    obtain ⟨after, hafter, hmore, hitems', hbytes'⟩ := stats_run calls next ht
    rw [htrace, List.filter_cons]
    refine ⟨after, by rw [← hafter, ← hnext]; rfl, fun op b => ?_, ?_⟩
    · rw [hmore, hcounts, List.countP_cons, UInt64.ofNat_add, UInt64.add_assoc,
        UInt64.add_comm (UInt64.ofNat _)]
      congr 2
      simp only [decide_eq_true_eq]
      split_ifs <;> rfl
    · rw [hitems', hbytes', hthreshold, hitems, hbytes]
      dsimp only
      split_ifs
      · rw [List.getLast?_cons]
        cases ((next.trace calls).filter fun d => d.call.resizes d.answer).getLast? <;>
          exact ⟨rfl, rfl⟩
      · exact ⟨rfl, rfl⟩

theorem counts?_eq_some {c : Call} {answer : Answer} {op : Operation} {success : Bool}
    (h : c.counts? answer = some (op, success)) :
    op ≠ .sizeCalculation ∧ (op = .reset ∨ op = .evict → success = true) := by
  unfold Call.counts? at h
  split at h <;> cases h <;> simp

/-- After any calls on an engine that started with its statistics at zero, the successes and the
failures of each operation are counted modulo 2^64 as the answers show them: a get that found a
value or none, a set or a search that was accepted or not, a deletion that found its key stored
or not, every reset and every sweep. The gauges are the number of entries and the footprint right
after the last accepted set or reset, and zero before the first. The hit rate is the share of the
gets that found a value. -/
theorem counters_agree_with_answers (settings : EngineSettings) (calls : List Call) :
    let done := (Engine.start settings).trace calls
    let number (op : Operation) (success : Bool) : UInt64 :=
      .ofNat (done.countP fun d => d.call.counts? d.answer = some (op, success))
    ∃ s, ((Engine.start settings).run calls).stats = some s ∧
      (∀ op, (s.operations.get op).success = number op true ∧
        (s.operations.get op).failure = number op false) ∧
      ((s.operations.get .reset).failure = 0 ∧ (s.operations.get .evict).failure = 0 ∧
        (s.operations.get .sizeCalculation).success = 0 ∧
        (s.operations.get .sizeCalculation).failure = 0) ∧
      (match (done.filter fun d => d.call.resizes d.answer).getLast? with
        | none => s.itemCount = 0 ∧ s.memoryBytes = 0
        | some d => s.itemCount = d.after.size ∧
          s.memoryBytes = (d.after.footprint settings.sampleThreshold).bytes) ∧
      s.hitRate =
        if number .get true + number .get false = 0 then 0
        else (number .get true).toFloat / (number .get true + number .get false).toFloat := by
  intro done number
  have hstart : (Engine.start settings).stats = some .zero := rfl
  obtain ⟨s, hs, hcounts, hitems, hbytes⟩ := stats_run calls (Engine.start settings) hstart
  have hnumber : ∀ op b, (s.operations.get op).count b = number op b := by
    intro op b
    rw [hcounts]
    have hzero : (Stats.zero.operations.get op).count b = 0 := by
      rw [show Stats.zero.operations = .zero from rfl, OperationTable.get_zero]
      cases b <;> rfl
    rw [hzero, UInt64.zero_add]
  have hnever : ∀ op b, (∀ d : Carried, d.call.counts? d.answer ≠ some (op, b)) →
      number op b = 0 := by
    intro op b h
    have hnil : done.countP (fun d => d.call.counts? d.answer = some (op, b)) = 0 := by
      rw [List.countP_eq_zero]
      intro d _
      simpa using h d
    show UInt64.ofNat _ = 0
    rw [hnil]
    rfl
  have hsuccess : ∀ op, (s.operations.get op).success = number op true := fun op => hnumber op true
  have hfailure : ∀ op, (s.operations.get op).failure = number op false :=
    fun op => hnumber op false
  refine ⟨s, hs, fun op => ⟨hsuccess op, hfailure op⟩, ⟨?_, ?_, ?_, ?_⟩, ?_, ?_⟩
  · rw [hfailure]
    exact hnever _ _ fun d h => by simpa using (counts?_eq_some h).2
  · rw [hfailure]
    exact hnever _ _ fun d h => by simpa using (counts?_eq_some h).2
  · rw [hsuccess]
    exact hnever _ _ fun d h => (counts?_eq_some h).1 rfl
  · rw [hfailure]
    exact hnever _ _ fun d h => (counts?_eq_some h).1 rfl
  · rw [hitems, hbytes]
    cases (done.filter fun d => d.call.resizes d.answer).getLast? <;> exact ⟨rfl, rfl⟩
  · unfold Stats.hitRate
    dsimp only
    rw [hsuccess, hfailure]

end Runs

end ExpiringCache
