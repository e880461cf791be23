import ExpiringCache.Proofs.Calls

/-!
# The engine as a timed map

What an engine answers is decided by the calls before. A stored entry is that of the last accepted
set of its key, and nothing has deleted, expired or reset it since (`lookup_run_cases`); and that
entry is stored as long as the clock has not reached its expiration (`lookup_run_of_lastStored`).
So gets and searches see the last accepted sets that are live, and sweeps and lazy removals change
no answer (`engine_refines_timed_map`).
-/

namespace ExpiringCache

instance decidableEqExcept {ε α : Type} [DecidableEq ε] [DecidableEq α] :
    DecidableEq (Except ε α)
  | .ok a, .ok b => decidable_of_iff (a = b) (by simp)
  | .error a, .error b => decidable_of_iff (a = b) (by simp)
  | .ok _, .error _ => isFalse (by simp)
  | .error _, .ok _ => isFalse (by simp)

/-- The clock never goes backwards over some calls. -/
def Forward (calls : List Call) : Prop := (calls.flatMap Call.readings).Pairwise (· ≤ ·)

instance (calls : List Call) : Decidable (Forward calls) :=
  inferInstanceAs (Decidable ((calls.flatMap Call.readings).Pairwise (· ≤ ·)))

/-- Whether a call is an accepted set that stores an entry under a key. -/
def Call.Stores (key : String) (e : Entry) : Call → Prop
  | .command (.set k value ttl now) =>
    k = key ∧ value = e.value ∧ expirationFromTtl ttl now = .ok e.expiresAt
  | _ => False

/-- An entry was stored under a key by an accepted set, and since then the key was neither set
again nor deleted nor expired, and there was no reset. -/
def LastStored (history : List Call) (key : String) (e : Entry) : Prop :=
  ∃ before c after, history = before ++ c :: after ∧ c.Stores key e ∧
    ∀ d ∈ after, ¬ d.Overwrites key

/-- Whether a call asks for a change: all but gets, searches and sweeps. -/
def Call.isWrite : Call → Bool
  | .command (.set _ _ _ _) | .command (.del _) | .command (.expireKey _) | .command .reset => true
  | _ => false

theorem Call.isWrite_of_overwrites {c : Call} {key : String} (h : c.Overwrites key) :
    c.isWrite = true := by
  rcases c with _ | c
  · exact h.elim
  · cases c <;> first | rfl | exact h.elim

theorem Call.isWrite_of_stores {c : Call} {key : String} {e : Entry} (h : c.Stores key e) :
    c.isWrite = true := by
  rcases c with _ | c
  · exact h.elim
  · cases c <;> first | rfl | exact h.elim

theorem Forward.le_last {history : List Call} {c : Call} (h : Forward (history ++ [c]))
    {t : Instant} (ht : t ∈ c.readings) : ∀ d ∈ history, ∀ s ∈ d.readings, s ≤ t := by
  intro d hd s hs
  unfold Forward at h
  rw [List.flatMap_append, List.pairwise_append] at h
  exact h.2.2 s (List.mem_flatMap.2 ⟨d, hd, hs⟩) t (by simpa using ht)

section LastStored

variable {history : List Call} {key : String} {e : Entry}

theorem LastStored.cons (h : LastStored history key e) (c : Call) :
    LastStored (c :: history) key e := by
  obtain ⟨before, d, after, rfl, hd, hafter⟩ := h
  exact ⟨c :: before, d, after, rfl, hd, hafter⟩

/-- Only the calls that ask for a change decide which entry was stored last. -/
theorem lastStored_filter_isWrite :
    LastStored (history.filter Call.isWrite) key e ↔ LastStored history key e := by
  constructor
  · rintro ⟨before', c, after', heq, hc, hafter⟩
    obtain ⟨before, rest, rfl, rfl, hrest⟩ := List.filter_eq_append_iff.1 heq
    obtain ⟨skipped, after, rfl, -, -, rfl⟩ := List.filter_eq_cons_iff.1 hrest
    refine ⟨before ++ skipped, c, after, by simp, hc, fun d hd hover => ?_⟩
    exact hafter d (List.mem_filter.2 ⟨hd, Call.isWrite_of_overwrites hover⟩) hover
  · rintro ⟨before, c, after, rfl, hc, hafter⟩
    refine ⟨before.filter Call.isWrite, c, after.filter Call.isWrite, ?_, hc, ?_⟩
    · rw [List.filter_append, List.filter_cons_of_pos (Call.isWrite_of_stores hc)]
    · intro d hd
      exact hafter d (List.mem_filter.1 hd).1

theorem lookup_perform_of_stores {c : Call} (h : c.Stores key e) (ks : Keyspace)
    (threshold : Nat) : (ks.perform threshold c).state.lookup key = some e := by
  rcases c with _ | c
  · exact h.elim
  · cases c with
    | set k value ttl now =>
      obtain ⟨rfl, rfl, ht⟩ := h
      show (ks.set threshold k _ ttl now).state.lookup k = _
      rw [Keyspace.state_set_of_ok ht, Keyspace.lookup_insert, if_pos rfl]
    | _ => exact h.elim

/-- What is stored after some calls was stored last by them, or it was there before and they do
not write its key. -/
theorem lookup_run_cases {threshold : Nat} : ∀ (calls : List Call) (ks : Keyspace),
    (ks.run threshold calls).lookup key = some e → LastStored calls key e ∨
      ks.lookup key = some e ∧ ∀ c ∈ calls, ¬ c.Overwrites key
  | [], _, h => .inr ⟨h, by simp⟩
  | c :: calls, ks, h => by
    rcases lookup_run_cases calls _ h with h | ⟨h, hcalls⟩
    · exact .inl (h.cons c)
    by_cases hover : c.Overwrites key
    · rcases c with _ | c
      · exact hover.elim
      rcases Keyspace.lookup_execute_of_overwrites ks threshold hover with
        ⟨value, ttl, now, t, rfl, ht, hk⟩ | ⟨-, hk⟩
      · have heq : some e = some ⟨value, t⟩ := h.symm.trans hk
        cases heq
        exact .inl ⟨[], _, calls, rfl, ⟨rfl, rfl, ht⟩, hcalls⟩
      · have heq : some e = none := h.symm.trans hk
        simp at heq
    · refine .inr ⟨?_, fun d hd => ?_⟩
      · rcases Keyspace.lookup_perform_of_not_overwrites ks threshold hover with hk | ⟨hk, -⟩
        · rw [← hk, h]
        · rw [hk] at h
          simp at h
      · rcases List.mem_cons.1 hd with rfl | hd
        · exact hover
        · exact hcalls d hd

theorem lookup_run_of_lastStored {ks : Keyspace} {threshold : Nat}
    (h : LastStored history key e)
    (hlive : ∀ c ∈ history, ∀ t ∈ c.readings, e.isExpiredAt t = false) :
    (ks.run threshold history).lookup key = some e := by
  obtain ⟨before, c, after, rfl, hc, hafter⟩ := h
  rw [Keyspace.run_append]
  refine Keyspace.lookup_run_eq_some after (lookup_perform_of_stores hc ..) hafter ?_
  intro d hd
  exact hlive d (by simp [hd])

/-- From the empty keyspace, the entries that are stored and live are those stored last that
are live. -/
theorem live_lookup_run_iff {threshold : Nat} {c : Call} (hclock : Forward (history ++ [c]))
    {now : Instant} (hnow : now ∈ c.readings) :
    (Keyspace.empty.run threshold history).lookup key = some e ∧ e.isExpiredAt now = false ↔
      LastStored history key e ∧ e.IsLiveAt now := by
  rw [← Entry.isLiveAt_iff]
  refine and_congr_left fun hlive => ⟨fun h => ?_, fun h => ?_⟩
  · rcases lookup_run_cases history _ h with h | ⟨h, -⟩
    · exact h
    · simp at h
  · refine lookup_run_of_lastStored h fun d hd t ht => ?_
    exact Entry.isLiveAt_iff.1 (hlive.mono (hclock.le_last hnow d hd t ht))

end LastStored

section Answers

variable {ks : Keyspace} {key : String}

/-- The first reading decides what a get answers: if it meets an expired entry, so does the
second. -/
theorem answer_get_eq_some_iff {first second : Instant} (h : first ≤ second) {value : String} :
    (ks.get key first second).answer = some value ↔
      ∃ e, ks.lookup key = some e ∧ e.value = value ∧ e.isExpiredAt first = false := by
  show (Guarded.andThen ⟨ks.glance key first, ks, _⟩ _).answer = some value ↔ _
  unfold Guarded.andThen Keyspace.glance
  cases he : ks.lookup key with
  | none => simp [Guarded.report, Guarded.pure]
  | some e =>
    cases hexp : e.isExpiredAt first with
    | false => simp [Guarded.report, Guarded.pure, hexp]
    | true =>
      have hsecond : e.isExpiredAt second = true := Entry.isExpiredAt_mono h hexp
      simp [Guarded.report, Guarded.pure, Guarded.write, Keyspace.recheck, he, hsecond, hexp]

theorem answer_searchFor_of_ok {pattern : String} {mode : SearchMode} {m : Matcher}
    (h : Matcher.compile pattern mode = .ok m) (ks : Keyspace) (now : Instant) :
    (ks.searchFor pattern mode now).answer = .ok (ks.search m now) := by
  unfold Keyspace.searchFor
  rw [h]
  rfl

theorem answer_searchFor_of_error {pattern : String} {mode : SearchMode} {fault : PatternFault}
    (h : Matcher.compile pattern mode = .error fault) (ks : Keyspace) (now : Instant) :
    (ks.searchFor pattern mode now).answer = .error (.ofPattern pattern fault) := by
  unfold Keyspace.searchFor
  rw [h]
  rfl

variable {e : Engine} {history : List Call} (he : e.keyspace = .empty)

include he

theorem answer_get_run_iff {first second : Instant} {value : String}
    (hclock : Forward (history ++ [.get key first second])) :
    ((e.run history).get key first second).answer = some value ↔
      ∃ entry, LastStored history key entry ∧ entry.value = value ∧ entry.IsLiveAt first := by
  have hle : first ≤ second := by
    unfold Forward at hclock
    rw [List.flatMap_append, List.pairwise_append] at hclock
    simpa [Call.readings] using hclock.2.1
  show ((e.run history).keyspace.get key first second).answer = some value ↔ _
  rw [Engine.keyspace_run, he, answer_get_eq_some_iff hle]
  refine exists_congr fun entry => ?_
  rw [and_left_comm, live_lookup_run_iff hclock (by simp [Call.readings]), and_left_comm]

theorem mem_search_run_iff {pattern : String} {mode : SearchMode} {now : Instant} {m : Matcher}
    (hclock : Forward (history ++ [.command (.search pattern mode now)])) :
    key ∈ (e.run history).keyspace.search m now ↔
      m.accepts key = true ∧ ∃ entry, LastStored history key entry ∧ entry.IsLiveAt now := by
  rw [Engine.keyspace_run, he,
    (Keyspace.reachable_run history .empty).consistent.mem_search_iff]
  refine and_congr_right fun _ => exists_congr fun entry => ?_
  exact live_lookup_run_iff hclock
    (by simp [Call.readings, Command.readings, Command.lockedReadings])

end Answers

/-- Two increasing lists of keys with the same members are equal. -/
theorem eq_of_sorted_of_mem_iff : ∀ {a b : List String}, a.Pairwise (· < ·) →
    b.Pairwise (· < ·) → (∀ key, key ∈ a ↔ key ∈ b) → a = b := by
  intro a b ha hb h
  have hperm : a.Perm b :=
    (List.perm_ext_iff_of_nodup (nodup_of_sorted ha) (nodup_of_sorted hb)).2 h
  exact hperm.eq_of_pairwise (fun x y _ _ hxy hyx => absurd hxy (String.lt_asymm hyx)) ha hb

/-- After any calls on an engine that started empty, over which the clock never goes backwards, a
get gives exactly the value that the last accepted set of its key stored, if nothing took it away
since and it is live when the get first reads the clock. An accepted search gives, each once, the
keys that it accepts and that have such a live value. So two such engines whose clients asked for
the same changes give the same answers, whatever gets, searches and sweeps were made. -/
theorem engine_refines_timed_map (e : Engine) (he : e.keyspace = .empty) (history : List Call) :
    (∀ key first second value, Forward (history ++ [.get key first second]) →
      (((e.run history).get key first second).answer = some value ↔
        ∃ entry, LastStored history key entry ∧ entry.value = value ∧ entry.IsLiveAt first)) ∧
    (∀ pattern mode now m, Forward (history ++ [.command (.search pattern mode now)]) →
      Matcher.compile pattern mode = .ok m →
      ∃ keys, ((e.run history).search pattern mode now).answer = .ok keys ∧ keys.Nodup ∧
        ∀ key, key ∈ keys ↔
          m.accepts key = true ∧ ∃ entry, LastStored history key entry ∧ entry.IsLiveAt now) ∧
    ∀ (e' : Engine) (history' : List Call), e'.keyspace = .empty →
      history.filter Call.isWrite = history'.filter Call.isWrite →
      (∀ key first second second', Forward (history ++ [.get key first second]) →
        Forward (history' ++ [.get key first second']) →
        ((e.run history).get key first second).answer =
          ((e'.run history').get key first second').answer) ∧
      ∀ pattern mode now, Forward (history ++ [.command (.search pattern mode now)]) →
        Forward (history' ++ [.command (.search pattern mode now)]) →
        ((e.run history).search pattern mode now).answer =
          ((e'.run history').search pattern mode now).answer := by
  refine ⟨fun key first second value hclock => answer_get_run_iff he hclock, ?_, ?_⟩
  · intro pattern mode now m hclock hm
    refine ⟨(e.run history).keyspace.search m now, answer_searchFor_of_ok hm _ now,
      nodup_of_sorted (Keyspace.sorted_search _ m now), ?_⟩
    intro key
    exact mem_search_run_iff he hclock
  · intro e' history' he' hwrites
    have hlast : ∀ key entry, LastStored history key entry ↔ LastStored history' key entry := by
      intro key entry
      rw [← lastStored_filter_isWrite, hwrites, lastStored_filter_isWrite]
    refine ⟨fun key first second second' hclock hclock' => ?_, ?_⟩
    · refine Option.ext fun value => ?_
      rw [answer_get_run_iff he hclock, answer_get_run_iff he' hclock']
      simp only [hlast]
    · intro pattern mode now hclock hclock'
      show ((e.run history).keyspace.searchFor pattern mode now).answer =
        ((e'.run history').keyspace.searchFor pattern mode now).answer
      cases hm : Matcher.compile pattern mode with
      | error fault => rw [answer_searchFor_of_error hm, answer_searchFor_of_error hm]
      | ok m =>
        rw [answer_searchFor_of_ok hm, answer_searchFor_of_ok hm]
        refine congrArg Except.ok (eq_of_sorted_of_mem_iff (Keyspace.sorted_search ..)
          (Keyspace.sorted_search ..) fun key => ?_)
        rw [mem_search_run_iff he hclock, mem_search_run_iff he' hclock']
        simp only [hlast]

/-- A key stored for a short time and then for a long one, with a sweep that pops the stale record
of the first time and takes another key away. -/
theorem engine_refines_timed_map_overwritten :
    let history := [.command (.set "k" "old" "2ns" (.early 1)),
      .command (.set "k" "new" "1h" (.early 1)), .command (.set "j" "x" "2ns" (.early 2)),
      .command (.sweep (.early 4) 1), .get "j" (.early 4) (.early 4)]
    ((Engine.unobserved.run history).get "k" (.early 5) (.early 5)).answer = some "new" := by
  intro history
  refine ((engine_refines_timed_map .unobserved rfl history).1 "k" (.early 5) (.early 5) "new"
    (by decide +kernel)).2 ?_
  obtain ⟨t, ht, hlive⟩ : ∃ t, expirationFromTtl "1h" (.early 1) = .ok (some t) ∧ .early 5 < t :=
    ⟨⟨3600000000001, by decide, by decide⟩, by decide +kernel, by decide⟩
  refine ⟨⟨"new", some t⟩, ⟨[_], _, _, rfl, ⟨rfl, rfl, ht⟩, ?_⟩, rfl, ?_⟩
  · simp [Call.Overwrites, Command.Overwrites]
  · intro u hu
    simp only [Option.some.injEq] at hu
    rw [← hu]
    exact hlive

end ExpiringCache
