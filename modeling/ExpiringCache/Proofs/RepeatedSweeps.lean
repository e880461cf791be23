import ExpiringCache.Proofs.OneSweep
import Mathlib.Algebra.Ring.Nat

/-!
# Sweep after sweep

A sweep that has used up its limit is taken up by the next one where it stopped, so sweeps at one
instant are together one sweep with the sum of their limits (`evictExpired_add`,
`sweepAll_eq`), and so are ticks of a running evictor (`state_ticks_start`). Once the limits reach
the number of due records none of these is left. Every entry that expires has a record, so what
is stored then is what has not expired, which is what a search for all keys found before
(`Consistent.drained`).
-/

namespace ExpiringCache

namespace Keyspace

/-- Sweeps with some limits, with the number of entries that they removed together. -/
def sweepAll (ks : Keyspace) (now : Instant) : List Nat → Nat × Keyspace
  | [] => (0, ks)
  | limit :: limits =>
    let first := ks.sweep now limit
    let later := first.state.sweepAll now limits
    (first.answer + later.1, later.2)

/-- No record is due any more, those entries are gone that had expired, and the stored keys are
those that a search for all keys found before. -/
structure Drained (ks : Keyspace) (now : Instant) (after : Keyspace) : Prop where
  not_due : ∀ r ∈ after.agenda.records, now < r.expiresAt
  lookup_eq : ∀ key e, ks.lookup key = some e →
    after.lookup key = if e.isExpiredAt now then none else some e
  search_eq : (ks.searchFor "*" .wildcard now).answer = .ok after.entries.keys

section Sum

variable {ks : Keyspace} {now : Instant}

theorem evictExpired_of_popDue_eq_none (h : ks.agenda.popDue now = none) :
    ∀ limit, ks.evictExpired now limit = (0, ks)
  | 0 => rfl
  | limit + 1 => by rw [evictExpired, h]

/-- Two sweeps at one instant are one with both their limits. -/
theorem evictExpired_add (now : Instant) (b : Nat) : ∀ (a : Nat) (ks : Keyspace),
    ks.evictExpired now (a + b) =
      ((ks.evictExpired now a).1 + ((ks.evictExpired now a).2.evictExpired now b).1,
        ((ks.evictExpired now a).2.evictExpired now b).2)
  | 0, ks => by
    rw [Nat.zero_add, evictExpired, Nat.zero_add]
  | a + 1, ks => by
    rw [Nat.succ_add, evictExpired, evictExpired]
    cases hpop : ks.agenda.popDue now with
    | none =>
      simp only
      rw [evictExpired_of_popDue_eq_none hpop]
      rfl
    | some p =>
      obtain ⟨r, agenda⟩ := p
      simp only
      split
      · rw [evictExpired_add now b a, Nat.add_right_comm]
      · exact evictExpired_add now b a _

theorem sweepAll_eq (now : Instant) : ∀ (limits : List Nat) (ks : Keyspace),
    ks.sweepAll now limits = ks.evictExpired now limits.sum
  | [], _ => rfl
  | limit :: limits, ks => by
    rw [sweepAll, sweepAll_eq now limits, List.sum_cons, evictExpired_add]
    rfl

/-- Ticks of a running evictor are one sweep with its limit for each of them. -/
theorem state_ticks_start (batch : Nat) (now : Instant) : ∀ (count : Nat) (ks : Keyspace),
    ((Evictor.start batch).ticks ks now count).state =
      (ks.evictExpired now (batch * count)).2
  | 0, _ => rfl
  | count + 1, ks => by
    rw [Nat.mul_succ, Nat.add_comm (batch * count), evictExpired_add]
    exact state_ticks_start batch now count (ks.evictExpired now batch).2

end Sum

section Drain

variable {ks after : Keyspace} {now : Instant}

theorem Consistent.describedBy_due_iff (h : Consistent ks) {key : String} {e : Entry}
    (he : ks.lookup key = some e) :
    e.DescribedBy key (ks.agenda.due now) ↔ e.isExpiredAt now = true := by
  rw [Entry.isExpiredAt_eq_true_iff]
  constructor
  · rintro ⟨t, ht, hmem⟩
    exact ⟨t, ht, by simpa using (List.mem_filter.1 hmem).2⟩
  · rintro ⟨t, ht, hle⟩
    exact ⟨t, ht, List.mem_filter.2 ⟨h.recorded he ht, by simpa using hle⟩⟩

theorem Consistent.mem_search_all_iff (h : Consistent ks) {key : String} :
    key ∈ ks.search (.startsWith "") now ↔
      ∃ e, ks.lookup key = some e ∧ e.isExpiredAt now = false := by
  rw [h.mem_search_iff, and_iff_right]
  simp [Matcher.accepts, hasPrefix]

/-- What a sweep leaves that may pop all due records. -/
theorem Consistent.drained (h : Consistent ks) {limit : Nat}
    (hlimit : (ks.agenda.due now).length ≤ limit) :
    Drained ks now (ks.evictExpired now limit).2 := by
  obtain ⟨removed, -, hsweep⟩ := sweeps_evictExpired now limit ks
  rw [List.take_of_length_le hlimit] at hsweep
  have hlookup : ∀ key e, ks.lookup key = some e →
      (ks.evictExpired now limit).2.lookup key = if e.isExpiredAt now then none else some e := by
    intro key e he
    have hremoved : key ∈ removed ↔ e.isExpiredAt now = true := by
      rw [hsweep.mem_removed_iff, ← h.describedBy_due_iff he]
      constructor
      · rintro ⟨e', he', hdescribed⟩
        rw [he, Option.some.injEq] at he'
        exact he' ▸ hdescribed
      · intro hdescribed
        exact ⟨e, he, hdescribed⟩
    rw [hsweep.lookup_eq, he]
    simp only [hremoved]
  refine ⟨?_, hlookup, ?_⟩
  · intro r hr
    have hnil : (ks.evictExpired now limit).2.agenda.due now = [] :=
      List.self_eq_append_right.1 hsweep.due_eq
    have hdue := List.filter_eq_nil_iff.1 hnil r hr
    exact Instant.not_le.1 (by simpa using hdue)
  · have hall : Matcher.compile "*" .wildcard = .ok (.startsWith "") := by decide
    rw [answer_searchFor_of_ok hall]
    refine congrArg Except.ok (eq_of_sorted_of_mem_iff (sorted_search ..)
      (List.pairwise_map.2 (KeyMap.sorted _)) fun key => ?_)
    rw [h.mem_search_all_iff, KeyMap.mem_keys_iff]
    refine exists_congr fun e => ?_
    show _ ↔ (ks.evictExpired now limit).2.lookup key = some e
    constructor
    · rintro ⟨he, hlive⟩
      rw [hlookup key e he, hlive]
      rfl
    · intro hafter
      have he : ks.lookup key = some e := by
        rw [hsweep.lookup_eq] at hafter
        split_ifs at hafter
        exact hafter
      rw [hlookup key e he] at hafter
      split_ifs at hafter with hexpired
      exact ⟨he, Bool.eq_false_iff.2 hexpired⟩

end Drain

/-- Two sweeps at one instant do and remove together what one sweep with both limits does. In a
keyspace that operations produced, sweeps whose limits add up to the number of due records leave
none that is due, and so do ticks of an evictor, as many as its batches take for that number. What
is stored afterwards is what a search for all keys found before: an entry goes from the instant
on at which it is expired for a reader. -/
theorem sweeps_compose_and_drain {ks : Keyspace} (h : Reachable ks) (now : Instant) :
    (∀ a b, ks.evictExpired now (a + b) =
      ((ks.evictExpired now a).1 + ((ks.evictExpired now a).2.evictExpired now b).1,
        ((ks.evictExpired now a).2.evictExpired now b).2)) ∧
    let due := (ks.agenda.records.filter (·.expiresAt ≤ now)).length
    (∀ limits : List Nat, due ≤ limits.sum → Drained ks now (ks.sweepAll now limits).2) ∧
    ∀ batch count, 0 < batch → (due + batch - 1) / batch ≤ count →
      Drained ks now ((Evictor.start batch).ticks ks now count).state := by
  refine ⟨fun a b => evictExpired_add now b a ks, fun limits hlimits => ?_,
    fun batch count hbatch hcount => ?_⟩
  · rw [sweepAll_eq]
    exact h.consistent.drained hlimits
  · rw [state_ticks_start]
    refine h.consistent.drained ?_
    have hdue := (Nat.div_le_iff_le_mul_add_pred hbatch).1 hcount
    show (ks.agenda.records.filter (·.expiresAt ≤ now)).length ≤ batch * count
    omega

/-- A key stored twice for a short time and then for a long one, and a key that expires at the
very instant of the sweeps, which come two records at a time. -/
theorem sweeps_compose_and_drain_stale_first :
    let ks := (((Keyspace.empty.insert "k" "x" (some (.early 1))).insert "k" "y"
      (some (.early 2))).insert "k" "z" (some (.early 9))).insert "j" "v" (some (.early 5))
    Reachable ks ∧ (ks.sweep (.early 5) 2).answer = 0 ∧
      Drained ks (.early 5) ((Evictor.start 2).ticks ks (.early 5) 2).state ∧
      ((Evictor.start 2).ticks ks (.early 5) 2).state.entries.keys = ["k"] := by
  intro ks
  have hreach : Reachable ks := (((Reachable.empty.insert "k" "x" (some (.early 1))).insert "k" "y"
    (some (.early 2))).insert "k" "z" (some (.early 9))).insert "j" "v" (some (.early 5))
  refine ⟨hreach, by decide +kernel, ?_, by decide +kernel⟩
  exact (sweeps_compose_and_drain hreach (.early 5)).2.2 2 2 (by decide) (by decide +kernel)

end Keyspace

end ExpiringCache
