import ExpiringCache.Proofs.ByteOrder
import ExpiringCache.Proofs.OneKey

/-!
# One sweep

A sweep pops the due records in order until its limit is used up, and what it removes follows from
these records alone: `Sweeps` lists the records popped and the keys removed on the way. A key goes
with the first popped record that gives the expiration of its entry; a later record of the key
finds no entry, and one with another instant is stale (`Sweeps.mem_removed_iff`). Everything else
stays (`Sweeps.lookup_eq`, `Sweeps.mem_index_iff`), so a live entry does, whatever older records
of its key are popped (`sweep_takes_first_due_records`).
-/

namespace ExpiringCache

namespace Agenda

/-- The records that are due, in order. -/
def due (a : Agenda) (now : Instant) : List DueRecord := a.records.filter (·.expiresAt ≤ now)

variable {a b : Agenda} {now : Instant} {r : DueRecord}

theorem due_of_popDue_eq_none (h : a.popDue now = none) : a.due now = [] := by
  rw [due, List.filter_eq_nil_iff]
  intro r hr
  simpa using Instant.not_le.2 (lt_of_popDue_eq_none h r hr)

theorem due_of_popDue_eq_some (h : a.popDue now = some (r, b)) :
    a.due now = r :: b.due now := by
  obtain ⟨hrecords, hdue⟩ := popDue_eq_some h
  rw [due, hrecords, List.filter_cons_of_pos (by simpa using hdue)]
  rfl

end Agenda

/-- One of some records gives a key the expiration that the entry has. -/
def Entry.DescribedBy (e : Entry) (key : String) (records : List DueRecord) : Prop :=
  ∃ t, e.expiresAt = some t ∧ ⟨t, key⟩ ∈ records

theorem Entry.describedBy_cons {e : Entry} {key : String} {r : DueRecord}
    {records : List DueRecord} : e.DescribedBy key (r :: records) ↔
      (r.key = key ∧ e.expiresAt = some r.expiresAt) ∨ e.DescribedBy key records := by
  constructor
  · rintro ⟨t, ht, hmem⟩
    rcases List.mem_cons.1 hmem with rfl | hmem
    · exact .inl ⟨rfl, ht⟩
    · exact .inr ⟨t, ht, hmem⟩
  · rintro (⟨rfl, ht⟩ | ⟨t, ht, hmem⟩)
    · exact ⟨r.expiresAt, ht, List.mem_cons_self⟩
    · exact ⟨t, ht, List.mem_cons_of_mem r hmem⟩

theorem KeyMap.size_erase {α : Type} {m : KeyMap α} {key : String} {value : α}
    (h : m.get? key = some value) : (m.erase key).size + 1 = m.size := by
  have hmem : key ∈ m.keys := mem_keys_iff.2 ⟨value, h⟩
  have hnodup : m.keys.Nodup := nodup_of_sorted (List.pairwise_map.2 m.sorted)
  have hkeys : (m.erase key).keys = m.keys.erase key := by
    rw [keys_erase, hnodup.erase_eq_filter]
    exact List.filter_congr fun k _ => by rw [Bool.eq_iff_iff]; simp
  have hsize : ∀ n : KeyMap α, n.size = n.keys.length := fun n => (List.length_map _).symm
  have hpos : 0 < m.keys.length := List.length_pos_of_mem hmem
  rw [hsize, hsize, hkeys, List.length_erase_of_mem hmem]
  omega

namespace Keyspace

/-- Due records are popped one after another, and current ones take their keys out. -/
inductive Sweeps (now : Instant) :
    Keyspace → List DueRecord → List String → Keyspace → Prop where
  | done {ks : Keyspace} : Sweeps now ks [] [] ks
  | stale {ks after : Keyspace} {r : DueRecord} {agenda : Agenda} {popped : List DueRecord}
    {removed : List String} (hpop : ks.agenda.popDue now = some (r, agenda))
    (hstale : ks.isCurrent r = false) (hrest : Sweeps now { ks with agenda } popped removed after) :
    Sweeps now ks (r :: popped) removed after
  | current {ks after : Keyspace} {r : DueRecord} {agenda : Agenda} {popped : List DueRecord}
    {removed : List String} (hpop : ks.agenda.popDue now = some (r, agenda))
    (hcurrent : ks.isCurrent r = true)
    (hrest : Sweeps now (Keyspace.remove { ks with agenda } r.key) popped removed after) :
    Sweeps now ks (r :: popped) (r.key :: removed) after

/-- A sweep pops the first due records, as many as its limit allows. -/
theorem sweeps_evictExpired (now : Instant) : ∀ (limit : Nat) (ks : Keyspace),
    ∃ removed, (ks.evictExpired now limit).1 = removed.length ∧
      Sweeps now ks ((ks.agenda.due now).take limit) removed (ks.evictExpired now limit).2
  | 0, ks => ⟨[], rfl, .done⟩
  | limit + 1, ks => by
    rw [evictExpired]
    split
    · rename_i hpop
      rw [Agenda.due_of_popDue_eq_none hpop]
      exact ⟨[], rfl, .done⟩
    · rename_i r agenda hpop
      rw [Agenda.due_of_popDue_eq_some hpop, List.take_succ_cons]
      split
      · rename_i hcurrent
        obtain ⟨removed, hcount, hrest⟩ :=
          sweeps_evictExpired now limit (Keyspace.remove { ks with agenda } r.key)
        rw [agenda_remove] at hrest
        exact ⟨r.key :: removed, congrArg (· + 1) hcount, .current hpop hcurrent hrest⟩
      · rename_i hstale
        obtain ⟨removed, hcount, hrest⟩ := sweeps_evictExpired now limit { ks with agenda }
        exact ⟨removed, hcount, .stale hpop (Bool.eq_false_iff.2 hstale) hrest⟩

theorem size_remove {ks : Keyspace} {key : String} {e : Entry} (h : ks.lookup key = some e) :
    (ks.remove key).size + 1 = ks.size := by
  unfold remove
  rw [h]
  exact KeyMap.size_erase h

namespace Sweeps

variable {now : Instant} {ks after : Keyspace} {popped : List DueRecord} {removed : List String}
  (h : Sweeps now ks popped removed after)

include h

theorem records_eq : ks.agenda.records = popped ++ after.agenda.records := by
  induction h with
  | done => rfl
  | stale hpop _ _ ih =>
    rw [(Agenda.popDue_eq_some hpop).1, List.cons_append, ← ih]
  | current hpop _ _ ih =>
    rw [(Agenda.popDue_eq_some hpop).1, List.cons_append, ← ih, agenda_remove]

theorem expiresAt_le : ∀ r ∈ popped, r.expiresAt ≤ now := by
  induction h with
  | done => simp
  | stale hpop _ _ ih => exact List.forall_mem_cons.2 ⟨(Agenda.popDue_eq_some hpop).2, ih⟩
  | current hpop _ _ ih => exact List.forall_mem_cons.2 ⟨(Agenda.popDue_eq_some hpop).2, ih⟩

/-- The records popped are the front of what was due. -/
theorem due_eq : ks.agenda.due now = popped ++ after.agenda.due now := by
  have hpopped : popped.filter (·.expiresAt ≤ now) = popped :=
    List.filter_eq_self.2 fun r hr => by simpa using h.expiresAt_le r hr
  rw [Agenda.due, h.records_eq, List.filter_append, hpopped]
  rfl

theorem lookup_eq (key : String) :
    after.lookup key = if key ∈ removed then none else ks.lookup key := by
  induction h with
  | done => simp
  | stale _ _ _ ih => exact ih
  | @current ks _ r agenda _ removed _ _ _ ih =>
    rw [ih, lookup_remove]
    by_cases hr : r.key = key
    · simp [hr]
    · simp only [if_neg hr, List.mem_cons, Ne.symm hr, false_or]
      rfl

theorem mem_index_iff (key : String) : key ∈ after.index ↔ key ∈ ks.index ∧ key ∉ removed := by
  induction h with
  | done => simp
  | stale _ _ _ ih => exact ih
  | @current ks _ r agenda _ removed _ hcurrent _ ih =>
    obtain ⟨e, he, -⟩ := isCurrent_eq_true_iff.1 hcurrent
    have hstored : ({ ks with agenda } : Keyspace).lookup r.key ≠ none := by
      show ks.lookup r.key ≠ none
      simp [he]
    rw [ih, mem_index_remove, List.mem_cons, not_or]
    constructor
    · rintro ⟨⟨hk, hne⟩, hmem⟩
      exact ⟨hk, fun heq => hstored (hne heq), hmem⟩
    · rintro ⟨hk, hne, hmem⟩
      exact ⟨⟨hk, fun heq => absurd heq hne⟩, hmem⟩

/-- The keys removed are those whose entry has the expiration of a popped record of the key. -/
theorem mem_removed_iff (key : String) :
    key ∈ removed ↔ ∃ e, ks.lookup key = some e ∧ e.DescribedBy key popped := by
  induction h with
  | done => simp [Entry.DescribedBy]
  | @stale ks _ r agenda popped removed _ hstale _ ih =>
    rw [ih]
    refine exists_congr fun e => and_congr_right fun he => ?_
    rw [Entry.describedBy_cons]
    refine (or_iff_right ?_).symm
    rintro ⟨rfl, ht⟩
    have hcurrent : ks.isCurrent r = true := isCurrent_eq_true_iff.2 ⟨e, he, ht⟩
    rw [hstale] at hcurrent
    simp at hcurrent
  | @current ks _ r agenda popped removed _ hcurrent _ ih =>
    obtain ⟨e, he, ht⟩ := isCurrent_eq_true_iff.1 hcurrent
    rw [List.mem_cons, ih, lookup_remove]
    by_cases hr : r.key = key
    · subst hr
      simp only [true_or, true_iff]
      exact ⟨e, he, Entry.describedBy_cons.2 (.inl ⟨rfl, ht⟩)⟩
    · rw [or_iff_right (Ne.symm hr), if_neg hr]
      refine exists_congr fun e => and_congr_right fun _ => ?_
      rw [Entry.describedBy_cons, or_iff_right fun hkey => hr hkey.1]

theorem nodup_removed : removed.Nodup := by
  induction h with
  | done => exact List.nodup_nil
  | stale _ _ _ ih => exact ih
  | @current _ _ r _ _ _ _ _ hrest ih =>
    refine List.nodup_cons.2 ⟨fun hmem => ?_, ih⟩
    obtain ⟨e, he, -⟩ := (hrest.mem_removed_iff r.key).1 hmem
    rw [lookup_remove, if_pos rfl] at he
    simp at he

theorem size_eq : removed.length + after.size = ks.size := by
  induction h with
  | done => exact Nat.zero_add _
  | stale _ _ _ ih => exact ih
  | @current ks _ r agenda _ _ _ hcurrent _ ih =>
    obtain ⟨e, he, -⟩ := isCurrent_eq_true_iff.1 hcurrent
    have hsize : (Keyspace.remove { ks with agenda } r.key).size + 1 = ks.size := size_remove he
    rw [List.length_cons]
    omega

theorem length_removed_le : removed.length ≤ popped.length := by
  induction h with
  | done => exact Nat.le_refl 0
  | stale _ _ _ ih => exact Nat.le_succ_of_le ih
  | current _ _ _ ih => exact Nat.succ_le_succ ih

/-- What is live is not described by a record that is due. -/
theorem lookup_of_isLiveAt {key : String} {e : Entry} (he : ks.lookup key = some e)
    (hlive : e.IsLiveAt now) : after.lookup key = some e := by
  rw [h.lookup_eq, if_neg, he]
  rw [h.mem_removed_iff]
  rintro ⟨e', he', t, ht, hmem⟩
  rw [he, Option.some.injEq] at he'
  subst he'
  exact Instant.not_le.2 (hlive t ht) (h.expiresAt_le _ hmem)

end Sweeps

end Keyspace

/-- A sweep pops the first due records by instant and key, stale ones included, as many as there
are up to the limit, and leaves the other records as they are. It removes the keys whose entry has
the expiration of a popped record of the key, from the entries and from the index, and no others;
so it removes nothing that never expires or is still live. It reports how many keys it removed. -/
theorem sweep_takes_first_due_records (ks : Keyspace) (now : Instant) (limit : Nat) :
    let due := ks.agenda.records.filter (·.expiresAt ≤ now)
    let popped := due.take limit
    let after := (ks.evictExpired now limit).2
    due.Pairwise (fun r s => r.expiresAt < s.expiresAt ∨
      r.expiresAt = s.expiresAt ∧ r.key.toUTF8.data.toList ≤ s.key.toUTF8.data.toList) ∧
    popped.length = min limit due.length ∧
    ks.agenda.records = popped ++ after.agenda.records ∧
    (∃ removed : List String, removed.Nodup ∧
      (∀ key, key ∈ removed ↔ ∃ e t, ks.lookup key = some e ∧ e.expiresAt = some t ∧
        ⟨t, key⟩ ∈ popped) ∧
      (∀ key, after.lookup key = if key ∈ removed then none else ks.lookup key) ∧
      (∀ key, key ∈ after.index ↔ key ∈ ks.index ∧ key ∉ removed) ∧
      (ks.evictExpired now limit).1 = removed.length) ∧
    ((ks.evictExpired now limit).1 + after.size = ks.size ∧
      (ks.evictExpired now limit).1 ≤ limit) ∧
    ∀ key e, ks.lookup key = some e → (∀ t, e.expiresAt = some t → now < t) →
      after.lookup key = some e := by
  intro due popped after
  obtain ⟨removed, hcount, h⟩ := Keyspace.sweeps_evictExpired now limit ks
  have hpopped : popped.length = min limit due.length := List.length_take
  refine ⟨?_, hpopped, h.records_eq, ⟨removed, h.nodup_removed, ?_, h.lookup_eq, h.mem_index_iff,
    hcount⟩, ⟨?_, ?_⟩, ?_⟩
  · exact (ks.agenda.sorted.filter _).imp DueRecord.le_iff_toUTF8_le.1
  · intro key
    rw [h.mem_removed_iff]
    constructor
    · rintro ⟨e, he, t, ht, hmem⟩
      exact ⟨e, t, he, ht, hmem⟩
    · rintro ⟨e, t, he, ht, hmem⟩
      exact ⟨e, he, t, ht, hmem⟩
  · rw [hcount]
    exact h.size_eq
  · have hle : removed.length ≤ popped.length := h.length_removed_le
    omega
  · intro key e he hlive
    exact h.lookup_of_isLiveAt he hlive

/-- Of two records that are popped one is older than the entry of its key, which is still live. -/
theorem sweep_takes_first_due_records_older_record :
    let ks := ((Keyspace.empty.insert "k" "x" (some (.early 1))).insert "k" "z"
      (some (.early 9))).insert "j" "v" (some (.early 5))
    ks.lookup "k" = some ⟨"z", some (.early 9)⟩ ∧ (ks.evictExpired (.early 5) 2).1 = 1 ∧
      (ks.evictExpired (.early 5) 2).2.lookup "k" = some ⟨"z", some (.early 9)⟩ := by
  intro ks
  have hk : ks.lookup "k" = some ⟨"z", some (.early 9)⟩ := by decide +kernel
  obtain ⟨-, -, -, -, -, hlive⟩ := sweep_takes_first_due_records ks (.early 5) 2
  refine ⟨hk, by decide +kernel, hlive "k" _ hk fun t ht => ?_⟩
  rw [Option.some.injEq] at ht
  rw [← ht]
  decide

end ExpiringCache
