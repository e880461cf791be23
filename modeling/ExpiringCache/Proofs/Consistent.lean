import ExpiringCache.Keyspace.Search
import ExpiringCache.Proofs.Lookup

/-!
# Consistent keyspaces

In every keyspace that operations can produce the index holds the keys of the stored entries, each
once, and every stored entry that expires still has a record with its key and its instant
(`Reachable.consistent`). Records are popped, purged and left behind at different times: what
keeps the invariant is that a record is popped or purged only together with the entry that it
describes, or when it describes none. So whatever has expired can still be swept, and nothing
is found that is not stored (`indexed_and_recorded`).
-/

namespace ExpiringCache

section Keys

variable {α : Type}

theorem KeyMap.keys_insert (m : KeyMap α) (key : String) (value : α) :
    (m.insert key value).keys = KeyIndex.insertKey key m.keys := by
  obtain ⟨l, h⟩ := m
  simp only [keys, insert]
  clear h
  induction l with
  | nil => rfl
  | cons p l ih =>
    simp only [insertPair, List.map_cons, KeyIndex.insertKey]
    split_ifs with hlt heq
    · rfl
    · rw [List.map_cons, heq]
    · rw [List.map_cons, ih]

theorem KeyMap.keys_erase (m : KeyMap α) (key : String) :
    (m.erase key).keys = m.keys.filter (· ≠ key) := by
  simp only [keys, erase, List.filter_map]
  rfl

theorem KeyMap.mem_keys_iff {m : KeyMap α} {key : String} :
    key ∈ m.keys ↔ ∃ value, m.get? key = some value := by
  simp only [keys, get?, List.mem_map, Option.map_eq_some_iff]
  constructor
  · rintro ⟨p, hp, rfl⟩
    cases hf : m.entries.find? (·.1 = p.1) with
    | none => exact absurd (List.find?_eq_none.1 hf p hp) (by simp)
    | some q => exact ⟨q.2, q, rfl, rfl⟩
  · rintro ⟨value, q, hq, -⟩
    exact ⟨q, List.mem_of_find?_eq_some hq, by simpa using List.find?_some hq⟩

theorem KeyMap.get?_eq_some_iff {m : KeyMap α} {key : String} {value : α} :
    m.get? key = some value ↔ (key, value) ∈ m.entries := by
  simp only [get?, Option.map_eq_some_iff]
  constructor
  · rintro ⟨p, hp, rfl⟩
    have hkey : p.1 = key := by simpa using List.find?_some hp
    rw [← hkey]
    exact List.mem_of_find?_eq_some hp
  · intro hmem
    obtain ⟨l, hl⟩ := m
    simp only at hmem ⊢
    induction l with
    | nil => simp at hmem
    | cons p l ih =>
      obtain ⟨hp, hl⟩ := List.pairwise_cons.1 hl
      rcases List.mem_cons.1 hmem with rfl | hmem
      · exact ⟨(key, value), by simp, rfl⟩
      · have hlt : p.1 < key := hp (key, value) hmem
        have hne : p.1 ≠ key := fun heq => String.lt_irrefl key (by rwa [heq] at hlt)
        rw [List.find?_cons_of_neg (by simpa using hne)]
        exact ih hl hmem

/-- Two maps in which every key has the same value are equal. -/
theorem KeyMap.ext_of_get? {a b : KeyMap α} (h : ∀ key, a.get? key = b.get? key) : a = b := by
  have hmem : ∀ p : String × α, p ∈ a.entries ↔ p ∈ b.entries := by
    rintro ⟨key, x⟩
    rw [← get?_eq_some_iff, ← get?_eq_some_iff, h]
  have hnodup : ∀ m : KeyMap α, m.entries.Nodup := by
    intro m
    refine m.sorted.imp fun {p q} hlt heq => ?_
    rw [heq] at hlt
    exact String.lt_irrefl q.1 hlt
  have hperm : a.entries.Perm b.entries :=
    (List.perm_ext_iff_of_nodup (hnodup a) (hnodup b)).2 hmem
  exact KeyMap.ext (hperm.eq_of_pairwise
    (fun p q _ _ hpq hqp => absurd hpq (String.lt_asymm hqp)) a.sorted b.sorted)

theorem nodup_of_sorted {keys : List String} (h : keys.Pairwise (· < ·)) : keys.Nodup := by
  refine h.imp fun {a b} hlt heq => ?_
  rw [heq] at hlt
  exact String.lt_irrefl b hlt

end Keys

namespace Keyspace

/-- The index and the entries have the same keys, and every entry that expires is on the
agenda. -/
structure Consistent (ks : Keyspace) : Prop where
  keys_eq : ks.index.keys = ks.entries.keys
  recorded : ∀ {key e t}, ks.lookup key = some e → e.expiresAt = some t →
    ⟨t, key⟩ ∈ ks.agenda.records

/-- The keyspaces that operations produce from the empty one. -/
inductive Reachable : Keyspace → Prop
  | empty : Reachable .empty
  | insert {ks} (h : Reachable ks) (key value : String) (expiresAt : Option Instant) :
      Reachable (ks.insert key value expiresAt)
  | remove {ks} (h : Reachable ks) (key : String) : Reachable (ks.remove key)
  | delete {ks} (h : Reachable ks) (key : String) : Reachable (ks.delete key).2
  | evictExpired {ks} (h : Reachable ks) (now : Instant) (limit : Nat) :
      Reachable (ks.evictExpired now limit).2
  | clear {ks} (h : Reachable ks) : Reachable ks.clear.2

section Steps

variable {ks : Keyspace}

theorem consistent_empty : Consistent .empty := ⟨rfl, fun h => by simp at h⟩

theorem keys_remove (h : ks.index.keys = ks.entries.keys) (key : String) :
    (ks.remove key).index.keys = (ks.remove key).entries.keys := by
  unfold remove
  split
  · exact h
  · rw [KeyMap.keys_erase, ← h]
    rfl

theorem agenda_remove (ks : Keyspace) (key : String) : (ks.remove key).agenda = ks.agenda := by
  unfold remove
  split <;> rfl

theorem Consistent.insert (h : Consistent ks) (key value : String)
    (expiresAt : Option Instant) : Consistent (ks.insert key value expiresAt) where
  keys_eq := by
    show KeyIndex.insertKey key ks.index.keys = (ks.entries.insert key _).keys
    rw [KeyMap.keys_insert, h.keys_eq]
  recorded := by
    intro k e t hk ht
    have hold : ∀ r ∈ ks.agenda.records,
        r ∈ (schedule ks.agenda key expiresAt).records := by
      intro r hr
      cases expiresAt with
      | none => exact hr
      | some _ => exact Agenda.mem_push.2 (.inr hr)
    rw [lookup_insert] at hk
    split_ifs at hk with heq
    · cases hk
      subst heq
      simp only at ht
      subst ht
      exact Agenda.mem_push.2 (.inl rfl)
    · exact hold _ (h.recorded hk ht)

theorem Consistent.remove (h : Consistent ks) (key : String) : Consistent (ks.remove key) where
  keys_eq := keys_remove h.keys_eq key
  recorded := by
    intro k e t hk ht
    rw [lookup_remove] at hk
    split_ifs at hk
    rw [agenda_remove]
    exact h.recorded hk ht

/-- A deletion purges the records of its own key only, which has no entry any more. -/
theorem Consistent.delete (h : Consistent ks) (key : String) :
    Consistent (ks.delete key).2 where
  keys_eq := by
    unfold Keyspace.delete
    split
    · exact h.keys_eq
    · rw [KeyMap.keys_erase, ← h.keys_eq]
      rfl
  recorded := by
    intro k e t hk ht
    rw [lookup_delete] at hk
    split_ifs at hk with heq
    have hmem := h.recorded hk ht
    unfold Keyspace.delete
    split
    · exact hmem
    · exact Agenda.mem_removeKey.2 ⟨hmem, Ne.symm heq⟩

/-- Popping a record that is not current takes no entry's last record: an entry that has this
very record would make it current. -/
theorem Consistent.pop_stale (h : Consistent ks) {now : Instant} {r : DueRecord}
    {agenda : Agenda} (hpop : ks.agenda.popDue now = some (r, agenda))
    (hstale : ks.isCurrent r = false) : Consistent { ks with agenda } where
  keys_eq := h.keys_eq
  recorded := by
    intro k e t hk ht
    have hmem := h.recorded hk ht
    rw [(Agenda.popDue_eq_some hpop).1] at hmem
    rcases List.mem_cons.1 hmem with heq | hmem
    · have hcur : ks.isCurrent r = true :=
        isCurrent_eq_true_iff.2 ⟨e, by rw [← heq]; exact hk, by rw [← heq]; exact ht⟩
      rw [hstale] at hcur
      simp at hcur
    · exact hmem

/-- Popping a current record removes its entry; every other entry has other records. -/
theorem Consistent.pop_current (h : Consistent ks) {now : Instant} {r : DueRecord}
    {agenda : Agenda} (hpop : ks.agenda.popDue now = some (r, agenda)) :
    Consistent (Keyspace.remove { ks with agenda } r.key) where
  keys_eq := by
    have heq : ({ ks with agenda } : Keyspace).index.keys = ks.entries.keys := h.keys_eq
    exact keys_remove heq r.key
  recorded := by
    intro k e t hk ht
    rw [lookup_remove] at hk
    split_ifs at hk with heq
    have hmem := h.recorded hk ht
    rw [(Agenda.popDue_eq_some hpop).1] at hmem
    rw [agenda_remove]
    rcases List.mem_cons.1 hmem with hr | hmem
    · exact absurd (by rw [← hr]) heq
    · exact hmem

theorem Consistent.evictExpired (h : Consistent ks) (now : Instant) (limit : Nat) :
    Consistent (ks.evictExpired now limit).2 :=
  evictExpired_induction (P := Consistent)
    (fun _ _ _ h hpop hstale => h.pop_stale hpop hstale)
    (fun _ _ _ h hpop _ => h.pop_current hpop) limit ks h

theorem Reachable.consistent (h : Reachable ks) : Consistent ks := by
  induction h with
  | empty => exact consistent_empty
  | insert _ key value expiresAt ih => exact ih.insert key value expiresAt
  | remove _ key ih => exact ih.remove key
  | delete _ key ih => exact ih.delete key
  | evictExpired _ now limit ih => exact ih.evictExpired now limit
  | clear => exact consistent_empty

end Steps

section Consequences

variable {ks : Keyspace}

theorem Consistent.mem_index_iff (h : Consistent ks) {key : String} :
    key ∈ ks.index ↔ ∃ e, ks.lookup key = some e := by
  rw [KeyIndex.mem_iff, h.keys_eq]
  exact KeyMap.mem_keys_iff

/-- A sweep that may pop as many records as there are leaves none that is due. -/
theorem lt_of_mem_evictExpired : ∀ (limit : Nat) (ks : Keyspace) {now : Instant},
    ks.pending ≤ limit → ∀ r ∈ (ks.evictExpired now limit).2.agenda.records, now < r.expiresAt
  | 0, ks, now, hlimit => by
    have hnil : ks.agenda.records = [] := List.length_eq_zero_iff.1 (Nat.le_zero.1 hlimit)
    rw [evictExpired, hnil]
    simp
  | limit + 1, ks, now, hlimit => by
    rw [evictExpired]
    split
    · rename_i hpop
      exact Agenda.lt_of_popDue_eq_none hpop
    · rename_i r agenda hpop
      have hlen : agenda.records.length ≤ limit := by
        have h := congrArg List.length (Agenda.popDue_eq_some hpop).1
        simp only [pending, Agenda.size] at hlimit
        rw [List.length_cons] at h
        omega
      split
      · refine lt_of_mem_evictExpired limit _ ?_
        rw [pending, agenda_remove]
        exact hlen
      · exact lt_of_mem_evictExpired limit _ hlen

/-- An entry that has expired is taken away by a sweep that pops enough records. -/
theorem Consistent.lookup_evictExpired_of_due (h : Consistent ks) {key : String} {e : Entry}
    {t now : Instant} (he : ks.lookup key = some e) (ht : e.expiresAt = some t) (hnow : t ≤ now)
    {limit : Nat} (hlimit : ks.pending ≤ limit) :
    (ks.evictExpired now limit).2.lookup key = none := by
  rcases lookup_evictExpired ks now limit key with hk | ⟨hk, -⟩
  · have hmem := (h.evictExpired now limit).recorded (hk.trans he) ht
    have hlt := lt_of_mem_evictExpired limit ks hlimit _ hmem
    exact absurd hnow (Instant.not_le.2 hlt)
  · exact hk

theorem lookup_of_mem_search {m : Matcher} {now : Instant} {key : String}
    (h : key ∈ ks.search m now) : ∃ e, ks.lookup key = some e := by
  have hlive := (List.mem_filter.1 h).2
  unfold isLive at hlive
  split at hlive
  · simp at hlive
  · exact ⟨_, ‹_›⟩

end Consequences

/-- In a keyspace that operations produced, the index holds exactly the stored keys, each once;
every entry that expires is on the agenda with its key and its instant; so from that instant on
a sweep that pops enough records takes it away; and a search finds only what is stored. -/
theorem indexed_and_recorded {ks : Keyspace} (h : Reachable ks) :
    (ks.index.keys.Nodup ∧ (∀ key, key ∈ ks.index ↔ ∃ e, ks.lookup key = some e) ∧
      ks.indexed = ks.size) ∧
    (∀ key e t, ks.lookup key = some e → e.expiresAt = some t →
      ⟨t, key⟩ ∈ ks.agenda.records) ∧
    (∀ key e t now limit, ks.lookup key = some e → e.expiresAt = some t → t ≤ now →
      ks.pending ≤ limit → (ks.evictExpired now limit).2.lookup key = none) ∧
    ∀ m now key, key ∈ ks.search m now → ∃ e, ks.lookup key = some e := by
  have hc := h.consistent
  refine ⟨⟨nodup_of_sorted ks.index.sorted, fun key => hc.mem_index_iff, ?_⟩,
    fun key e t => hc.recorded, ?_, ?_⟩
  · show ks.index.keys.length = ks.entries.entries.length
    rw [hc.keys_eq, KeyMap.keys, List.length_map]
  · intro key e t now limit he ht hnow hlimit
    exact hc.lookup_evictExpired_of_due he ht hnow hlimit
  · intro m now key hkey
    exact lookup_of_mem_search hkey

/-- A key set twice for one instant and once for a later one, and a sweep that pops one of its
two stale records. -/
theorem indexed_and_recorded_rewritten :
    ∃ ks : Keyspace, Reachable ks ∧ ks.pending = 2 ∧
      ks.lookup "k" = some ⟨"z", some (.early 9)⟩ ∧ "k" ∈ ks.index ∧
      ⟨.early 9, "k"⟩ ∈ ks.agenda.records ∧
      (ks.evictExpired (.early 9) 2).2.lookup "k" = none := by
  have hreach := (((Reachable.empty.insert "k" "x" (some (.early 5))).insert "k" "y"
    (some (.early 5))).insert "k" "z" (some (.early 9))).evictExpired (.early 6) 1
  have hfound : ((((empty.insert "k" "x" (some (.early 5))).insert "k" "y"
      (some (.early 5))).insert "k" "z" (some (.early 9))).evictExpired (.early 6) 1).2.lookup
        "k" = some ⟨"z", some (.early 9)⟩ := by
    decide +kernel
  obtain ⟨⟨-, hindex, -⟩, hrecord, hevict, -⟩ := indexed_and_recorded hreach
  refine ⟨_, hreach, by decide +kernel, hfound, (hindex "k").2 ⟨_, hfound⟩, ?_, ?_⟩
  · exact hrecord "k" _ _ hfound rfl
  · exact hevict "k" _ _ _ _ hfound rfl (by decide) (by decide +kernel)

end Keyspace

end ExpiringCache
