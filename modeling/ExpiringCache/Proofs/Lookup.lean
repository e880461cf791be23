import ExpiringCache.Keyspace.Basic
import Mathlib.Tactic.SplitIfs

/-!
# Look-ups after operations

What each operation of a keyspace does to a look-up. Whatever holds of a keyspace and is kept
when a due record is popped, with its entry if the record is current, holds after any sweep
(`evictExpired_induction`); so a sweep only takes away entries that have expired
(`lookup_evictExpired`).
-/

namespace ExpiringCache

theorem Instant.not_le {s t : Instant} : ¬ s ≤ t ↔ t < s := by
  rw [Instant.le_iff, Instant.lt_iff, Int.not_le]

/-- An instant soon after the origin of the clock. -/
def Instant.early (nanos : Fin 256) : Instant where
  nanos := nanos.val
  lower := Int.le_trans (by decide) (Int.natCast_nonneg nanos.val)
  upper := Int.lt_trans (Int.ofNat_lt.2 nanos.isLt) (by decide)

/-- The clock is before the entry's expiration, if it has one. -/
def Entry.IsLiveAt (e : Entry) (now : Instant) : Prop := ∀ t, e.expiresAt = some t → now < t

theorem Entry.isLiveAt_iff {e : Entry} {now : Instant} :
    e.IsLiveAt now ↔ e.isExpiredAt now = false := by
  rw [← Bool.not_eq_true, Entry.isExpiredAt_eq_true_iff]
  constructor
  · rintro h ⟨t, ht, hle⟩
    exact Instant.not_le.2 (h t ht) hle
  · intro h t ht
    exact Instant.not_le.1 fun hle => h ⟨t, ht, hle⟩

/-- What is live was live before. -/
theorem Entry.IsLiveAt.mono {e : Entry} {s now : Instant} (h : e.IsLiveAt now) (hs : s ≤ now) :
    e.IsLiveAt s :=
  fun t ht => Int.lt_of_le_of_lt hs (h t ht)

namespace Agenda

theorem popDue_eq_some {a b : Agenda} {now : Instant} {r : DueRecord}
    (h : a.popDue now = some (r, b)) : a.records = r :: b.records ∧ r.expiresAt ≤ now := by
  unfold popDue peek at h
  split at h
  · simp at h
  · rename_i s hs
    obtain ⟨rest, hrest⟩ := List.head?_eq_some_iff.1 hs
    split at h
    · rename_i hdue
      simp only [Option.some.injEq, Prod.mk.injEq] at h
      obtain ⟨rfl, rfl⟩ := h
      exact ⟨by simp [tail, hrest], hdue⟩
    · simp at h

theorem lt_of_popDue_eq_none {a : Agenda} {now : Instant} (h : a.popDue now = none) :
    ∀ r ∈ a.records, now < r.expiresAt := by
  intro r hr
  unfold popDue peek at h
  cases hrec : a.records with
  | nil => rw [hrec] at hr; simp at hr
  | cons s rest =>
    have hsorted := a.sorted
    rw [hrec] at h hr hsorted
    simp only [List.head?_cons] at h
    split at h
    · simp at h
    · rename_i hdue
      have hs : now < s.expiresAt := Instant.not_le.1 hdue
      rcases List.mem_cons.1 hr with rfl | hr
      · exact hs
      · have hle := (List.pairwise_cons.1 hsorted).1 r hr
        rw [DueRecord.le_iff, Instant.lt_iff, Instant.ext_iff] at hle
        rw [Instant.lt_iff] at hs ⊢
        omega

theorem mem_push {a : Agenda} {r s : DueRecord} :
    s ∈ (a.push r).records ↔ s = r ∨ s ∈ a.records := mem_insertRecord

theorem mem_removeKey {a : Agenda} {key : String} {r : DueRecord} :
    r ∈ (a.removeKey key).records ↔ r ∈ a.records ∧ r.key ≠ key := by
  simp [removeKey]

end Agenda

namespace Keyspace

@[simp]
theorem lookup_empty (key : String) : empty.lookup key = none := rfl

theorem lookup_insert (ks : Keyspace) (key value : String) (expiresAt : Option Instant)
    (k : String) : (ks.insert key value expiresAt).lookup k =
      if key = k then some ⟨value, expiresAt⟩ else ks.lookup k :=
  KeyMap.get?_insert ..

theorem lookup_remove (ks : Keyspace) (key k : String) :
    (ks.remove key).lookup k = if key = k then none else ks.lookup k := by
  unfold remove
  split
  · rename_i h
    split
    · rename_i hk
      rw [← hk, h]
    · rfl
  · exact KeyMap.get?_erase ..

theorem lookup_delete (ks : Keyspace) (key k : String) :
    (ks.delete key).2.lookup k = if key = k then none else ks.lookup k := by
  unfold delete
  split
  · rename_i h
    split
    · rename_i hk
      rw [← hk, h]
    · rfl
  · exact KeyMap.get?_erase ..

theorem isCurrent_eq_true_iff {ks : Keyspace} {r : DueRecord} :
    ks.isCurrent r = true ↔ ∃ e, ks.lookup r.key = some e ∧ e.expiresAt = some r.expiresAt := by
  unfold isCurrent
  split <;> simp_all

/-- What is kept when a due record is popped, together with its entry if the record gives that
entry's expiration, holds after a sweep. -/
theorem evictExpired_induction {P : Keyspace → Prop} {now : Instant}
    (stale : ∀ ks r agenda, P ks → ks.agenda.popDue now = some (r, agenda) →
      ks.isCurrent r = false → P { ks with agenda })
    (current : ∀ ks r agenda, P ks → ks.agenda.popDue now = some (r, agenda) →
      ks.isCurrent r = true → P (Keyspace.remove { ks with agenda } r.key)) :
    ∀ (limit : Nat) (ks : Keyspace), P ks → P (ks.evictExpired now limit).2
  | 0, _, h => h
  | limit + 1, ks, h => by
    rw [evictExpired]
    split
    · exact h
    · rename_i r agenda hpop
      split
      · rename_i hcur
        exact evictExpired_induction stale current limit _ (current ks r agenda h hpop hcur)
      · rename_i hcur
        exact evictExpired_induction stale current limit _
          (stale ks r agenda h hpop (by simpa using hcur))

/-- A sweep leaves a key's entry as it was, or takes it away because it has expired. -/
theorem lookup_evictExpired (ks : Keyspace) (now : Instant) (limit : Nat) (key : String) :
    (ks.evictExpired now limit).2.lookup key = ks.lookup key ∨
      (ks.evictExpired now limit).2.lookup key = none ∧
        ∃ e, ks.lookup key = some e ∧ e.isExpiredAt now = true := by
  refine evictExpired_induction (P := fun ks' => ks'.lookup key = ks.lookup key ∨
    ks'.lookup key = none ∧ ∃ e, ks.lookup key = some e ∧ e.isExpiredAt now = true)
    ?_ ?_ limit ks (.inl rfl)
  · intro ks' r agenda h _ _
    exact h
  · intro ks' r agenda h hpop hcur
    rw [lookup_remove]
    split
    · rename_i hk
      subst hk
      obtain ⟨e, he, hexp⟩ := isCurrent_eq_true_iff.1 hcur
      refine .inr ⟨rfl, e, ?_, ?_⟩
      · rcases h with h | ⟨h, -⟩
        · rw [← h, he]
        · simp [h] at he
      · exact Entry.isExpiredAt_eq_true_iff.2 ⟨_, hexp, (Agenda.popDue_eq_some hpop).2⟩
    · exact h

end Keyspace

end ExpiringCache
