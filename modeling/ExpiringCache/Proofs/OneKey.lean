import ExpiringCache.Proofs.Sections
import ExpiringCache.Proofs.TimedMap

/-!
# One key of a keyspace

What a keyspace holds at one key are its entry, its place in the index and its records on the
agenda. A call on one key reads and changes nothing but that: keyspaces that agree there give the
same answers and still agree afterwards (`AgreeAt.execute`, `AgreeAt.recheck`), and at any other
key everything stays (`agreeAt_execute`, `agreeAt_recheck`). Keyspaces that agree at every key are
equal (`eq_of_agreeAt`).
-/

namespace ExpiringCache

/-- The key that a command is about, if it is about one only. -/
def Command.key? : Command → Option String
  | .set key _ _ _ | .del key | .expireKey key => some key
  | .search _ _ _ | .reset | .sweep _ _ => none

/-- The key that a call is about, if it is about one only. -/
def Call.key? : Call → Option String
  | .get key _ _ => some key
  | .command c => c.key?

theorem Agenda.count_push (a : Agenda) (r s : DueRecord) :
    (a.push r).records.count s = a.records.count s + if r = s then 1 else 0 := by
  have hcount : ∀ l : List DueRecord,
      (insertRecord r l).count s = l.count s + if r = s then 1 else 0 := by
    intro l
    induction l with
    | nil => simp [insertRecord, List.count_cons]
    | cons t l ih =>
      unfold insertRecord
      split
      · simp [List.count_cons]
      · rw [List.count_cons, ih, List.count_cons]
        omega
  exact hcount a.records

theorem Agenda.count_removeKey (a : Agenda) (key : String) (r : DueRecord) :
    (a.removeKey key).records.count r = if r.key = key then 0 else a.records.count r := by
  show (a.records.filter (·.key ≠ key)).count r = _
  split_ifs with hkey
  · rw [List.count_eq_zero]
    simp [hkey]
  · rw [List.count_filter (by simpa using hkey)]

namespace Keyspace

/-- Two keyspaces hold the same at a key. -/
structure AgreeAt (key : String) (a b : Keyspace) : Prop where
  lookup_eq : a.lookup key = b.lookup key
  mem_index_iff : key ∈ a.index ↔ key ∈ b.index
  count_eq : ∀ t, a.agenda.records.count ⟨t, key⟩ = b.agenda.records.count ⟨t, key⟩

variable {key k : String} {a b c : Keyspace} {threshold : Nat}

namespace AgreeAt

protected theorem refl (key : String) (a : Keyspace) : AgreeAt key a a :=
  ⟨rfl, Iff.rfl, fun _ => rfl⟩

protected theorem symm (h : AgreeAt key a b) : AgreeAt key b a :=
  ⟨h.lookup_eq.symm, h.mem_index_iff.symm, fun t => (h.count_eq t).symm⟩

protected theorem trans (hab : AgreeAt key a b) (hbc : AgreeAt key b c) : AgreeAt key a c :=
  ⟨hab.lookup_eq.trans hbc.lookup_eq, hab.mem_index_iff.trans hbc.mem_index_iff,
    fun t => (hab.count_eq t).trans (hbc.count_eq t)⟩

end AgreeAt

theorem eq_of_agreeAt (h : ∀ key, AgreeAt key a b) : a = b := by
  have hentries : a.entries = b.entries := KeyMap.ext_of_get? fun key => (h key).lookup_eq
  have hindex : a.index = b.index :=
    KeyIndex.ext (eq_of_sorted_of_mem_iff a.index.sorted b.index.sorted fun key =>
      (h key).mem_index_iff)
  have hperm : a.agenda.records.Perm b.agenda.records := by
    rw [List.perm_iff_count]
    intro r
    exact (h r.key).count_eq r.expiresAt
  have hagenda : a.agenda = b.agenda :=
    Agenda.ext (hperm.eq_of_pairwise (fun _ _ _ _ => DueRecord.le_antisymm) a.agenda.sorted
      b.agenda.sorted)
  obtain ⟨_, _, _⟩ := a
  obtain ⟨_, _, _⟩ := b
  simp only [mk.injEq]
  exact ⟨hentries, hagenda, hindex⟩

section Insert

variable {value : String} {expiresAt : Option Instant}

theorem count_schedule (agenda : Agenda) (k : String) (expiresAt : Option Instant)
    (r : DueRecord) : (schedule agenda k expiresAt).records.count r =
      agenda.records.count r + if expiresAt = some r.expiresAt ∧ k = r.key then 1 else 0 := by
  cases expiresAt with
  | none => simp [schedule]
  | some t =>
    rw [schedule, Agenda.count_push]
    obtain ⟨u, j⟩ := r
    simp

theorem AgreeAt.insert (h : AgreeAt key a b) :
    AgreeAt key (a.insert k value expiresAt) (b.insert k value expiresAt) where
  lookup_eq := by rw [lookup_insert, lookup_insert, h.lookup_eq]
  mem_index_iff := by
    show key ∈ a.index.insert k ↔ key ∈ b.index.insert k
    rw [KeyIndex.mem_insert, KeyIndex.mem_insert, h.mem_index_iff]
  count_eq t := by
    show (schedule a.agenda k expiresAt).records.count _ =
      (schedule b.agenda k expiresAt).records.count _
    rw [count_schedule, count_schedule, h.count_eq]

theorem agreeAt_insert (hk : k ≠ key) (a : Keyspace) :
    AgreeAt key (a.insert k value expiresAt) a where
  lookup_eq := by rw [lookup_insert, if_neg hk]
  mem_index_iff := by
    show key ∈ a.index.insert k ↔ _
    rw [KeyIndex.mem_insert, or_iff_right hk.symm]
  count_eq t := by
    show (schedule a.agenda k expiresAt).records.count _ = _
    rw [count_schedule, if_neg fun h => hk h.2, Nat.add_zero]

end Insert

section Removal

theorem mem_index_remove (ks : Keyspace) (k key : String) :
    key ∈ (ks.remove k).index ↔ key ∈ ks.index ∧ (key = k → ks.lookup k = none) := by
  unfold remove
  cases h : ks.lookup k with
  | none => simp
  | some e => simp

theorem mem_index_delete (ks : Keyspace) (k key : String) :
    key ∈ (ks.delete k).2.index ↔ key ∈ ks.index ∧ (key = k → ks.lookup k = none) := by
  unfold delete
  cases h : ks.lookup k with
  | none => simp
  | some e => simp

theorem count_delete (ks : Keyspace) (k : String) (r : DueRecord) :
    (ks.delete k).2.agenda.records.count r =
      if r.key = k ∧ ks.lookup k ≠ none then 0 else ks.agenda.records.count r := by
  unfold delete
  cases h : ks.lookup k with
  | none => simp
  | some e => simp [Agenda.count_removeKey]

theorem AgreeAt.remove (h : AgreeAt key a b) : AgreeAt key (a.remove key) (b.remove key) where
  lookup_eq := by rw [lookup_remove, lookup_remove, if_pos rfl, if_pos rfl]
  mem_index_iff := by rw [mem_index_remove, mem_index_remove, h.mem_index_iff, h.lookup_eq]
  count_eq t := by rw [agenda_remove, agenda_remove, h.count_eq]

theorem agreeAt_remove (hk : k ≠ key) (a : Keyspace) : AgreeAt key (a.remove k) a where
  lookup_eq := by rw [lookup_remove, if_neg hk]
  mem_index_iff := by
    rw [mem_index_remove]
    exact and_iff_left fun h => absurd h.symm hk
  count_eq t := by rw [agenda_remove]

theorem AgreeAt.delete (h : AgreeAt key a b) :
    (a.delete key).1 = (b.delete key).1 ∧ AgreeAt key (a.delete key).2 (b.delete key).2 := by
  refine ⟨?_, ?_, ?_, fun t => ?_⟩
  · unfold Keyspace.delete
    rw [h.lookup_eq]
    cases b.lookup key <;> rfl
  · rw [lookup_delete, lookup_delete, if_pos rfl, if_pos rfl]
  · rw [mem_index_delete, mem_index_delete, h.mem_index_iff, h.lookup_eq]
  · rw [count_delete, count_delete, h.count_eq, h.lookup_eq]

theorem agreeAt_delete (hk : k ≠ key) (a : Keyspace) : AgreeAt key (a.delete k).2 a where
  lookup_eq := by rw [lookup_delete, if_neg hk]
  mem_index_iff := by
    rw [mem_index_delete]
    exact and_iff_left fun h => absurd h.symm hk
  count_eq t := by rw [count_delete, if_neg fun h => hk h.1.symm]

theorem AgreeAt.recheck (h : AgreeAt key a b) (now : Instant) :
    (a.recheck key now).1 = (b.recheck key now).1 ∧
      AgreeAt key (a.recheck key now).2 (b.recheck key now).2 := by
  unfold Keyspace.recheck
  rw [h.lookup_eq]
  cases b.lookup key with
  | none => exact ⟨rfl, h⟩
  | some e =>
    dsimp only
    split
    · exact ⟨rfl, h.remove⟩
    · exact ⟨rfl, h⟩

theorem agreeAt_recheck (hk : k ≠ key) (a : Keyspace) (now : Instant) :
    AgreeAt key (a.recheck k now).2 a := by
  unfold recheck
  split
  · exact .refl key a
  · split
    · exact agreeAt_remove hk a
    · exact .refl key a

end Removal

/-- A command on a key answers by what is there, and leaves the same there. -/
theorem AgreeAt.execute (h : AgreeAt key a b) (threshold : Nat) {c : Command}
    (hc : c.key? = some key) :
    (a.execute threshold c).answer = (b.execute threshold c).answer ∧
      AgreeAt key (a.execute threshold c).state (b.execute threshold c).state := by
  cases c with
  | set k value ttl now =>
    obtain rfl : k = key := by simpa [Command.key?] using hc
    show Answer.stored (a.set threshold k value ttl now).answer =
        .stored (b.set threshold k value ttl now).answer ∧
      AgreeAt k (a.set threshold k value ttl now).state (b.set threshold k value ttl now).state
    cases ht : expirationFromTtl ttl now with
    | error fault =>
      rw [state_set_of_error ht, state_set_of_error ht]
      refine ⟨?_, h⟩
      unfold Keyspace.set
      rw [ht]
      rfl
    | ok t =>
      rw [state_set_of_ok ht, state_set_of_ok ht]
      refine ⟨?_, h.insert⟩
      unfold Keyspace.set
      rw [ht]
      rfl
  | del k | expireKey k =>
    obtain rfl : k = key := by simpa [Command.key?] using hc
    obtain ⟨hanswer, hstate⟩ := h.delete
    exact ⟨congrArg Answer.existed hanswer, hstate⟩
  | search _ _ _ | reset | sweep _ _ => simp [Command.key?] at hc

/-- A command on one key leaves every other as it was. -/
theorem agreeAt_execute {c : Command} (hc : c.key? = some k) (hk : k ≠ key) (a : Keyspace) :
    AgreeAt key (a.execute threshold c).state a := by
  cases c with
  | set j value ttl now =>
    obtain rfl : j = k := by simpa [Command.key?] using hc
    show AgreeAt key (a.set threshold j value ttl now).state a
    cases ht : expirationFromTtl ttl now with
    | error fault =>
      rw [state_set_of_error ht]
      exact .refl key a
    | ok t =>
      rw [state_set_of_ok ht]
      exact agreeAt_insert hk a
  | del j | expireKey j =>
    obtain rfl : j = k := by simpa [Command.key?] using hc
    exact agreeAt_delete hk a
  | search _ _ _ | reset | sweep _ _ => simp [Command.key?] at hc

/-- Two keyspaces are changed at one key only, and agree there afterwards. -/
structure ChangeAlike (key : String) (a after b after' : Keyspace) : Prop where
  agree : AgreeAt key after after'
  left : ∀ k, key ≠ k → AgreeAt k after a
  right : ∀ k, key ≠ k → AgreeAt k after' b

theorem AgreeAt.changeAlike_refl (h : AgreeAt key a b) : ChangeAlike key a a b b :=
  ⟨h, fun k _ => .refl k a, fun k _ => .refl k b⟩

theorem AgreeAt.changeAlike_recheck (h : AgreeAt key a b) (now : Instant) :
    ChangeAlike key a (a.recheck key now).2 b (b.recheck key now).2 :=
  ⟨(h.recheck now).2, fun _ hk => agreeAt_recheck hk a now, fun _ hk => agreeAt_recheck hk b now⟩

theorem AgreeAt.changeAlike_execute (h : AgreeAt key a b) (threshold : Nat) {c : Command}
    (hc : c.key? = some key) :
    ChangeAlike key a (a.execute threshold c).state b (b.execute threshold c).state :=
  ⟨(h.execute threshold hc).2, fun _ hk => agreeAt_execute hc hk a,
    fun _ hk => agreeAt_execute hc hk b⟩

theorem agreeAt_perform {c : Call} (hc : c.key? = some k) (hk : k ≠ key) (a : Keyspace) :
    AgreeAt key (a.perform threshold c).state a := by
  cases c with
  | get j first second =>
    obtain rfl : j = k := by simpa [Call.key?] using hc
    show AgreeAt key (a.get j first second).state a
    rw [state_get]
    split
    · exact agreeAt_recheck hk a second
    · exact .refl key a
  | command c => exact agreeAt_execute hc hk a

/-- Calls on other keys leave a key as it was. -/
theorem agreeAt_run : ∀ (calls : List Call) (a : Keyspace),
    (∀ c ∈ calls, ∃ k, c.key? = some k ∧ k ≠ key) → AgreeAt key (a.run threshold calls) a
  | [], a, _ => .refl key a
  | c :: calls, a, h => by
    obtain ⟨k, hc, hk⟩ := h c List.mem_cons_self
    have hrest := agreeAt_run calls (a.perform threshold c).state
      fun d hd => h d (List.mem_cons_of_mem _ hd)
    exact hrest.trans (agreeAt_perform hc hk a)

end Keyspace

end ExpiringCache
