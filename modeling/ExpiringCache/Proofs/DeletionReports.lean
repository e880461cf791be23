import ExpiringCache.Proofs.Requests
import ExpiringCache.Proofs.TimedMap

/-!
# What deletions report

A deletion says whether its key was stored, and a reset how many keys were. Neither reads the
clock, so an entry that has expired and is still stored is reported as if it were live
(`deletions_report_stored_entries`), and a sweep that takes it away first changes the answer
(`expired_entry_reported_as_existing`). The reports are about live entries just when no stored
entry in question has expired; then they are decided by the calls that ask for a change.
-/

namespace ExpiringCache

namespace Keyspace

/-- Whether a key has an entry that has not expired. -/
def HasLive (ks : Keyspace) (key : String) (now : Instant) : Prop :=
  ∃ e, ks.lookup key = some e ∧ e.IsLiveAt now

/-- How many keys have an entry that has not expired. -/
def liveCount (ks : Keyspace) (now : Instant) : Nat :=
  ks.entries.entries.countP fun p => ! p.2.isExpiredAt now

variable {ks : Keyspace} {key : String} {now : Instant}

theorem answer_deleteAs_iff (op : Operation) :
    (ks.deleteAs op key).answer = true ↔ ∃ e, ks.lookup key = some e := by
  show (ks.delete key).1 = true ↔ _
  unfold delete
  split <;> simp_all

theorem stored_iff_hasLive_iff :
    ((∃ e, ks.lookup key = some e) ↔ ks.HasLive key now) ↔
      ∀ e, ks.lookup key = some e → e.IsLiveAt now := by
  constructor
  · intro h e he
    obtain ⟨e', he', hlive⟩ := h.1 ⟨e, he⟩
    rw [he, Option.some.injEq] at he'
    rwa [he']
  · intro h
    refine ⟨fun ⟨e, he⟩ => ⟨e, he, h e he⟩, fun ⟨e, he, _⟩ => ⟨e, he⟩⟩

theorem liveCount_le_size : ks.liveCount now ≤ ks.size := List.countP_le_length

theorem size_eq_liveCount_iff :
    ks.size = ks.liveCount now ↔ ∀ key e, ks.lookup key = some e → e.IsLiveAt now := by
  rw [eq_comm]
  show List.countP _ _ = List.length _ ↔ _
  rw [List.countP_eq_length]
  constructor
  · intro h key e he
    rw [Entry.isLiveAt_iff]
    simpa using h (key, e) (KeyMap.get?_eq_some_iff.1 he)
  · intro h p hp
    have hlive := Entry.isLiveAt_iff.1 (h p.1 p.2 (KeyMap.get?_eq_some_iff.2 hp))
    simp [hlive]

end Keyspace

section Runs

variable {history : List Call} {key : String}

/-- If what was stored last under a key is live, it is what is stored. -/
theorem lookup_run_iff_lastStored {threshold : Nat} {now : Instant} {entry : Entry}
    (hclock : Forward (history ++ [.get key now now]))
    (hlive : ∀ entry, LastStored history key entry → entry.IsLiveAt now) :
    (Keyspace.empty.run threshold history).lookup key = some entry ↔
      LastStored history key entry := by
  constructor
  · intro h
    rcases lookup_run_cases history _ h with h | ⟨h, -⟩
    · exact h
    · simp at h
  · intro h
    exact ((live_lookup_run_iff hclock (by simp [Call.readings])).2 ⟨h, hlive entry h⟩).1

end Runs

namespace Http.Server

variable {s : Server} {r : Request} {now : Instant} {timestamp : String}

theorem handle_of_route_of_not_head {route : Route} (h : r.route? = some route)
    (hhead : "HEAD" ∉ route.methods) :
    s.handle now timestamp r = s.carryOut now timestamp route r := by
  have hmethod : r.method ≠ "HEAD" := by
    unfold Request.route? at h
    split_ifs at h with hoptions
    obtain ⟨-, hmethod⟩ := Option.filter_eq_some_iff.1 h
    rintro heq
    rw [heq] at hmethod
    exact hhead (of_decide_eq_true hmethod)
  rw [handle_of_route h, if_neg hmethod]

/-- What a deletion or a reset answers is what a request for it is answered. -/
theorem body_of_call {c : Call} {p : Payload} (hcall : r.call? now = some c)
    (hp : (∃ key, c = .command (.del key) ∧ p = .delete key (s.engine.del key).answer) ∨
      (∃ key, c = .command (.expireKey key) ∧ p = .delete key (s.engine.expireKey key).answer) ∨
      c = .command .reset ∧ p = .reset s.engine.reset.answer) :
    (s.handle now timestamp r).1.body = .json p := by
  obtain ⟨route, hroute, hcall⟩ := Option.bind_eq_some_iff.1 hcall
  cases route with
  | set =>
    simp only [Route.call?] at hcall
    split at hcall
    · simp at hcall
    · split at hcall
      · simp at hcall
      · cases hcall
        simp at hp
  | search =>
    simp only [Route.call?] at hcall
    split at hcall
    · simp at hcall
    · cases hcall
      simp at hp
  | stats | health => simp [Route.call?] at hcall
  | get segment =>
    obtain ⟨key, -, rfl⟩ := Option.map_eq_some_iff.1 hcall
    simp at hp
  | reset =>
    cases hcall
    rw [handle_of_route_of_not_head hroute (by simp [Route.methods])]
    obtain rfl : p = .reset s.engine.reset.answer := by simpa using hp
    rfl
  | delete segment =>
    obtain ⟨key, hkey, rfl⟩ := Option.map_eq_some_iff.1 hcall
    rw [handle_of_route_of_not_head hroute (by simp [Route.methods])]
    obtain rfl : p = .delete key (s.engine.del key).answer := by simpa using hp
    simp only [carryOut, hkey]
    rfl
  | expire segment =>
    obtain ⟨key, hkey, rfl⟩ := Option.map_eq_some_iff.1 hcall
    rw [handle_of_route_of_not_head hroute (by simp [Route.methods])]
    obtain rfl : p = .delete key (s.engine.expireKey key).answer := by simpa using hp
    simp only [carryOut, hkey]
    rfl

end Http.Server

/-- A deletion reports whether its key is stored, live or expired, and a reset how many keys are;
over HTTP they are answered the same. So the reports are about live entries just when the key, or
no key at all, has a stored entry that has expired. Two engines that started empty and whose
clients asked for the same changes report the same of a key whose last stored entry is live, if
it has one, and after a reset if this holds of all keys. -/
theorem deletions_report_stored_entries (e : Engine) (now : Instant) :
    (∀ key, ((e.del key).answer = true ↔ ∃ entry, e.keyspace.lookup key = some entry) ∧
      ((e.expireKey key).answer = true ↔ ∃ entry, e.keyspace.lookup key = some entry) ∧
      (((e.del key).answer = true ↔ e.keyspace.HasLive key now) ↔
        ∀ entry, e.keyspace.lookup key = some entry → entry.IsLiveAt now)) ∧
    (e.reset.answer = e.keyspace.size ∧ e.keyspace.liveCount now ≤ e.reset.answer ∧
      (e.reset.answer = e.keyspace.liveCount now ↔
        ∀ key entry, e.keyspace.lookup key = some entry → entry.IsLiveAt now)) ∧
    (∀ (r : Http.Request) (timestamp : String),
      let answer := ((⟨e⟩ : Http.Server).handle now timestamp r).1
      (∀ key, r.call? now = some (.command (.del key)) →
        answer.body = .json (.delete key (e.del key).answer)) ∧
      (∀ key, r.call? now = some (.command (.expireKey key)) →
        answer.body = .json (.delete key (e.expireKey key).answer)) ∧
      (r.call? now = some (.command .reset) → answer.body = .json (.reset e.reset.answer))) ∧
    ∀ (e' : Engine) (history history' : List Call), e.keyspace = .empty → e'.keyspace = .empty →
      history.filter Call.isWrite = history'.filter Call.isWrite →
      (∀ key, Forward (history ++ [.get key now now])) →
      (∀ key, Forward (history' ++ [.get key now now])) →
      (∀ key, (∀ entry, LastStored history key entry → entry.IsLiveAt now) →
        ((e.run history).del key).answer = ((e'.run history').del key).answer ∧
        ((e.run history).expireKey key).answer = ((e'.run history').expireKey key).answer) ∧
      ((∀ key entry, LastStored history key entry → entry.IsLiveAt now) →
        (e.run history).reset.answer = (e'.run history').reset.answer) := by
  refine ⟨fun key => ⟨Keyspace.answer_deleteAs_iff .del,
      Keyspace.answer_deleteAs_iff .expireKey, ?_⟩,
    ⟨rfl, Keyspace.liveCount_le_size, Keyspace.size_eq_liveCount_iff⟩,
    fun r timestamp => ⟨fun key hcall => ?_, fun key hcall => ?_, fun hcall => ?_⟩, ?_⟩
  · rw [show (e.del key).answer = (e.keyspace.deleteAs .del key).answer from rfl,
      Keyspace.answer_deleteAs_iff]
    exact Keyspace.stored_iff_hasLive_iff
  · exact Http.Server.body_of_call hcall (.inl ⟨key, rfl, rfl⟩)
  · exact Http.Server.body_of_call hcall (.inr (.inl ⟨key, rfl, rfl⟩))
  · exact Http.Server.body_of_call hcall (.inr (.inr ⟨rfl, rfl⟩))
  · intro e' history history' he he' hwrites hclock hclock'
    have hlast : ∀ key entry, LastStored history key entry ↔ LastStored history' key entry := by
      intro key entry
      rw [← lastStored_filter_isWrite, hwrites, lastStored_filter_isWrite]
    have hlookup : ∀ key, (∀ entry, LastStored history key entry → entry.IsLiveAt now) →
        (e.run history).keyspace.lookup key = (e'.run history').keyspace.lookup key := by
      intro key hlive
      refine Option.ext fun entry => ?_
      rw [Engine.keyspace_run, Engine.keyspace_run, he, he',
        lookup_run_iff_lastStored (hclock key) hlive, hlast]
      refine (lookup_run_iff_lastStored (hclock' key) fun entry h => ?_).symm
      exact hlive entry ((hlast key entry).2 h)
    refine ⟨fun key hlive => ?_, fun hlive => ?_⟩
    · have hsame : ∀ op, ((e.run history).keyspace.deleteAs op key).answer =
          ((e'.run history').keyspace.deleteAs op key).answer := by
        intro op
        rw [Bool.eq_iff_iff, Keyspace.answer_deleteAs_iff, Keyspace.answer_deleteAs_iff,
          hlookup key hlive]
      exact ⟨hsame .del, hsame .expireKey⟩
    · have hentries : (e.run history).keyspace.entries = (e'.run history').keyspace.entries :=
        KeyMap.ext_of_get? fun key => hlookup key (hlive key)
      show (e.run history).keyspace.entries.size = (e'.run history').keyspace.entries.size
      rw [hentries]

/-- A key stored with no time to live left is reported as existing, and is not after a sweep. -/
theorem expired_entry_reported_as_existing :
    let history : List Call := [.command (.set "k" "v" "0" (.early 1))]
    let swept := history ++ [.command (.sweep (.early 2) 1)]
    let e := Engine.unobserved.run history
    let e' := Engine.unobserved.run swept
    Forward swept ∧ ¬ e.keyspace.HasLive "k" (.early 2) ∧ e.keyspace.liveCount (.early 2) = 0 ∧
      (e.del "k").answer = true ∧ (e'.del "k").answer = false ∧
      (e.expireKey "k").answer = true ∧ (e'.expireKey "k").answer = false ∧
      e.reset.answer = 1 ∧ e'.reset.answer = 0 := by
  refine ⟨by decide +kernel, ?_, by decide +kernel, by decide +kernel, by decide +kernel,
    by decide +kernel, by decide +kernel, by decide +kernel, by decide +kernel⟩
  rintro ⟨entry, hentry, hlive⟩
  have hstored : (Engine.unobserved.run [.command (.set "k" "v" "0" (.early 1))]).keyspace.lookup
      "k" = some ⟨"v", some (.early 1)⟩ := by
    decide +kernel
  rw [hstored, Option.some.injEq] at hentry
  rw [← hentry] at hlive
  exact absurd (hlive _ rfl) (by decide)

end ExpiringCache
