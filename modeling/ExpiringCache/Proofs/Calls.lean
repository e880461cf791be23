import ExpiringCache.Engine
import ExpiringCache.Proofs.PrefixWalk

/-!
# Calls

What clients and the evictor ask of a keyspace, one call after another. A command is one section
under the lock, and a get is one or two. A call that does not write a key leaves its entry as it
was or takes it away because it has expired at an instant that the call read
(`lookup_perform_of_not_overwrites`); so an entry that stays live is kept until its key is
written (`lookup_run_eq_some`).
-/

namespace ExpiringCache

/-- What is done in one section, with the instant at which the clock is read. -/
inductive Command where
  | set (key value ttl : String) (now : Instant)
  | del (key : String)
  | expireKey (key : String)
  | search (pattern : String) (mode : SearchMode) (now : Instant)
  | reset
  | sweep (now : Instant) (limit : Nat)

/-- A command, or a get with the instants of its first look and of its second, if it needs one. -/
inductive Call where
  | get (key : String) (first second : Instant)
  | command (c : Command)

/-- What a call gives back. -/
inductive Answer where
  | stored (outcome : Except CacheError Unit)
  | value (found : Option String)
  | existed (answer : Bool)
  | keys (found : Except CacheError (List String))
  | count (number : Nat)

namespace Keyspace

/-- A command carried out on a keyspace. -/
def execute (ks : Keyspace) (threshold : Nat) : Command → Guarded Answer Keyspace
  | .set key value ttl now => (ks.set threshold key value ttl now).map .stored
  | .del key => (ks.deleteAs .del key).map .existed
  | .expireKey key => (ks.deleteAs .expireKey key).map .existed
  | .search pattern mode now => (ks.searchFor pattern mode now).map .keys
  | .reset => (ks.reset threshold).map .count
  | .sweep now limit => (ks.sweep now limit).map .count

/-- A call carried out on a keyspace. -/
def perform (ks : Keyspace) (threshold : Nat) : Call → Guarded Answer Keyspace
  | .get key first second => (ks.get key first second).map .value
  | .command c => ks.execute threshold c

/-- A keyspace after some calls. -/
def run (ks : Keyspace) (threshold : Nat) (calls : List Call) : Keyspace :=
  calls.foldl (fun ks c => (ks.perform threshold c).state) ks

end Keyspace

namespace Engine

/-- A call carried out on an engine. A sweep may pop any number of records. -/
def perform (e : Engine) : Call → Guarded Answer Engine
  | .get key first second => (e.get key first second).map .value
  | .command (.set key value ttl now) => (e.set key value ttl now).map .stored
  | .command (.del key) => (e.del key).map .existed
  | .command (.expireKey key) => (e.expireKey key).map .existed
  | .command (.search pattern mode now) => (e.search pattern mode now).map .keys
  | .command .reset => e.reset.map .count
  | .command (.sweep now limit) => (e.absorb (e.keyspace.sweep now limit)).map .count

/-- An engine after some calls. -/
def run (e : Engine) (calls : List Call) : Engine :=
  calls.foldl (fun e c => (e.perform c).state) e

theorem perform_eq_absorb (e : Engine) (c : Call) :
    e.perform c = e.absorb (e.keyspace.perform e.sampleThreshold c) := by
  rcases c with _ | c
  · rfl
  · cases c <;> rfl

theorem keyspace_run : ∀ (calls : List Call) (e : Engine),
    (e.run calls).keyspace = e.keyspace.run e.sampleThreshold calls
  | [], _ => rfl
  | c :: calls, e => by
    show (run (e.perform c).state calls).keyspace = _
    rw [keyspace_run calls, perform_eq_absorb]
    rfl

end Engine

/-- The instants at which a command reads the clock under the lock. A set reads it before. -/
def Command.lockedReadings : Command → List Instant
  | .search _ _ now => [now]
  | .sweep now _ => [now]
  | .set _ _ _ _ | .del _ | .expireKey _ | .reset => []

/-- The instants at which a command reads the clock. -/
def Command.readings : Command → List Instant
  | .set _ _ _ now => [now]
  | c => c.lockedReadings

/-- The instants at which a call reads the clock. -/
def Call.readings : Call → List Instant
  | .get _ first second => [first, second]
  | .command c => c.readings

theorem Command.mem_readings_of_mem_lockedReadings {c : Command} {t : Instant}
    (h : t ∈ c.lockedReadings) : t ∈ c.readings := by
  cases c <;> first | exact h | simp [lockedReadings] at h

/-- Whether a command gives a key a new entry, or none. A set that is refused does not. -/
def Command.Overwrites (key : String) : Command → Prop
  | .set k _ ttl now => k = key ∧ ∃ t, expirationFromTtl ttl now = .ok t
  | .del k => k = key
  | .expireKey k => k = key
  | .reset => True
  | .search _ _ _ | .sweep _ _ => False

/-- Whether a call gives a key a new entry, or none. -/
def Call.Overwrites (key : String) : Call → Prop
  | .get _ _ _ => False
  | .command c => c.Overwrites key

namespace Keyspace

variable {ks : Keyspace} {threshold : Nat} {key : String}

/-- An entry of a key is as it was, or gone because it has expired at one of some instants. -/
def KeptOrExpired (ks after : Keyspace) (key : String) (readings : List Instant) : Prop :=
  after.lookup key = ks.lookup key ∨
    after.lookup key = none ∧
      ∃ e, ks.lookup key = some e ∧ ∃ t ∈ readings, e.isExpiredAt t = true

theorem state_get (ks : Keyspace) (key : String) (first second : Instant) :
    (ks.get key first second).state =
      if ks.glance key first = .expired then (ks.recheck key second).2 else ks := by
  show (Guarded.andThen ⟨ks.glance key first, ks, _⟩ _).state = _
  unfold Guarded.andThen
  cases ks.glance key first <;> rfl

/-- The second look takes away at most its own key, and only if its entry has expired. -/
theorem lookup_recheck (ks : Keyspace) (key k : String) (now : Instant) :
    (ks.recheck key now).2.lookup k = ks.lookup k ∨
      (ks.recheck key now).2.lookup k = none ∧ key = k ∧
        ∃ e, ks.lookup key = some e ∧ e.isExpiredAt now = true := by
  unfold recheck
  split
  · exact .inl rfl
  · rename_i e he
    split
    · rename_i hexp
      simp only [lookup_remove]
      split
      · rename_i hk
        exact .inr ⟨rfl, hk, e, he, hexp⟩
      · exact .inl rfl
    · exact .inl rfl

theorem lookup_get (ks : Keyspace) (key k : String) (first second : Instant) :
    KeptOrExpired ks (ks.get key first second).state k [first, second] := by
  rw [state_get]
  split
  · rcases lookup_recheck ks key k second with h | ⟨h, rfl, e, he, hexp⟩
    · exact .inl h
    · exact .inr ⟨h, e, he, second, by simp, hexp⟩
  · exact .inl rfl

theorem state_set_of_ok {value ttl : String} {now : Instant} {t : Option Instant}
    (h : expirationFromTtl ttl now = .ok t) :
    (ks.set threshold key value ttl now).state = ks.insert key value t := by
  unfold set
  rw [h]
  rfl

theorem state_set_of_error {value ttl : String} {now : Instant} {fault : CacheError}
    (h : expirationFromTtl ttl now = .error fault) :
    (ks.set threshold key value ttl now).state = ks := by
  unfold set
  rw [h]
  rfl

theorem state_searchFor (ks : Keyspace) (pattern : String) (mode : SearchMode) (now : Instant) :
    (ks.searchFor pattern mode now).state = ks := by
  unfold searchFor
  split <;> rfl

theorem lookup_execute_of_not_overwrites (ks : Keyspace) (threshold : Nat) {c : Command}
    (h : ¬ c.Overwrites key) :
    KeptOrExpired ks (ks.execute threshold c).state key c.lockedReadings := by
  cases c with
  | set k value ttl now =>
    show KeptOrExpired ks (ks.set threshold k value ttl now).state key _
    cases hexp : expirationFromTtl ttl now with
    | error fault =>
      rw [state_set_of_error hexp]
      exact .inl rfl
    | ok t =>
      rw [state_set_of_ok hexp]
      refine .inl ?_
      rw [lookup_insert, if_neg fun hk => h ⟨hk, t, hexp⟩]
  | del k => exact .inl ((lookup_delete ks k key).trans (if_neg h))
  | expireKey k => exact .inl ((lookup_delete ks k key).trans (if_neg h))
  | search pattern mode now =>
    refine .inl ?_
    show (ks.searchFor pattern mode now).state.lookup key = _
    rw [state_searchFor]
  | reset => exact absurd trivial h
  | sweep now limit =>
    rcases lookup_evictExpired ks now limit key with h | ⟨h, e, he, hexp⟩
    · exact .inl h
    · exact .inr ⟨h, e, he, now, by simp [Command.lockedReadings], hexp⟩

/-- A call that does not write a key leaves its entry, or takes it away when it has expired. -/
theorem lookup_perform_of_not_overwrites (ks : Keyspace) (threshold : Nat) {c : Call}
    (h : ¬ c.Overwrites key) :
    KeptOrExpired ks (ks.perform threshold c).state key c.readings := by
  cases c with
  | get k first second => exact lookup_get ks k key first second
  | command c =>
    rcases lookup_execute_of_not_overwrites ks threshold h with h | ⟨h, e, he, t, ht, hexp⟩
    · exact .inl h
    · exact .inr ⟨h, e, he, t, Command.mem_readings_of_mem_lockedReadings ht, hexp⟩

/-- A call that writes a key stores the entry of an accepted set, or leaves no entry. -/
theorem lookup_execute_of_overwrites (ks : Keyspace) (threshold : Nat) {c : Command}
    (h : c.Overwrites key) :
    (∃ value ttl now t, c = .set key value ttl now ∧ expirationFromTtl ttl now = .ok t ∧
      (ks.execute threshold c).state.lookup key = some ⟨value, t⟩) ∨
    (∀ value ttl now, c ≠ .set key value ttl now) ∧
      (ks.execute threshold c).state.lookup key = none := by
  cases c with
  | set k value ttl now =>
    obtain ⟨rfl, t, ht⟩ := h
    refine .inl ⟨value, ttl, now, t, rfl, ht, ?_⟩
    show (ks.set threshold k value ttl now).state.lookup k = _
    rw [state_set_of_ok ht, lookup_insert, if_pos rfl]
  | del k => exact .inr ⟨by simp, (lookup_delete ks k key).trans (if_pos h)⟩
  | expireKey k => exact .inr ⟨by simp, (lookup_delete ks k key).trans (if_pos h)⟩
  | search pattern mode now => exact h.elim
  | reset => exact .inr ⟨by simp, rfl⟩
  | sweep now limit => exact h.elim

theorem run_append (ks : Keyspace) (threshold : Nat) (before after : List Call) :
    ks.run threshold (before ++ after) = (ks.run threshold before).run threshold after :=
  List.foldl_append ..

theorem reachable_execute (h : Reachable ks) (c : Command) :
    Reachable (ks.execute threshold c).state := by
  cases c with
  | set key value ttl now =>
    show Reachable (ks.set threshold key value ttl now).state
    cases hexp : expirationFromTtl ttl now with
    | error fault => rwa [state_set_of_error hexp]
    | ok t =>
      rw [state_set_of_ok hexp]
      exact h.insert key value t
  | del key => exact h.delete key
  | expireKey key => exact h.delete key
  | search pattern mode now =>
    show Reachable (ks.searchFor pattern mode now).state
    rwa [state_searchFor]
  | reset => exact h.clear
  | sweep now limit => exact h.evictExpired now limit

theorem reachable_perform (h : Reachable ks) (c : Call) :
    Reachable (ks.perform threshold c).state := by
  cases c with
  | get key first second =>
    show Reachable (ks.get key first second).state
    rw [state_get]
    split
    · unfold recheck
      split
      · exact h
      · split
        · exact h.remove key
        · exact h
    · exact h
  | command c => exact reachable_execute h c

theorem reachable_run : ∀ (calls : List Call) {ks : Keyspace}, Reachable ks →
    Reachable (ks.run threshold calls)
  | [], _, h => h
  | c :: calls, _, h => reachable_run calls (reachable_perform h c)

/-- An entry stays stored through calls that do not write its key, while it is live at all the
instants that they read. -/
theorem lookup_run_eq_some {e : Entry} : ∀ (calls : List Call) {ks : Keyspace},
    ks.lookup key = some e → (∀ c ∈ calls, ¬ c.Overwrites key) →
    (∀ c ∈ calls, ∀ t ∈ c.readings, e.isExpiredAt t = false) →
    (ks.run threshold calls).lookup key = some e
  | [], _, he, _, _ => he
  | c :: calls, ks, he, hwrite, hlive => by
    refine lookup_run_eq_some calls ?_ (fun d hd => hwrite d (List.mem_cons_of_mem _ hd))
      fun d hd => hlive d (List.mem_cons_of_mem _ hd)
    rcases lookup_perform_of_not_overwrites ks threshold (hwrite c List.mem_cons_self) with
      h | ⟨-, e', he', t, ht, hexp⟩
    · exact h.trans he
    · rw [he, Option.some.injEq] at he'
      subst he'
      rw [hlive c List.mem_cons_self t ht] at hexp
      simp at hexp

end Keyspace

end ExpiringCache
