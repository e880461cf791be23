import ExpiringCache.Proofs.CountedOutcomes
import ExpiringCache.Proofs.Interleaving
import ExpiringCache.Proofs.OneKey
import Mathlib.Data.Fintype.BigOperators

/-!
# Clients with keys of their own

Clients that share a keyspace make their calls section by section, in any order. If no two of
them use the same key, each finds at its own keys what it would find alone, and nothing else of
the keyspace matters to it: a section keeps the keyspace and what every client would have by now,
alone, in agreement (`Apart.step`). So every client is answered as if it were alone, and in the
end the keyspace is put together from what the clients would have made alone
(`disjoint_clients_do_not_interfere`).
-/

namespace ExpiringCache

/-- Whether a keyspace holds anything at a key. -/
def Keyspace.Holds (ks : Keyspace) (key : String) : Prop :=
  (∃ e, ks.lookup key = some e) ∨ key ∈ ks.index ∨ ∃ t, ⟨t, key⟩ ∈ ks.agenda.records

/-- Clients that share a keyspace, and the calls that each has still to make. -/
structure Clients (ι : Type) where
  system : System ι
  calls : ι → List Call

namespace Clients

variable {ι : Type}

/-- Clients of an empty keyspace. -/
def start (program : ι → List Call) : Clients ι := ⟨⟨.empty, fun _ => none⟩, program⟩

/-- The section that a client makes next. -/
def next? (s : Clients ι) (client : ι) : Option Section :=
  match s.calls client, s.system.waiting client with
  | [], _ => none
  | .get key first _ :: _, none => some (.look key first)
  | .get _ _ second :: _, some _ => some (.recheck second)
  | .command c :: _, _ => some (.command c)

variable [DecidableEq ι]

/-- The next section of a client, with the call that it ends, if any. -/
def step? (threshold : Nat) (s : Clients ι) (client : ι) :
    Option (List (Ended ι) × Clients ι) :=
  match s.next? client with
  | none => none
  | some sec =>
    match s.system.step? threshold client sec with
    | none => none
    | some (ended, t) =>
      some (ended, ⟨t, fun i => (s.calls i).drop (if i = client then ended.length else 0)⟩)

/-- The sections that clients make when they take turns in some order. -/
def run? (threshold : Nat) (s : Clients ι) : List ι → Option (List (Ended ι) × Clients ι)
  | [] => some ([], s)
  | client :: rest =>
    match s.step? threshold client with
    | none => none
    | some (ended, t) =>
      match t.run? threshold rest with
      | none => none
      | some (later, u) => some (ended ++ later, u)

end Clients

section Get

variable {ks : Keyspace} {key : String} {first : Instant}

theorem get_of_glance_expired (second : Instant) (h : ks.glance key first = .expired) :
    (ks.get key first second).answer = (ks.recheck key second).1 ∧
      (ks.get key first second).state = (ks.recheck key second).2 := by
  have hget : ks.get key first second = Guarded.andThen ⟨ks.glance key first, ks, _⟩ _ := rfl
  rw [hget]
  unfold Guarded.andThen
  rw [h]
  exact ⟨rfl, rfl⟩

theorem get_of_glance_ne_expired (second : Instant) (h : ks.glance key first ≠ .expired) :
    (ks.get key first second).answer = (ks.recheck key first).1 ∧
      (ks.get key first second).state = ks := by
  have hget : ks.get key first second = Guarded.andThen ⟨ks.glance key first, ks, _⟩ _ := rfl
  rw [hget]
  unfold Guarded.andThen
  cases hg : ks.glance key first with
  | absent =>
    rw [Keyspace.recheck_of_glance_absent hg]
    exact ⟨rfl, rfl⟩
  | live v =>
    rw [Keyspace.recheck_of_glance_live hg]
    exact ⟨rfl, rfl⟩
  | expired => exact absurd hg h

theorem Keyspace.AgreeAt.glance_eq {a b : Keyspace} (h : AgreeAt key a b) (now : Instant) :
    a.glance key now = b.glance key now := by
  unfold glance
  rw [h.lookup_eq]

theorem Keyspace.performAll_get (threshold : Nat) (second : Instant) (rest : List Call) :
    ks.performAll threshold (.get key first second :: rest) =
      (.value (ks.get key first second).answer ::
          ((ks.get key first second).state.performAll threshold rest).1,
        ((ks.get key first second).state.performAll threshold rest).2) := rfl

theorem System.client_of_step? {ι : Type} [DecidableEq ι] {threshold : Nat} {s t : System ι}
    {client : ι} {sec : Section} {ended : List (Ended ι)}
    (h : s.step? threshold client sec = some (ended, t)) : ∀ d ∈ ended, d.client = client := by
  cases sec with
  | look key now =>
    obtain ⟨-, ⟨rfl, -⟩ | ⟨rfl, -⟩⟩ := step?_look h <;> simp
  | recheck now =>
    obtain ⟨key, -, rfl, -⟩ := step?_recheck h
    simp
  | command c =>
    obtain ⟨-, rfl, -⟩ := step?_command h
    simp

theorem System.step?_look_nil_iff {ι : Type} [DecidableEq ι] {threshold : Nat} {s t : System ι}
    {client : ι} {now : Instant} {ended : List (Ended ι)}
    (h : s.step? threshold client (.look key now) = some (ended, t)) :
    ended = [] ↔ s.keyspace.glance key now = .expired := by
  simp only [step?] at h
  split at h <;> simp_all
  all_goals
    rw [← h.1]
    simp

end Get

/-- Clients with keys of their own share a keyspace that holds at their keys what each would hold
alone by now, and nothing elsewhere. A client that waits would wait alone. -/
structure Apart {ι : Type} (keys : ι → String → Prop) (s : Clients ι) (alone : ι → Keyspace) :
    Prop where
  keyed : ∀ i, ∀ c ∈ s.calls i, ∃ key, c.key? = some key ∧ keys i key
  own : ∀ i key, keys i key → Keyspace.AgreeAt key s.system.keyspace (alone i)
  foreign : ∀ i key, ¬ keys i key → Keyspace.AgreeAt key (alone i) .empty
  unused : ∀ key, (∀ i, ¬ keys i key) → Keyspace.AgreeAt key s.system.keyspace .empty
  waits : ∀ i key, s.system.waiting i = some key → ∃ first second rest,
    s.calls i = .get key first second :: rest ∧ (alone i).glance key first = .expired

variable {ι : Type} {keys : ι → String → Prop} {s t : Clients ι} {alone : ι → Keyspace}

/-- A client looks for the key of its next get, or waits to look again, or carries out its next
command. -/
theorem Clients.next?_cases {client : ι} {sec : Section} (h : s.next? client = some sec) :
    (∃ key first second rest, s.calls client = .get key first second :: rest ∧
      (s.system.waiting client = none ∧ sec = .look key first ∨
        (∃ k, s.system.waiting client = some k) ∧ sec = .recheck second)) ∨
    ∃ c rest, s.calls client = .command c :: rest ∧ sec = .command c := by
  unfold next? at h
  split at h
  · simp at h
  · rename_i key first second rest hcalls hidle
    cases h
    exact .inl ⟨key, first, second, rest, hcalls, .inl ⟨hidle, rfl⟩⟩
  · rename_i key first second rest k hcalls hwaits
    cases h
    exact .inl ⟨key, first, second, rest, hcalls, .inr ⟨⟨k, hwaits⟩, rfl⟩⟩
  · rename_i c rest hcalls
    cases h
    exact .inr ⟨c, rest, hcalls, rfl⟩

theorem Apart.start {program : ι → List Call}
    (hkeyed : ∀ i, ∀ c ∈ program i, c.key?.isSome) :
    Apart (fun i key => ∃ c ∈ program i, c.key? = some key) (.start program)
      fun _ => .empty where
  keyed i c hc := by
    obtain ⟨key, hkey⟩ := Option.isSome_iff_exists.1 (hkeyed i c hc)
    exact ⟨key, hkey, c, hc, hkey⟩
  own _ key _ := .refl key _
  foreign _ key _ := .refl key _
  unused key _ := .refl key _
  waits _ _ hk := by simp [Clients.start] at hk

/-- At a key, clients that are apart have made what one of them would have made alone, and the
others would have made nothing there; or there is nothing. -/
theorem Apart.at_key (h : Apart keys s alone)
    (hdisjoint : ∀ {i j key}, keys i key → keys j key → i = j) (key : String) :
    (∃ i, Keyspace.AgreeAt key s.system.keyspace (alone i) ∧
      ∀ j, j ≠ i → Keyspace.AgreeAt key (alone j) .empty) ∨
    Keyspace.AgreeAt key s.system.keyspace .empty ∧
      ∀ j, Keyspace.AgreeAt key (alone j) .empty := by
  by_cases hused : ∃ i, keys i key
  · obtain ⟨i, hi⟩ := hused
    exact .inl ⟨i, h.own i key hi, fun j hj => h.foreign j key fun hk => hj (hdisjoint hk hi)⟩
  · have hunused : ∀ i, ¬ keys i key := fun i hi => hused ⟨i, hi⟩
    exact .inr ⟨h.unused key hunused, fun j => h.foreign j key (hunused j)⟩

section Merge

variable (h : Apart keys s alone) (hdisjoint : ∀ {i j key}, keys i key → keys j key → i = j)

include h hdisjoint

theorem Apart.lookup_eq_some_iff {key : String} {e : Entry} :
    s.system.keyspace.lookup key = some e ↔ ∃ i, (alone i).lookup key = some e := by
  rcases h.at_key hdisjoint key with ⟨i, hi, hother⟩ | ⟨hnone, hall⟩
  · rw [hi.lookup_eq]
    refine ⟨fun he => ⟨i, he⟩, fun ⟨j, he⟩ => ?_⟩
    by_cases hj : j = i
    · rw [← hj, he]
    · rw [(hother j hj).lookup_eq] at he
      simp at he
  · rw [hnone.lookup_eq]
    simp [(hall _).lookup_eq]

theorem Apart.mem_index_iff {key : String} :
    key ∈ s.system.keyspace.index ↔ ∃ i, key ∈ (alone i).index := by
  have hempty : key ∉ Keyspace.empty.index := List.not_mem_nil
  rcases h.at_key hdisjoint key with ⟨i, hi, hother⟩ | ⟨hnone, hall⟩
  · rw [hi.mem_index_iff]
    refine ⟨fun hk => ⟨i, hk⟩, fun ⟨j, hk⟩ => ?_⟩
    by_cases hj : j = i
    · rwa [hj] at hk
    · exact absurd ((hother j hj).mem_index_iff.1 hk) hempty
  · rw [hnone.mem_index_iff]
    exact ⟨fun hk => absurd hk hempty, fun ⟨j, hk⟩ => (hall j).mem_index_iff.1 hk⟩

theorem Apart.records_eq_sum [Fintype ι] :
    (s.system.keyspace.agenda.records : Multiset DueRecord) =
      ∑ i, ((alone i).agenda.records : Multiset DueRecord) := by
  refine Multiset.ext.2 fun r => ?_
  rw [Multiset.count_sum']
  simp only [Multiset.coe_count]
  have hempty : ∀ t, Keyspace.empty.agenda.records.count ⟨t, r.key⟩ = 0 := fun _ => rfl
  rcases h.at_key hdisjoint r.key with ⟨i, hi, hother⟩ | ⟨hnone, hall⟩
  · rw [Finset.sum_eq_single i (fun j _ hj => ((hother j hj).count_eq _).trans (hempty _))
      fun hi => absurd (Finset.mem_univ i) hi]
    exact hi.count_eq r.expiresAt
  · rw [Finset.sum_eq_zero fun j _ => ((hall j).count_eq _).trans (hempty _)]
    exact (hnone.count_eq _).trans (hempty _)

end Merge

/-- What clients would have made alone decides what they have made once they are done. -/
theorem Apart.system_eq (h : Apart keys s alone) (h' : Apart keys t alone)
    (hs : ∀ i, s.calls i = []) (ht : ∀ i, t.calls i = []) : s.system = t.system := by
  have hidle : ∀ {u : Clients ι}, Apart keys u alone → (∀ i, u.calls i = []) →
      u.system.waiting = fun _ => none := by
    intro u hu hcalls
    funext i
    cases hw : u.system.waiting i with
    | none => rfl
    | some k =>
      obtain ⟨_, _, _, hget, -⟩ := hu.waits i k hw
      rw [hcalls i] at hget
      simp at hget
  have hkeyspace : s.system.keyspace = t.system.keyspace := by
    refine Keyspace.eq_of_agreeAt fun key => ?_
    by_cases hused : ∃ i, keys i key
    · obtain ⟨i, hi⟩ := hused
      exact (h.own i key hi).trans (h'.own i key hi).symm
    · have hunused : ∀ i, ¬ keys i key := fun i hi => hused ⟨i, hi⟩
      exact (h.unused key hunused).trans (h'.unused key hunused).symm
  have hwaiting := (hidle h hs).trans (hidle h' ht).symm
  cases hsys : s.system
  cases hsys' : t.system
  rw [hsys, hsys'] at hkeyspace hwaiting
  simp only at hkeyspace hwaiting
  rw [hkeyspace, hwaiting]

variable [DecidableEq ι] {threshold : Nat} {client : ι} {ended : List (Ended ι)}

/-- Sections have brought clients from one state to another, in which each has been given the
answers that it would be given alone from one keyspace to another. -/
def Answered (threshold : Nat) (s : Clients ι) (alone : ι → Keyspace)
    (ended : List (Ended ι)) (t : Clients ι) (after : ι → Keyspace) : Prop :=
  ∀ i, (alone i).performAll threshold (s.calls i) =
    (((ended.filter (·.client = i)).map (·.answer)) ++
        ((after i).performAll threshold (t.calls i)).1,
      ((after i).performAll threshold (t.calls i)).2)

theorem Answered.refl : Answered threshold s alone [] s alone := fun _ => rfl

theorem Answered.trans {u : Clients ι} {between after : ι → Keyspace} {later : List (Ended ι)}
    (h : Answered threshold s alone ended t between)
    (h' : Answered threshold t between later u after) :
    Answered threshold s alone (ended ++ later) u after := by
  intro i
  rw [h i, h' i]
  simp

namespace Clients

theorem step?_cases (h : s.step? threshold client = some (ended, t)) :
    ∃ sec, s.next? client = some sec ∧
      s.system.step? threshold client sec = some (ended, t.system) ∧
      t.calls client = (s.calls client).drop ended.length ∧
      ∀ i, i ≠ client → t.calls i = s.calls i := by
  unfold step? at h
  split at h
  · simp at h
  · rename_i sec hsec
    split at h
    · simp at h
    · rename_i ended' t' hstep
      simp only [Option.some.injEq, Prod.mk.injEq] at h
      obtain ⟨rfl, rfl⟩ := h
      refine ⟨sec, hsec, hstep, by simp, fun i hi => ?_⟩
      simp [hi]

theorem run?_cons {rest : List ι} {done : List (Ended ι)} {u : Clients ι}
    (h : s.run? threshold (client :: rest) = some (done, u)) :
    ∃ ended t later, s.step? threshold client = some (ended, t) ∧
      t.run? threshold rest = some (later, u) ∧ done = ended ++ later := by
  simp only [run?] at h
  split at h
  · simp at h
  · rename_i ended t hstep
    split at h
    · simp at h
    · rename_i later u' hrun
      simp only [Option.some.injEq, Prod.mk.injEq] at h
      obtain ⟨rfl, rfl⟩ := h
      exact ⟨ended, t, later, hstep, hrun, rfl⟩

end Clients

/-- If a section of a client answers it what it would be answered alone, all clients are. -/
theorem Answered.update {ks : Keyspace} (hstep : s.step? threshold client = some (ended, t))
    (hanswers : (alone client).performAll threshold (s.calls client) =
      (ended.map (·.answer) ++ (ks.performAll threshold (t.calls client)).1,
        (ks.performAll threshold (t.calls client)).2)) :
    Answered threshold s alone ended t (Function.update alone client ks) := by
  obtain ⟨sec, -, hsys, -, hcalls⟩ := Clients.step?_cases hstep
  have hended := System.client_of_step? hsys
  intro i
  by_cases hi : i = client
  · subst hi
    have hall : ended.filter (·.client = i) = ended :=
      List.filter_eq_self.2 fun d hd => by simpa using hended d hd
    rw [Function.update_self, hanswers, hall]
  · have hnone : ended.filter (·.client = i) = [] := by
      rw [List.filter_eq_nil_iff]
      intro d hd
      rw [hended d hd]
      simpa using Ne.symm hi
    rw [Function.update_of_ne hi, hcalls i hi, hnone]
    rfl

/-- What a client does at a key of its own, in the shared keyspace as alone, keeps the clients
apart. -/
theorem Apart.change (h : Apart keys s alone)
    (hdisjoint : ∀ {i j key}, keys i key → keys j key → i = j) {key : String} {ks : Keyspace}
    (hkey : keys client key) (hstep : s.step? threshold client = some (ended, t))
    (hchange : Keyspace.ChangeAlike key s.system.keyspace t.system.keyspace (alone client) ks)
    (hwaits : ∀ k, t.system.waiting client = some k → ∃ first second rest,
      t.calls client = .get k first second :: rest ∧ ks.glance k first = .expired) :
    Apart keys t (Function.update alone client ks) := by
  obtain ⟨sec, -, hsys, hleft, hcalls⟩ := Clients.step?_cases hstep
  have hsub : ∀ c ∈ t.calls client, c ∈ s.calls client := by
    intro c hc
    rw [hleft] at hc
    exact List.mem_of_mem_drop hc
  refine ⟨?_, ?_, ?_, ?_, ?_⟩
  · intro i c hc
    by_cases hi : i = client
    · subst hi
      exact h.keyed i c (hsub c hc)
    · rw [hcalls i hi] at hc
      exact h.keyed i c hc
  · intro i k hk
    by_cases hi : i = client
    · subst hi
      rw [Function.update_self]
      by_cases heq : key = k
      · exact heq ▸ hchange.agree
      · exact ((hchange.left k heq).trans (h.own i k hk)).trans (hchange.right k heq).symm
    · -- the key belongs to the client whose section this is, so it is none of `i`
      rw [Function.update_of_ne hi]
      have heq : key ≠ k := fun heq => hi (hdisjoint hk (heq ▸ hkey))
      exact (hchange.left k heq).trans (h.own i k hk)
  · intro i k hk
    by_cases hi : i = client
    · subst hi
      rw [Function.update_self]
      have heq : key ≠ k := fun heq => hk (heq ▸ hkey)
      exact (hchange.right k heq).trans (h.foreign i k hk)
    · rw [Function.update_of_ne hi]
      exact h.foreign i k hk
  · intro k hk
    have heq : key ≠ k := fun heq => hk client (heq ▸ hkey)
    exact (hchange.left k heq).trans (h.unused k hk)
  · intro i k hk
    by_cases hi : i = client
    · subst hi
      rw [Function.update_self]
      exact hwaits k hk
    · rw [Function.update_of_ne hi, hcalls i hi]
      rw [System.waiting_of_step? hsys (Ne.symm hi)] at hk
      exact h.waits i k hk

section Step

variable (h : Apart keys s alone) (hdisjoint : ∀ {i j key}, keys i key → keys j key → i = j)
  (hstep : s.step? threshold client = some (ended, t))
  (hleft : t.calls client = (s.calls client).drop ended.length)

include h hdisjoint hstep hleft

/-- A first look that meets an expired entry would meet one alone; any other ends the get, as it
would alone. -/
theorem Apart.look {key : String} {first second : Instant} {rest : List Call}
    (hcalls : s.calls client = .get key first second :: rest)
    (hsys : s.system.step? threshold client (.look key first) = some (ended, t.system)) :
    ∃ after, Apart keys t after ∧ Answered threshold s alone ended t after := by
  obtain ⟨_, hkeyed, hkey⟩ := h.keyed client _ (hcalls ▸ List.mem_cons_self)
  cases hkeyed
  have hown := h.own client key hkey
  have hchange : Keyspace.ChangeAlike key s.system.keyspace t.system.keyspace (alone client)
      (alone client) := by
    have hsame : t.system.keyspace = s.system.keyspace := by
      obtain ⟨-, ⟨-, ht⟩ | ⟨-, ht, -⟩⟩ := System.step?_look hsys
      · rw [ht]
        rfl
      · rw [ht]
    rw [hsame]
    exact hown.changeAlike_refl
  refine ⟨_, h.change hdisjoint hkey hstep hchange ?_, .update hstep ?_⟩
  · intro k hk
    obtain ⟨hidle, ⟨rfl, ht⟩ | ⟨-, ht, -⟩⟩ := System.step?_look hsys
    · rw [ht] at hk
      have hk : some key = some k := (if_pos rfl).symm.trans hk
      cases hk
      have hexp := (System.step?_look_nil_iff hsys).1 rfl
      exact ⟨first, second, rest, hleft.trans hcalls, (hown.glance_eq first).symm.trans hexp⟩
    · rw [ht, hidle] at hk
      simp at hk
  · obtain ⟨-, ⟨rfl, -⟩ | ⟨rfl, -, -⟩⟩ := System.step?_look hsys
    · rw [hleft]
      rfl
    · have hlive : (alone client).glance key first ≠ .expired := by
        rw [← hown.glance_eq first]
        intro hexp
        exact List.cons_ne_nil _ _ ((System.step?_look_nil_iff hsys).2 hexp)
      obtain ⟨hanswer, hstate⟩ := get_of_glance_ne_expired second hlive
      rw [hleft, hcalls, Keyspace.performAll_get, hanswer, hstate, (hown.recheck first).1]
      rfl

/-- A second look is made only if the first one alone would have been followed by it. -/
theorem Apart.recheck {key k : String} {first second : Instant} {rest : List Call}
    (hcalls : s.calls client = .get key first second :: rest)
    (hk : s.system.waiting client = some k)
    (hsys : s.system.step? threshold client (.recheck second) = some (ended, t.system)) :
    ∃ after, Apart keys t after ∧ Answered threshold s alone ended t after := by
  obtain ⟨_, _, _, hget, hexp⟩ := h.waits client k hk
  rw [hcalls] at hget
  cases hget
  obtain ⟨_, hkeyed, hkey⟩ := h.keyed client _ (hcalls ▸ List.mem_cons_self)
  cases hkeyed
  obtain ⟨_, hwaits, rfl, ht⟩ := System.step?_recheck hsys
  rw [hk] at hwaits
  cases hwaits
  have hown := h.own client key hkey
  have hkeyspace : t.system.keyspace = (s.system.keyspace.recheck key second).2 := by
    rw [ht]
    rfl
  have hchange := hown.changeAlike_recheck second
  rw [← hkeyspace] at hchange
  obtain ⟨hanswer, hstate⟩ := get_of_glance_expired second hexp
  refine ⟨_, h.change hdisjoint hkey hstep hchange ?_, .update hstep ?_⟩
  · intro j hj
    rw [ht] at hj
    have hj : none = some j := (if_pos rfl).symm.trans hj
    simp at hj
  · rw [hleft, hcalls, Keyspace.performAll_get, hanswer, hstate, (hown.recheck second).1]
    rfl

theorem Apart.command {c : Command} {rest : List Call}
    (hcalls : s.calls client = .command c :: rest)
    (hsys : s.system.step? threshold client (.command c) = some (ended, t.system)) :
    ∃ after, Apart keys t after ∧ Answered threshold s alone ended t after := by
  obtain ⟨key, hkeyed, hkey⟩ := h.keyed client _ (hcalls ▸ List.mem_cons_self)
  have hkeyed : c.key? = some key := hkeyed
  obtain ⟨hidle, rfl, ht⟩ := System.step?_command hsys
  have hown := h.own client key hkey
  have hkeyspace : t.system.keyspace = (s.system.keyspace.execute threshold c).state := by
    rw [ht]
  have hchange := hown.changeAlike_execute threshold hkeyed
  rw [← hkeyspace] at hchange
  refine ⟨_, h.change hdisjoint hkey hstep hchange ?_, .update hstep ?_⟩
  · intro j hj
    rw [ht] at hj
    have hj : none = some j := hidle.symm.trans hj
    simp at hj
  · rw [hleft, hcalls, (hown.execute threshold hkeyed).1]
    rfl

end Step

/-- A section of a client keeps the clients apart, and it is answered as alone. -/
theorem Apart.step (h : Apart keys s alone)
    (hdisjoint : ∀ {i j key}, keys i key → keys j key → i = j)
    (hstep : s.step? threshold client = some (ended, t)) :
    ∃ after, Apart keys t after ∧ Answered threshold s alone ended t after := by
  obtain ⟨sec, hnext, hsys, hleft, -⟩ := Clients.step?_cases hstep
  rcases Clients.next?_cases hnext with
    ⟨key, first, second, rest, hcalls, ⟨-, rfl⟩ | ⟨⟨k, hk⟩, rfl⟩⟩ | ⟨c, rest, hcalls, rfl⟩
  · exact h.look hdisjoint hstep hleft hcalls hsys
  · exact h.recheck hdisjoint hstep hleft hcalls hk hsys
  · exact h.command hdisjoint hstep hleft hcalls hsys

/-- Whatever the order of the sections, clients stay apart and are answered as alone. -/
theorem Apart.run : ∀ (schedule : List ι) {s t : Clients ι} {alone : ι → Keyspace}
    {done : List (Ended ι)}, Apart keys s alone →
    (∀ {i j key}, keys i key → keys j key → i = j) →
    s.run? threshold schedule = some (done, t) →
    ∃ after, Apart keys t after ∧ Answered threshold s alone done t after
  | [], s, t, alone, done, h, _, hrun => by
    simp only [Clients.run?, Option.some.injEq, Prod.mk.injEq] at hrun
    obtain ⟨rfl, rfl⟩ := hrun
    exact ⟨alone, h, .refl⟩
  | client :: rest, s, t, alone, done, h, hdisjoint, hrun => by
    obtain ⟨ended, u, later, hstep, hrest, rfl⟩ := Clients.run?_cons hrun
    obtain ⟨between, hu, hended⟩ := h.step hdisjoint hstep
    obtain ⟨after, ht, hlater⟩ := run rest hu hdisjoint hrest
    exact ⟨after, ht, hended.trans hlater⟩

/-- A client that has calls left is not kept from making them. -/
theorem Apart.isSome_step? (h : Apart keys s alone) {i : ι} (hcalls : s.calls i ≠ []) :
    (s.step? threshold i).isSome := by
  have henabled : ∀ sec, s.next? i = some sec → s.system.step? threshold i sec ≠ none := by
    intro sec hnext hnone
    rw [System.step?_eq_none_iff] at hnone
    rcases Clients.next?_cases hnext with
      ⟨key, first, second, rest, -, ⟨hidle, rfl⟩ | ⟨⟨k, hk⟩, rfl⟩⟩ | ⟨c, rest, hcommand, rfl⟩
    · simp [hidle] at hnone
    · simp [hk] at hnone
    · cases hw : s.system.waiting i with
      | none => simp [hw] at hnone
      | some k =>
        obtain ⟨_, _, _, hget, -⟩ := h.waits i k hw
        rw [hcommand] at hget
        simp at hget
  unfold Clients.step?
  cases hnext : s.next? i with
  | none =>
    unfold Clients.next? at hnext
    split at hnext <;> simp_all
  | some sec =>
    cases hsys : s.system.step? threshold i sec with
    | none => exact absurd hsys (henabled sec hnext)
    | some p => simp [hsys]

theorem Keyspace.performAll_snd (threshold : Nat) : ∀ (calls : List Call) (ks : Keyspace),
    (ks.performAll threshold calls).2 = ks.run threshold calls
  | [], _ => rfl
  | _ :: calls, _ => performAll_snd threshold calls _

/-- What calls on keys have made of the empty keyspace is at their keys. -/
theorem Keyspace.exists_of_holds_run {calls : List Call} {key : String}
    (hkeyed : ∀ c ∈ calls, c.key?.isSome) (h : (empty.run threshold calls).Holds key) :
    ∃ c ∈ calls, c.key? = some key := by
  by_contra hnone
  push Not at hnone
  have hagree : AgreeAt key (empty.run threshold calls) empty := by
    refine agreeAt_run calls empty fun c hc => ?_
    obtain ⟨k, hk⟩ := Option.isSome_iff_exists.1 (hkeyed c hc)
    exact ⟨k, hk, fun heq => hnone c hc (heq ▸ hk)⟩
  rcases h with ⟨e, he⟩ | hk | ⟨t, ht⟩
  · rw [hagree.lookup_eq] at he
    simp at he
  · exact List.not_mem_nil (hagree.mem_index_iff.1 hk)
  · have hcount := List.count_pos_iff.2 ht
    rw [hagree.count_eq] at hcount
    exact absurd hcount (Nat.lt_irrefl 0)

theorem Engine.map_answer_trace : ∀ (calls : List Call) (e : Engine),
    (e.trace calls).map (·.answer) = (e.keyspace.performAll e.sampleThreshold calls).1
  | [], _ => rfl
  | c :: calls, e => by
    show (e.perform c).answer :: ((e.perform c).state.trace calls).map (·.answer) = _
    rw [map_answer_trace calls, perform_eq_absorb]
    rfl

/-- Clients whose calls are sets, gets and deletions of keys that no other client uses share an
engine and make the sections of their calls in any order. Each is answered as it would be alone on
an empty engine, and none is ever kept waiting. When all are done, the entries, the keys of the
index and the records of the agenda, each as often as it occurs, are those that the clients would
have alone, put together, where no key is held by two of them; so the order does not matter. -/
theorem disjoint_clients_do_not_interfere [Fintype ι] (settings : EngineSettings)
    {program : ι → List Call} (hkeyed : ∀ i, ∀ c ∈ program i, c.key?.isSome)
    (hdisjoint : ∀ i j, i ≠ j → ∀ c ∈ program i, ∀ d ∈ program j, c.key? ≠ d.key?) :
    let threshold := settings.sampleThreshold
    let alone i := ((Engine.start settings).run (program i)).keyspace
    let answers i := ((Engine.start settings).trace (program i)).map (·.answer)
    let taking (schedule : List ι) := (Clients.start program).run? threshold schedule
    (∀ schedule done now, taking schedule = some (done, now) → ∀ i,
      (done.filter (·.client = i)).map (·.answer) <+: answers i ∧
      (now.calls i ≠ [] → (now.step? threshold i).isSome)) ∧
    (∀ i j key, (alone i).Holds key → (alone j).Holds key → i = j) ∧
    ∀ schedule done final, taking schedule = some (done, final) → (∀ i, final.calls i = []) →
      (∀ i, (done.filter (·.client = i)).map (·.answer) = answers i) ∧
      (∀ key e, final.system.keyspace.lookup key = some e ↔
        ∃ i, (alone i).lookup key = some e) ∧
      (∀ key, key ∈ final.system.keyspace.index ↔ ∃ i, key ∈ (alone i).index) ∧
      (final.system.keyspace.agenda.records : Multiset DueRecord) =
        ∑ i, ((alone i).agenda.records : Multiset DueRecord) ∧
      ∀ schedule' done' final', taking schedule' = some (done', final') →
        (∀ i, final'.calls i = []) → final'.system = final.system := by
  intro threshold alone answers taking
  have hone : ∀ {i j : ι} {key : String}, (∃ c ∈ program i, c.key? = some key) →
      (∃ c ∈ program j, c.key? = some key) → i = j := by
    rintro i j key ⟨c, hc, hck⟩ ⟨d, hd, hdk⟩
    by_contra hij
    exact hdisjoint i j hij c hc d hd (hck.trans hdk.symm)
  have hanswers : ∀ i, answers i = (Keyspace.empty.performAll threshold (program i)).1 :=
    fun i => Engine.map_answer_trace ..
  have halone : ∀ i, alone i = (Keyspace.empty.performAll threshold (program i)).2 := by
    intro i
    rw [Keyspace.performAll_snd]
    exact Engine.keyspace_run ..
  have hdone : ∀ {schedule done final}, taking schedule = some (done, final) →
      (∀ i, final.calls i = []) →
      Apart (fun i key => ∃ c ∈ program i, c.key? = some key) final alone ∧
        ∀ i, (done.filter (·.client = i)).map (·.answer) = answers i := by
    intro schedule done final hrun hcalls
    obtain ⟨after, hapart, hanswered⟩ := (Apart.start hkeyed).run schedule hone hrun
    have hsolo : ∀ i, Keyspace.empty.performAll threshold (program i) =
        ((done.filter (·.client = i)).map (·.answer), after i) := by
      intro i
      rw [show Keyspace.empty.performAll threshold (program i) = _ from hanswered i, hcalls i]
      simp [Keyspace.performAll]
    have hafter : after = alone := by
      funext i
      rw [halone, hsolo]
    refine ⟨hafter ▸ hapart, fun i => ?_⟩
    rw [hanswers, hsolo]
  refine ⟨?_, ?_, ?_⟩
  · intro schedule done now hrun i
    obtain ⟨after, hapart, hanswered⟩ := (Apart.start hkeyed).run schedule hone hrun
    refine ⟨?_, hapart.isSome_step?⟩
    rw [hanswers, show Keyspace.empty.performAll threshold (program i) = _ from hanswered i]
    exact List.prefix_append ..
  · intro i j key hi hj
    have hused : ∀ i, (alone i).Holds key → ∃ c ∈ program i, c.key? = some key := by
      intro i hi
      rw [halone, Keyspace.performAll_snd] at hi
      exact Keyspace.exists_of_holds_run (hkeyed i) hi
    exact hone (hused i hi) (hused j hj)
  · intro schedule done final hrun hcalls
    obtain ⟨hapart, hall⟩ := hdone hrun hcalls
    refine ⟨hall, fun key e => hapart.lookup_eq_some_iff hone,
      fun key => hapart.mem_index_iff hone, hapart.records_eq_sum hone, ?_⟩
    intro schedule' done' final' hrun' hcalls'
    exact (hdone hrun' hcalls').1.system_eq hapart hcalls' hcalls

/-- Between the two looks of a get of one client, another deletes the key that it has set. -/
theorem disjoint_clients_do_not_interfere_two_looks :
    let program (client : Bool) : List Call :=
      if client then [.command (.set "b" "y" "1h" (.early 1)), .command (.del "b")]
      else [.command (.set "a" "x" "2ns" (.early 1)), .get "a" (.early 5) (.early 6)]
    ∃ done final, (Clients.start program).run? 10000 [true, false, false, true, false] =
        some (done, final) ∧
      (done.filter (·.client = false)).map (·.answer) =
        ((Engine.start .standard).trace (program false)).map (·.answer) ∧
      (∀ key, key ∉ final.system.keyspace.index) ∧
      (final.system.keyspace.agenda.records : Multiset DueRecord) = {⟨.early 3, "a"⟩} := by
  intro program
  have hkeyed : ∀ i, ∀ c ∈ program i, c.key?.isSome := by decide +kernel
  have hdisjoint : ∀ i j, i ≠ j → ∀ c ∈ program i, ∀ d ∈ program j, c.key? ≠ d.key? := by
    decide +kernel
  obtain ⟨-, -, hfinal⟩ := disjoint_clients_do_not_interfere .standard hkeyed hdisjoint
  have hdone : ((Clients.start program).run? 10000 [true, false, false, true, false]).any
      (fun p => (p.2.calls false).isEmpty && (p.2.calls true).isEmpty) = true := by
    decide +kernel
  have hsolo : ∀ client, ((Engine.start .standard).run (program client)).keyspace.index.keys = [] ∧
      ((Engine.start .standard).run (program client)).keyspace.agenda.records =
        if client then [] else [⟨.early 3, "a"⟩] := by
    decide +kernel
  obtain ⟨⟨done, final⟩, hrun, hcalls⟩ := (Option.any_eq_true ..).1 hdone
  simp only [Bool.and_eq_true, List.isEmpty_iff] at hcalls
  obtain ⟨hanswers, -, hindex, hrecords, -⟩ := hfinal _ done final hrun fun client => by
    cases client
    · exact hcalls.1
    · exact hcalls.2
  refine ⟨done, final, hrun, hanswers false, fun key hk => ?_, ?_⟩
  · obtain ⟨client, hk⟩ := (hindex key).1 hk
    have hmem : key ∈ ((Engine.start .standard).run (program client)).keyspace.index.keys := hk
    rw [(hsolo client).1] at hmem
    exact List.not_mem_nil hmem
  · rw [hrecords, Fintype.sum_bool, (hsolo true).2, (hsolo false).2]
    rfl

end ExpiringCache
