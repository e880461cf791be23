import ExpiringCache.Proofs.Calls

/-!
# Sections under the lock

What clients of one keyspace do under its lock, in any order. A get is a first look and, if that
met an expired entry, a second one; between the two the client waits and other clients may do
anything. What is stored under a key changes only as calls change it: an entry stays while its
key is not written and it is live (`lookup_run?_eq_some`), and a key that is not stored stays
away until it is set (`lookup_run?_eq_none`).
-/

namespace ExpiringCache

/-- What a client does under the lock at once: the first look of a get, the second, or a
command. -/
inductive Section where
  | look (key : String) (now : Instant)
  | recheck (now : Instant)
  | command (c : Command)

/-- The instants at which a section reads the clock. -/
def Section.readings : Section → List Instant
  | .look _ now => [now]
  | .recheck now => [now]
  | .command c => c.lockedReadings

/-- A keyspace shared by clients. A client whose first look met an expired entry waits to look
for its key again. -/
structure System (ι : Type) where
  keyspace : Keyspace
  waiting : ι → Option String

/-- A call that has ended. A get is given the instant of its last section for both looks. -/
structure Ended (ι : Type) where
  client : ι
  call : Call
  answer : Answer

namespace System

variable {ι : Type} [DecidableEq ι]

/-- The system in which a client waits to look for a key again, or no longer waits. -/
def wait (s : System ι) (client : ι) (key : Option String) : System ι :=
  { s with waiting := fun i => if i = client then key else s.waiting i }

/-- A section of a client, with the call that it ends, if any. A client that waits makes its
second look next, and no other client makes one. -/
def step? (threshold : Nat) (s : System ι) (client : ι) :
    Section → Option (List (Ended ι) × System ι)
  | .look key now =>
    match s.waiting client, s.keyspace.glance key now with
    | some _, _ => none
    | none, .absent => some ([⟨client, .get key now now, .value none⟩], s)
    | none, .live v => some ([⟨client, .get key now now, .value (some v)⟩], s)
    | none, .expired => some ([], s.wait client (some key))
  | .recheck now =>
    match s.waiting client with
    | none => none
    | some key =>
      let (found, keyspace) := s.keyspace.recheck key now
      some ([⟨client, .get key now now, .value found⟩], { s with keyspace }.wait client none)
  | .command c =>
    match s.waiting client with
    | some _ => none
    | none =>
      let g := s.keyspace.execute threshold c
      some ([⟨client, .command c, g.answer⟩], { s with keyspace := g.state })

/-- Sections of clients in some order, with the calls that they end. -/
def run? (threshold : Nat) (s : System ι) :
    List (ι × Section) → Option (List (Ended ι) × System ι)
  | [] => some ([], s)
  | (client, sec) :: rest =>
    match s.step? threshold client sec with
    | none => none
    | some (now, t) =>
      match t.run? threshold rest with
      | none => none
      | some (later, u) => some (now ++ later, u)

end System

/-- Whether a section gives a key a new entry, or none. -/
def Section.Overwrites (key : String) : Section → Prop
  | .look _ _ | .recheck _ => False
  | .command c => c.Overwrites key

namespace Keyspace

variable {ks : Keyspace} {key : String} {now : Instant}

theorem recheck_of_glance_absent (h : ks.glance key now = .absent) :
    ks.recheck key now = (none, ks) := by
  unfold glance at h
  unfold recheck
  cases he : ks.lookup key with
  | none => rfl
  | some e =>
    rw [he] at h
    simp only at h
    split at h <;> cases h

theorem recheck_of_glance_live {value : String} (h : ks.glance key now = .live value) :
    ks.recheck key now = (some value, ks) := by
  unfold glance at h
  unfold recheck
  cases he : ks.lookup key with
  | none =>
    rw [he] at h
    cases h
  | some e =>
    rw [he] at h
    simp only at h ⊢
    split at h
    · cases h
    · rename_i hexp
      cases h
      rw [if_neg hexp]

end Keyspace

namespace System

variable {ι : Type} [DecidableEq ι] {threshold : Nat}

/-- A first look that meets an expired entry makes its client wait; any other does what a second
look would. -/
theorem step?_look {s t : System ι} {client : ι} {key : String} {now : Instant}
    {done : List (Ended ι)} (h : s.step? threshold client (.look key now) = some (done, t)) :
    s.waiting client = none ∧
      (done = [] ∧ t = s.wait client (some key) ∨
        done = [⟨client, .get key now now, .value (s.keyspace.recheck key now).1⟩] ∧ t = s ∧
          (s.keyspace.recheck key now).2 = s.keyspace) := by
  simp only [step?] at h
  split at h
  · simp at h
  · rename_i hidle hglance
    simp only [Option.some.injEq, Prod.mk.injEq] at h
    obtain ⟨rfl, rfl⟩ := h
    rw [Keyspace.recheck_of_glance_absent hglance]
    exact ⟨hidle, .inr ⟨rfl, rfl, rfl⟩⟩
  · rename_i hidle hglance
    simp only [Option.some.injEq, Prod.mk.injEq] at h
    obtain ⟨rfl, rfl⟩ := h
    rw [Keyspace.recheck_of_glance_live hglance]
    exact ⟨hidle, .inr ⟨rfl, rfl, rfl⟩⟩
  · rename_i hidle _
    simp only [Option.some.injEq, Prod.mk.injEq] at h
    obtain ⟨rfl, rfl⟩ := h
    exact ⟨hidle, .inl ⟨rfl, rfl⟩⟩

theorem step?_recheck {s t : System ι} {client : ι} {now : Instant} {done : List (Ended ι)}
    (h : s.step? threshold client (.recheck now) = some (done, t)) :
    ∃ key, s.waiting client = some key ∧
      done = [⟨client, .get key now now, .value (s.keyspace.recheck key now).1⟩] ∧
      t = { s with keyspace := (s.keyspace.recheck key now).2 }.wait client none := by
  simp only [step?] at h
  split at h
  · simp at h
  · rename_i key hwaits
    simp only [Option.some.injEq, Prod.mk.injEq] at h
    obtain ⟨rfl, rfl⟩ := h
    exact ⟨key, hwaits, rfl, rfl⟩

theorem step?_command {s t : System ι} {client : ι} {c : Command} {done : List (Ended ι)}
    (h : s.step? threshold client (.command c) = some (done, t)) :
    s.waiting client = none ∧
      done = [⟨client, .command c, (s.keyspace.execute threshold c).answer⟩] ∧
      t = { s with keyspace := (s.keyspace.execute threshold c).state } := by
  simp only [step?] at h
  split at h
  · simp at h
  · rename_i hidle
    simp only [Option.some.injEq, Prod.mk.injEq] at h
    obtain ⟨rfl, rfl⟩ := h
    exact ⟨hidle, rfl, rfl⟩

/-- A client that waits can look again and do nothing else; any other can do all but that. -/
theorem step?_eq_none_iff {s : System ι} {client : ι} {sec : Section} :
    s.step? threshold client sec = none ↔
      (s.waiting client = none ↔ ∃ now, sec = .recheck now) := by
  cases sec with
  | look key now =>
    simp only [step?]
    cases s.waiting client <;> cases s.keyspace.glance key now <;> simp
  | recheck now =>
    simp only [step?]
    cases s.waiting client <;> simp
  | command c =>
    simp only [step?]
    cases s.waiting client <;> simp

theorem run?_cons {s u : System ι} {client : ι} {sec : Section} {rest : List (ι × Section)}
    {done : List (Ended ι)} (h : s.run? threshold ((client, sec) :: rest) = some (done, u)) :
    ∃ now t later, s.step? threshold client sec = some (now, t) ∧
      t.run? threshold rest = some (later, u) ∧ done = now ++ later := by
  simp only [run?] at h
  split at h
  · simp at h
  · rename_i now t hstep
    split at h
    · simp at h
    · rename_i later u' hrun
      simp only [Option.some.injEq, Prod.mk.injEq] at h
      obtain ⟨rfl, rfl⟩ := h
      exact ⟨now, t, later, hstep, hrun, rfl⟩

theorem waiting_of_step? {s t : System ι} {client i : ι} {sec : Section}
    {done : List (Ended ι)} (h : s.step? threshold client sec = some (done, t))
    (hi : client ≠ i) : t.waiting i = s.waiting i := by
  cases sec with
  | look key now =>
    obtain ⟨-, ⟨-, rfl⟩ | ⟨-, rfl, -⟩⟩ := step?_look h
    · exact if_neg (Ne.symm hi)
    · rfl
  | recheck now =>
    obtain ⟨key, -, -, rfl⟩ := step?_recheck h
    exact if_neg (Ne.symm hi)
  | command c =>
    obtain ⟨-, -, rfl⟩ := step?_command h
    rfl

end System

end ExpiringCache
