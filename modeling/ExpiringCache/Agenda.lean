import ExpiringCache.Instant

/-!
# The agenda of expirations

What is due to expire and when, as records of an instant and a key. The records stand in order
of instant and then of key, and equal records are kept as often as they were pushed, so that two
agendas with the same records are equal.
-/

namespace ExpiringCache

/-- That a key was given an expiration. -/
structure DueRecord where
  expiresAt : Instant
  key : String
  deriving DecidableEq

namespace DueRecord

/-- Earlier instants come first, and of one instant the smaller keys. -/
instance : LE DueRecord :=
  ⟨fun a b => a.expiresAt < b.expiresAt ∨ a.expiresAt = b.expiresAt ∧ a.key ≤ b.key⟩

instance (a b : DueRecord) : Decidable (a ≤ b) :=
  inferInstanceAs
    (Decidable (a.expiresAt < b.expiresAt ∨ a.expiresAt = b.expiresAt ∧ a.key ≤ b.key))

theorem le_iff {a b : DueRecord} :
    a ≤ b ↔ a.expiresAt < b.expiresAt ∨ a.expiresAt = b.expiresAt ∧ a.key ≤ b.key := Iff.rfl

protected theorem le_total (a b : DueRecord) : a ≤ b ∨ b ≤ a := by
  simp only [le_iff, Instant.lt_iff, Instant.ext_iff]
  rcases Int.lt_trichotomy a.expiresAt.nanos b.expiresAt.nanos with h | h | h
  · exact .inl (.inl h)
  · exact (String.le_total a.key b.key).imp (fun hk => .inr ⟨h, hk⟩) fun hk => .inr ⟨h.symm, hk⟩
  · exact .inr (.inl h)

protected theorem le_trans {a b c : DueRecord} (hab : a ≤ b) (hbc : b ≤ c) : a ≤ c := by
  simp only [le_iff, Instant.lt_iff, Instant.ext_iff] at *
  rcases hab with h | ⟨h, hk⟩ <;> rcases hbc with h' | ⟨h', hk'⟩
  · exact .inl (by omega)
  · exact .inl (by omega)
  · exact .inl (by omega)
  · exact .inr ⟨by omega, String.le_trans hk hk'⟩

protected theorem le_antisymm {a b : DueRecord} (hab : a ≤ b) (hba : b ≤ a) : a = b := by
  simp only [le_iff, Instant.lt_iff, Instant.ext_iff] at hab hba
  have ht : a.expiresAt.nanos = b.expiresAt.nanos := by omega
  have hk : a.key = b.key := by
    rcases hab with h | ⟨-, h⟩
    · omega
    rcases hba with h' | ⟨-, h'⟩
    · omega
    exact String.le_antisymm h h'
  cases a; cases b
  simp only [mk.injEq]
  exact ⟨Instant.ext ht, hk⟩

end DueRecord

/-- The records of what is to expire, earliest first. -/
structure Agenda where
  records : List DueRecord
  sorted : records.Pairwise (· ≤ ·)

namespace Agenda

@[ext]
protected theorem ext {a b : Agenda} (h : a.records = b.records) : a = b := by
  cases a; cases b; cases h; rfl

instance : DecidableEq Agenda := fun a b =>
  if h : a.records = b.records then isTrue (Agenda.ext h) else isFalse fun e => h (e ▸ rfl)

/-- The agenda without records. -/
def empty : Agenda := ⟨[], .nil⟩

/-- How many records there are, equal ones counted each. -/
def size (a : Agenda) : Nat := a.records.length

/-- Whether there are no records. -/
def isEmpty (a : Agenda) : Bool := a.records.isEmpty

/-- A record put in front of the first one that is not below it. -/
def insertRecord (r : DueRecord) : List DueRecord → List DueRecord
  | [] => [r]
  | s :: rest => if r ≤ s then r :: s :: rest else s :: insertRecord r rest

theorem mem_insertRecord {r s : DueRecord} {l : List DueRecord} :
    s ∈ insertRecord r l ↔ s = r ∨ s ∈ l := by
  induction l with
  | nil => simp [insertRecord]
  | cons t l ih =>
    unfold insertRecord
    split
    · simp
    · simp only [List.mem_cons, ih]
      constructor
      · rintro (h | h | h) <;> simp [h]
      · rintro (h | h | h) <;> simp [h]

theorem sorted_insertRecord (r : DueRecord) {l : List DueRecord} (h : l.Pairwise (· ≤ ·)) :
    (insertRecord r l).Pairwise (· ≤ ·) := by
  induction l with
  | nil => simp [insertRecord]
  | cons s l ih =>
    obtain ⟨hs, hl⟩ := List.pairwise_cons.1 h
    unfold insertRecord
    split
    · rename_i hrs
      refine List.pairwise_cons.2 ⟨fun t ht => ?_, h⟩
      rcases List.mem_cons.1 ht with rfl | ht
      · exact hrs
      · exact DueRecord.le_trans hrs (hs t ht)
    · rename_i hrs
      refine List.pairwise_cons.2 ⟨fun t ht => ?_, ih hl⟩
      rcases mem_insertRecord.1 ht with rfl | ht
      · exact (DueRecord.le_total t s).resolve_left hrs
      · exact hs t ht

/-- The agenda with one record more. -/
def push (a : Agenda) (r : DueRecord) : Agenda :=
  ⟨insertRecord r a.records, sorted_insertRecord r a.sorted⟩

/-- The earliest record. -/
def peek (a : Agenda) : Option DueRecord := a.records.head?

/-- The agenda without its earliest record. -/
def tail (a : Agenda) : Agenda := ⟨a.records.tail, a.sorted.sublist (List.tail_sublist _)⟩

/-- Takes out the earliest record if it is due. -/
def popDue (a : Agenda) (now : Instant) : Option (DueRecord × Agenda) :=
  match a.peek with
  | none => none
  | some r => if r.expiresAt ≤ now then some (r, a.tail) else none

/-- The agenda without the records of a key. -/
def removeKey (a : Agenda) (key : String) : Agenda :=
  ⟨a.records.filter (·.key ≠ key), a.sorted.sublist List.filter_sublist⟩

/-- How many records a key has. -/
def countKey (a : Agenda) (key : String) : Nat := a.records.countP (·.key = key)

end Agenda

end ExpiringCache
