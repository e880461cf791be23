import ExpiringCache.Proofs.OneSweep
import Mathlib.Data.Multiset.Filter

/-!
# The order in which records come due

An agenda holds the records that were pushed and not yet taken out, equal ones as often as they
were pushed. `Allows` says what an action on such a collection may answer and leave, without any
order among its records but that of instants and of the bytes of keys: a pop takes out one copy of
a first record if it is due, and a key's removal takes out all of its records and no other.
Whatever is done to an agenda is allowed (`allows_perform`), so a run of actions is
(`runs_run`), and pops at one instant give the due records one after another
(`run_replicate_popDue`).
-/

namespace ExpiringCache

/-- The earlier instant comes first, and of one instant the key with the smaller bytes. -/
def DueRecord.InOrder (r s : DueRecord) : Prop :=
  r.expiresAt < s.expiresAt ∨
    r.expiresAt = s.expiresAt ∧ r.key.toUTF8.data.toList ≤ s.key.toUTF8.data.toList

/-- One of some records, and none of them comes before it. -/
def DueRecord.IsFirst (r : DueRecord) (records : Multiset DueRecord) : Prop :=
  r ∈ records ∧ ∀ s ∈ records, r.InOrder s

namespace Agenda

inductive Action where
  | push (r : DueRecord)
  | popDue (now : Instant)
  | removeKey (key : String)
  | clear
  deriving DecidableEq

inductive Outcome where
  | done
  | popped (r : Option DueRecord)
  | removed (count : Nat)
  deriving DecidableEq

/-- An action on an agenda. -/
def perform (a : Agenda) : Action → Outcome × Agenda
  | .push r => (.done, a.push r)
  | .popDue now =>
    match a.popDue now with
    | none => (.popped none, a)
    | some (r, rest) => (.popped (some r), rest)
  | .removeKey key => (.removed (a.countKey key), a.removeKey key)
  | .clear => (.done, empty)

/-- Actions on an agenda, one after another, with all their outcomes. -/
def run (a : Agenda) : List Action → List Outcome × Agenda
  | [] => ([], a)
  | action :: actions =>
    let (outcome, next) := a.perform action
    let (outcomes, last) := next.run actions
    (outcome :: outcomes, last)

/-- The records without their places, equal ones counted each. -/
def contents (a : Agenda) : Multiset DueRecord := a.records

/-- What an action on some records may answer, and which records it may leave. -/
inductive Allows : Multiset DueRecord → Action → Outcome → Multiset DueRecord → Prop
  | push {m} (r : DueRecord) : Allows m (.push r) .done (r ::ₘ m)
  | pop {m r now} (hfirst : r.IsFirst m) (hdue : r.expiresAt ≤ now) :
    Allows m (.popDue now) (.popped (some r)) (m.erase r)
  | wait {m now} (hdue : ∀ r ∈ m, now < r.expiresAt) :
    Allows m (.popDue now) (.popped none) m
  | removeKey {m} (key : String) :
    Allows m (.removeKey key) (.removed (m.countP (·.key = key))) (m.filter (·.key ≠ key))
  | clear {m} : Allows m .clear .done 0

/-- Actions with their outcomes, each allowed where the one before it led. -/
inductive Runs : Multiset DueRecord → List Action → List Outcome → Multiset DueRecord → Prop
  | nil {m} : Runs m [] [] m
  | cons {m m' m'' action outcome actions outcomes} (hfirst : Allows m action outcome m')
    (hrest : Runs m' actions outcomes m'') :
    Runs m (action :: actions) (outcome :: outcomes) m''

variable {a b : Agenda} {r : DueRecord} {now : Instant}

theorem mem_contents : r ∈ a.contents ↔ r ∈ a.records := Iff.rfl

theorem contents_push (a : Agenda) (r : DueRecord) : (a.push r).contents = r ::ₘ a.contents := by
  refine Multiset.ext.2 fun s => ?_
  rw [Multiset.count_cons, contents, contents, Multiset.coe_count, Multiset.coe_count, count_push]
  simp only [eq_comm]

theorem contents_of_popDue (h : a.popDue now = some (r, b)) : a.contents = r ::ₘ b.contents := by
  show (a.records : Multiset DueRecord) = _
  rw [(popDue_eq_some h).1]
  rfl

theorem isFirst_of_popDue (h : a.popDue now = some (r, b)) : r.IsFirst a.contents := by
  have hsorted := a.sorted
  rw [(popDue_eq_some h).1, List.pairwise_cons] at hsorted
  rw [contents_of_popDue h]
  refine ⟨Multiset.mem_cons_self r _, fun s hs => DueRecord.le_iff_toUTF8_le.1 ?_⟩
  rcases Multiset.mem_cons.1 hs with rfl | hs
  · exact (DueRecord.le_total s s).elim id id
  · exact hsorted.1 s hs

theorem allows_perform (a : Agenda) (action : Action) :
    Allows a.contents action (a.perform action).1 (a.perform action).2.contents := by
  rcases action with r | now | key | _
  · rw [show (a.perform (.push r)).2.contents = r ::ₘ a.contents from contents_push a r]
    exact .push r
  · rcases h : a.popDue now with _ | ⟨r, b⟩
    · simp only [perform, h]
      exact .wait (lt_of_popDue_eq_none h)
    · simp only [perform, h]
      have hb : b.contents = a.contents.erase r := by
        rw [contents_of_popDue h, Multiset.erase_cons_head]
      rw [hb]
      exact .pop (isFirst_of_popDue h) (popDue_eq_some h).2
  · exact .removeKey key
  · exact .clear

theorem runs_run : ∀ (actions : List Action) (a : Agenda),
    Runs a.contents actions (a.run actions).1 (a.run actions).2.contents
  | [], _ => .nil
  | action :: actions, a => .cons (allows_perform a action) (runs_run actions _)

/-- The first record of an agenda is the one that nothing comes before. -/
theorem peek_eq_some_iff : a.peek = some r ↔ r.IsFirst a.contents := by
  rcases hrecords : a.records with _ | ⟨s, rest⟩
  · have hempty : a.contents = 0 := by rw [contents, hrecords]; rfl
    simp [peek, hrecords, DueRecord.IsFirst, hempty]
  have hsorted := a.sorted
  rw [hrecords, List.pairwise_cons] at hsorted
  have hle : ∀ t ∈ a.records, s ≤ t := by
    intro t ht
    rw [hrecords] at ht
    rcases List.mem_cons.1 ht with rfl | ht
    · exact (DueRecord.le_total t t).elim id id
    · exact hsorted.1 t ht
  simp only [peek, hrecords, List.head?_cons, Option.some.injEq]
  constructor
  · rintro rfl
    refine ⟨mem_contents.2 (by simp [hrecords]), fun t ht => ?_⟩
    exact DueRecord.le_iff_toUTF8_le.1 (hle t ht)
  · rintro ⟨hr, hfirst⟩
    have hrs := DueRecord.le_iff_toUTF8_le.2 (hfirst s (mem_contents.2 (by simp [hrecords])))
    exact DueRecord.le_antisymm (hle r hr) hrs

theorem peek_eq_none_iff : a.peek = none ↔ a.contents = 0 := by
  rw [contents, Multiset.coe_eq_zero, peek, List.head?_eq_none_iff]

theorem inOrder_due (a : Agenda) (now : Instant) : (a.due now).Pairwise DueRecord.InOrder :=
  (a.sorted.filter _).imp fun h => DueRecord.le_iff_toUTF8_le.1 h

/-- Pops at one instant give the due records in order, and nothing from then on. -/
theorem run_replicate_popDue (now : Instant) : ∀ (count : Nat) (a : Agenda),
    (a.run (List.replicate count (.popDue now))).1 =
      ((a.due now).take count).map (fun r => .popped (some r)) ++
        List.replicate (count - (a.due now).length) (.popped none) ∧
    a.contents = ((a.due now).take count : List DueRecord) +
      (a.run (List.replicate count (.popDue now))).2.contents
  | 0, a => by simp [run]
  | count + 1, a => by
    rw [List.replicate_succ]
    rcases h : a.popDue now with _ | ⟨r, b⟩
    · obtain ⟨houtcomes, hcontents⟩ := run_replicate_popDue now count a
      rw [due_of_popDue_eq_none h] at houtcomes hcontents ⊢
      simp only [run, perform, h]
      refine ⟨?_, by simpa using hcontents⟩
      rw [houtcomes]
      simp [List.replicate_succ]
    · obtain ⟨houtcomes, hcontents⟩ := run_replicate_popDue now count b
      rw [due_of_popDue_eq_some h]
      simp only [run, perform, h, List.take_succ_cons, List.map_cons, List.length_cons,
        Nat.add_sub_add_right]
      refine ⟨by rw [houtcomes, List.cons_append], ?_⟩
      rw [contents_of_popDue h, hcontents, ← Multiset.cons_coe, Multiset.cons_add]

end Agenda

/-- After any actions an agenda holds the records that were pushed and not yet popped, removed or
cleared, each as often as it was pushed; every pop took out one copy of a first record if it was
due, and every removal the records of its key. A first record is the one in front. Pops at one
instant give all the due records, in order and each once for every copy, and leave the others. -/
theorem records_come_due_in_order (actions : List Agenda.Action) :
    let a := (Agenda.empty.run actions).2
    Agenda.Runs 0 actions (Agenda.empty.run actions).1 a.contents ∧
    (∀ r, a.peek = some r ↔ r.IsFirst a.contents) ∧
    (a.peek = none ↔ a.contents = 0) ∧
    ∀ now, ∃ due : List DueRecord,
      (due : Multiset DueRecord) = a.contents.filter (·.expiresAt ≤ now) ∧
      due.Pairwise DueRecord.InOrder ∧
      ∀ count,
        (a.run (List.replicate count (.popDue now))).1 =
          (due.take count).map (fun r => .popped (some r)) ++
            List.replicate (count - due.length) (.popped none) ∧
        a.contents = (due.take count : List DueRecord) +
          (a.run (List.replicate count (.popDue now))).2.contents :=
  ⟨Agenda.runs_run actions .empty, fun _ => Agenda.peek_eq_some_iff, Agenda.peek_eq_none_iff,
    fun now => ⟨_, rfl, Agenda.inOrder_due _ now, fun count =>
      Agenda.run_replicate_popDue now count _⟩⟩

end ExpiringCache
