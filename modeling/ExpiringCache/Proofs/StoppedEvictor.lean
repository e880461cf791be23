import ExpiringCache.Proofs.Calls

/-!
# The evictor stops for good

Around an evictor anyone may use the keyspace, its timer ticks, and it is told to stop or loses
its handle. A keyspace with a bare evictor and an engine are two hosts of one; what happens to an
engine as a host is its own calls and ticks (`Engine.react_operation`, `Engine.react_tick`). Events
come one after another: a task that is told to stop, or whose handle is gone, has heard of it
before the next tick. Until the first stop the evictor is as it was started, so each tick is one
sweep (`Host.evictor_run`); the first stop, in whichever way, leaves it without a handle and out of
its loop, and nothing brings it back (`Host.stopped_run`). Then a tick or a further stop does
nothing at all, so a run is the same without its later ticks (`Host.run_filter`), and what is
stored under a key leaves it only by the calls that may take it out (`Host.lookup_run`).
-/

namespace ExpiringCache

namespace Evictor

/-- What happens around an evictor: an operation on the keyspace, a tick of the timer, or an end
put to the evictor in one of some ways. -/
inductive Event (α β : Type) where
  | operation (f : Keyspace → Guarded α Keyspace)
  | tick (now : Instant)
  | halt (way : β)

def Event.isTick {α β : Type} : Event α β → Bool
  | .tick _ => true
  | .operation _ | .halt _ => false

def Event.isHalt {α β : Type} : Event α β → Bool
  | .halt _ => true
  | .operation _ | .tick _ => false

/-- Out of its loop, and without a handle that could tell it anything. -/
structure Stopped (e : Evictor) : Prop where
  not_running : e.running = false
  not_held : e.signal.held = false

theorem stopped_shutdown_start (batch : Nat) : (start batch).shutdown.Stopped := ⟨rfl, rfl⟩

theorem stopped_drop_start (batch : Nat) : (start batch).drop.Stopped := ⟨rfl, rfl⟩

namespace Stopped

variable {e : Evictor} (h : e.Stopped)

include h

theorem shutdown_eq : e.shutdown = e := by
  unfold shutdown
  rw [h.not_held]
  rfl

theorem drop_eq : e.drop = e := by
  obtain ⟨batch, running, value, unseen, held⟩ := e
  obtain ⟨hrunning, hheld⟩ := h
  simp only at hrunning hheld
  subst hrunning hheld
  rfl

theorem tick_eq (ks : Keyspace) (now : Instant) : e.tick ks now = .pure () ks := by
  unfold tick
  rw [h.not_running]
  rfl

end Stopped

end Evictor

/-- Something with a keyspace and an evictor, which takes in what is done to the keyspace and may
be told to stop its evictor in some ways. -/
structure Host (α β σ : Type) where
  keyspace : σ → Keyspace
  evictor : σ → Evictor
  absorb : σ → Guarded (List α) Keyspace → Guarded (List α) σ
  halt : σ → β → σ
  keyspace_absorb : ∀ s g, keyspace (absorb s g).state = g.state
  evictor_absorb : ∀ s g, evictor (absorb s g).state = evictor s
  absorb_pure : ∀ s, absorb s (.pure [] (keyspace s)) = .pure [] s
  evictor_halt : ∀ s way, evictor (halt s way) = (evictor s).shutdown ∨
    evictor (halt s way) = (evictor s).drop
  halt_eq : ∀ s way, evictor (halt s way) = evictor s → halt s way = s

/-- A keyspace with a bare evictor. -/
structure Attended where
  keyspace : Keyspace
  evictor : Evictor

/-- What may become of the handle of a bare evictor. -/
inductive HandleEnd where
  | shutdown
  | drop

/-- A keyspace with a bare evictor, whose handle may be used to shut it down or dropped. -/
def Attended.host (α : Type) : Host α HandleEnd Attended where
  keyspace := keyspace
  evictor := evictor
  absorb s g := ⟨g.answer, { s with keyspace := g.state }, g.reports⟩
  halt
    | s, .shutdown => { s with evictor := s.evictor.shutdown }
    | s, .drop => { s with evictor := s.evictor.drop }
  keyspace_absorb _ _ := rfl
  evictor_absorb _ _ := rfl
  absorb_pure _ := rfl
  evictor_halt _ way := by
    cases way
    · exact .inl rfl
    · exact .inr rfl
  halt_eq s way h := by
    cases way
    · exact congrArg (Attended.mk s.keyspace) h
    · exact congrArg (Attended.mk s.keyspace) h

/-- An engine, which shuts its evictor down. -/
def Engine.host (α : Type) : Host α Unit Engine where
  keyspace := keyspace
  evictor := evictor
  absorb := absorb
  halt e _ := e.shutdown
  keyspace_absorb _ _ := rfl
  evictor_absorb _ _ := rfl
  absorb_pure e := by
    obtain ⟨ks, threshold, evictor, stats⟩ := e
    cases stats <;> rfl
  evictor_halt _ _ := .inl rfl
  halt_eq e _ h := congrArg (Engine.mk e.keyspace e.sampleThreshold · e.stats) h

namespace Host

variable {α β σ : Type}

/-- What an event does to a host, with the answer if it is an operation. -/
def react (H : Host α β σ) (s : σ) : Evictor.Event α β → Guarded (List α) σ
  | .operation f => H.absorb s ((f (H.keyspace s)).map ([·]))
  | .tick now => H.absorb s (((H.evictor s).tick (H.keyspace s) now).map fun _ => [])
  | .halt way => .pure [] (H.halt s way)

/-- Events one after another, with the answers and the reports of all. -/
def run (H : Host α β σ) (s : σ) : List (Evictor.Event α β) → Guarded (List α) σ
  | [] => .pure [] s
  | event :: rest =>
    (H.react s event).andThen fun answers t => (H.run t rest).map (answers ++ ·)

end Host

namespace Engine

/-- A call on an engine is an operation on its keyspace. -/
theorem react_operation (e : Engine) (c : Call) :
    (host Answer).react e (.operation fun ks => ks.perform e.sampleThreshold c) =
      (e.perform c).map ([·]) := by
  rw [perform_eq_absorb]
  rfl

theorem react_tick (α : Type) (e : Engine) (now : Instant) :
    (host α).react e (.tick now) = (e.ticks 1 now).map fun _ => [] := by
  have hticks : e.evictor.ticks e.keyspace now 1 = e.evictor.tick e.keyspace now := by
    simp [Evictor.ticks, Guarded.andThen, Guarded.pure]
  unfold ticks
  rw [hticks]
  rfl

end Engine

/-- Whether a call may take the entry of a key out: a get of the key, a deletion or an accepted
set of it, or a reset. -/
def Call.TakesOut (key : String) : Call → Prop
  | .get k _ _ => k = key
  | .command c => c.Overwrites key

/-- Whether an operation leaves a keyspace as a call does. -/
def ActsAs {α : Type} (threshold : Nat) (f : Keyspace → Guarded α Keyspace) (c : Call) : Prop :=
  ∀ ks, (f ks).state = (ks.perform threshold c).state

/-- Whether a call is a sweep. -/
def Call.isSweep : Call → Bool
  | .command (.sweep _ _) => true
  | _ => false

namespace Keyspace

/-- A sweep pops at most as many records as its limit, from the front of the agenda. -/
theorem records_evictExpired (now : Instant) : ∀ (limit : Nat) (ks : Keyspace),
    ∃ popped ≤ limit,
      (ks.evictExpired now limit).2.agenda.records = ks.agenda.records.drop popped
  | 0, ks => ⟨0, Nat.le_refl 0, rfl⟩
  | limit + 1, ks => by
    rw [evictExpired]
    split
    · exact ⟨0, Nat.zero_le _, rfl⟩
    · rename_i r agenda hpop
      obtain ⟨hrecords, -⟩ := Agenda.popDue_eq_some hpop
      rw [hrecords]
      split
      · obtain ⟨popped, hle, h⟩ :=
          records_evictExpired now limit (Keyspace.remove { ks with agenda } r.key)
        rw [agenda_remove] at h
        exact ⟨popped + 1, Nat.succ_le_succ hle, h⟩
      · obtain ⟨popped, hle, h⟩ := records_evictExpired now limit { ks with agenda }
        exact ⟨popped + 1, Nat.succ_le_succ hle, h⟩

theorem lookup_perform_of_not_takesOut (ks : Keyspace) (threshold : Nat) {c : Call} {key : String}
    (hsweep : c.isSweep = false) (h : ¬ c.TakesOut key) :
    (ks.perform threshold c).state.lookup key = ks.lookup key := by
  rcases c with ⟨k, first, second⟩ | c
  · show (ks.get k first second).state.lookup key = _
    rw [state_get]
    split
    · rcases lookup_recheck ks k key second with hk | ⟨-, hk, -⟩
      · exact hk
      · exact absurd hk h
    · rfl
  · have hover : ¬ c.Overwrites key := h
    cases c with
    | search pattern mode now =>
      show (ks.searchFor pattern mode now).state.lookup key = _
      rw [state_searchFor]
    | sweep now limit => simp [Call.isSweep] at hsweep
    | set _ _ _ _ | del _ | expireKey _ | reset =>
      rcases lookup_execute_of_not_overwrites ks threshold hover with hk | ⟨-, e, -, t, ht, -⟩
      · exact hk
      · simp [Command.lockedReadings] at ht

end Keyspace

namespace Host

variable {α β σ : Type} (H : Host α β σ)

theorem run_append : ∀ (before after : List (Evictor.Event α β)) (s : σ),
    H.run s (before ++ after) =
      (H.run s before).andThen fun answers t => (H.run t after).map (answers ++ ·)
  | [], _, _ => rfl
  | event :: before, after, s => by
    have ih := run_append before after (H.react s event).state
    simp only [List.cons_append, run, Guarded.andThen, Guarded.map] at ih ⊢
    rw [ih]
    simp

theorem state_run_append (before after : List (Evictor.Event α β)) (s : σ) :
    (H.run s (before ++ after)).state = (H.run (H.run s before).state after).state := by
  rw [run_append]
  rfl

theorem evictor_react {s : σ} {event : Evictor.Event α β} (h : event.isHalt = false) :
    H.evictor (H.react s event).state = H.evictor s := by
  cases event with
  | operation f => exact H.evictor_absorb s _
  | tick now => exact H.evictor_absorb s _
  | halt way => simp [Evictor.Event.isHalt] at h

/-- An evictor that is not stopped stays as it is. -/
theorem evictor_run : ∀ (events : List (Evictor.Event α β)) {s : σ},
    (∀ event ∈ events, event.isHalt = false) → H.evictor (H.run s events).state = H.evictor s
  | [], _, _ => rfl
  | event :: rest, s, h => by
    have hrest := evictor_run rest (s := (H.react s event).state)
      fun e he => h e (List.mem_cons_of_mem _ he)
    exact hrest.trans (H.evictor_react (h event List.mem_cons_self))

section Stopped

variable {s : σ}

theorem halt_of_stopped (h : (H.evictor s).Stopped) (way : β) : H.halt s way = s := by
  refine H.halt_eq s way ?_
  rcases H.evictor_halt s way with heq | heq
  · rw [heq, h.shutdown_eq]
  · rw [heq, h.drop_eq]

theorem react_tick_of_stopped (h : (H.evictor s).Stopped) (now : Instant) :
    H.react s (.tick now) = .pure [] s := by
  show H.absorb s (((H.evictor s).tick (H.keyspace s) now).map fun _ => []) = _
  rw [h.tick_eq]
  exact H.absorb_pure s

theorem react_halt_of_stopped (h : (H.evictor s).Stopped) (way : β) :
    H.react s (.halt way) = .pure [] s := by
  show Guarded.pure [] (H.halt s way) = _
  rw [H.halt_of_stopped h]

theorem stopped_react (h : (H.evictor s).Stopped) (event : Evictor.Event α β) :
    (H.evictor (H.react s event).state).Stopped := by
  cases event with
  | operation f =>
    rw [H.evictor_react rfl]
    exact h
  | tick now =>
    rw [H.react_tick_of_stopped h]
    exact h
  | halt way =>
    rw [H.react_halt_of_stopped h]
    exact h

/-- A stopped evictor stays stopped. -/
theorem stopped_run : ∀ (events : List (Evictor.Event α β)) {s : σ},
    (H.evictor s).Stopped → (H.evictor (H.run s events).state).Stopped
  | [], _, h => h
  | event :: rest, _, h => stopped_run rest (H.stopped_react h event)

/-- Once the evictor has stopped, ticks make no difference. -/
theorem run_filter : ∀ (events : List (Evictor.Event α β)) {s : σ}, (H.evictor s).Stopped →
    H.run s events = H.run s (events.filter (! ·.isTick))
  | [], _, _ => rfl
  | event :: rest, s, h => by
    have ih := run_filter rest (H.stopped_react h event)
    by_cases htick : event.isTick = true
    · -- a tick leaves `s`, so what holds of the rest after it holds of the rest from `s`
      obtain ⟨now, rfl⟩ : ∃ now, event = .tick now := by
        cases event <;> simp_all [Evictor.Event.isTick]
      rw [H.react_tick_of_stopped h] at ih
      have hskip : H.run s (.tick now :: rest) = H.run s rest := by
        rw [run, H.react_tick_of_stopped h]
        rfl
      rw [hskip]
      exact ih
    · rw [List.filter_cons_of_pos (by simpa using htick), run, run, Guarded.andThen,
        Guarded.andThen, ih]

/-- Once the evictor has stopped, an entry stays until a call takes it out. -/
theorem lookup_run (threshold : Nat) {key : String} : ∀ (events : List (Evictor.Event α β))
    {s : σ}, (H.evictor s).Stopped →
    (∀ f, .operation f ∈ events → ∃ c : Call, c.isSweep = false ∧ ¬ c.TakesOut key ∧
      ActsAs threshold f c) →
    (H.keyspace (H.run s events).state).lookup key = (H.keyspace s).lookup key
  | [], _, _, _ => rfl
  | event :: rest, s, h, hcalls => by
    have hrest := lookup_run threshold rest (H.stopped_react h event)
      fun f hf => hcalls f (List.mem_cons_of_mem _ hf)
    refine Eq.trans hrest ?_
    cases event with
    | operation f =>
      obtain ⟨c, hsweep, hkeeps, hstate⟩ := hcalls f List.mem_cons_self
      show (H.keyspace (H.absorb s _).state).lookup key = _
      rw [H.keyspace_absorb]
      show (f (H.keyspace s)).state.lookup key = _
      rw [hstate, Keyspace.lookup_perform_of_not_takesOut _ threshold hsweep hkeeps]
    | tick now =>
      rw [H.react_tick_of_stopped h]
      rfl
    | halt way =>
      rw [H.react_halt_of_stopped h]
      rfl

end Stopped

section Run

variable {s : σ} {batch : Nat}

/-- Either way of putting an end to an evictor stops it for good. -/
theorem stopped_halt (h : H.evictor s = .start batch ∨ (H.evictor s).Stopped) (way : β) :
    (H.evictor (H.halt s way)).Stopped := by
  rcases h with hstart | hstopped
  · rcases H.evictor_halt s way with heq | heq
    · rw [heq, hstart]
      exact Evictor.stopped_shutdown_start batch
    · rw [heq, hstart]
      exact Evictor.stopped_drop_start batch
  · rw [H.halt_of_stopped hstopped]
    exact hstopped

/-- Whatever happens, an evictor is as it was started or stopped. -/
theorem evictor_run_cases : ∀ (events : List (Evictor.Event α β)) {s : σ},
    H.evictor s = .start batch ∨ (H.evictor s).Stopped →
    H.evictor (H.run s events).state = .start batch ∨ (H.evictor (H.run s events).state).Stopped
  | [], _, h => h
  | event :: rest, s, h => by
    refine evictor_run_cases rest ?_
    rcases h with hstart | hstopped
    · cases event with
      | operation f => exact .inl ((H.evictor_react rfl).trans hstart)
      | tick now => exact .inl ((H.evictor_react rfl).trans hstart)
      | halt way => exact .inr (H.stopped_halt (.inl hstart) way)
    · exact .inr (H.stopped_react hstopped event)

theorem stopped_of_halt (h : H.evictor s = .start batch) (before : List (Evictor.Event α β))
    (way : β) : (H.evictor (H.halt (H.run s before).state way)).Stopped :=
  H.stopped_halt (H.evictor_run_cases before (.inl h)) way

end Run

/-- What a started evictor does at a host. -/
structure SweepsUntilStopped (s : σ) (batch : Nat) : Prop where
  /-- Until an end is put to the evictor, a tick is one sweep. -/
  tick_eq : ∀ before now, (∀ event ∈ before, event.isHalt = false) →
    let t := (H.run s before).state
    H.react t (.tick now) = H.absorb t (((H.keyspace t).sweep now batch).map fun _ => [])
  /-- From then on ticks and further ends do nothing. -/
  silent : ∀ before way after,
    let t := (H.run s (before ++ .halt way :: after)).state
    (∀ now, H.react t (.tick now) = .pure [] t) ∧ ∀ again, H.react t (.halt again) = .pure [] t
  /-- The later ticks make no difference to the answers, the state and the reports. -/
  run_filter : ∀ before way after, H.run s (before ++ .halt way :: after) =
    H.run s (before ++ .halt way :: after.filter (! ·.isTick))
  /-- If what is done later are calls other than sweeps, an entry leaves the store only by a call
  that takes it out. -/
  taken_out : ∀ threshold before way after key e,
    (∀ f, .operation f ∈ after → ∃ c : Call, c.isSweep = false ∧ ActsAs threshold f c) →
    (H.keyspace (H.run s (before ++ [.halt way])).state).lookup key = some e →
    (H.keyspace (H.run s (before ++ .halt way :: after)).state).lookup key ≠ some e →
    ∃ f, ∃ c : Call, .operation f ∈ after ∧ ActsAs threshold f c ∧ c.TakesOut key

theorem sweepsUntilStopped {s : σ} {batch : Nat} (h : H.evictor s = .start batch) :
    H.SweepsUntilStopped s batch where
  tick_eq before now hbefore := by
    intro t
    have hevictor : H.evictor t = .start batch := (H.evictor_run before hbefore).trans h
    show H.absorb t (((H.evictor t).tick (H.keyspace t) now).map fun _ => []) = _
    rw [hevictor]
    rfl
  silent before way after := by
    intro t
    have hstopped : (H.evictor t).Stopped := by
      show (H.evictor (H.run s (before ++ .halt way :: after)).state).Stopped
      rw [state_run_append]
      exact H.stopped_run after (H.stopped_of_halt h before way)
    exact ⟨H.react_tick_of_stopped hstopped, H.react_halt_of_stopped hstopped⟩
  run_filter before way after := by
    have hafter := H.run_filter after (H.stopped_of_halt h before way)
    rw [run_append, run_append, Guarded.andThen, Guarded.andThen, run, run, react,
      Guarded.andThen, Guarded.andThen, Guarded.pure, hafter]
  taken_out threshold before way after key e hcalls hbefore hafter := by
    refine Classical.byContradiction fun hnone => ?_
    rw [state_run_append] at hbefore hafter
    have hstopped := H.stopped_of_halt h before way
    refine hafter (Eq.trans (H.lookup_run threshold after hstopped ?_) hbefore)
    intro f hf
    obtain ⟨c, hsweep, hacts⟩ := hcalls f hf
    exact ⟨c, hsweep, fun htakes => hnone ⟨f, c, hf, hacts, htakes⟩, hacts⟩

end Host

/-- A sweep takes the exclusive lock once and pops at most `batch` records. A keyspace with a bare
evictor, and an engine, sweep once at each tick until the evictor is shut down or its handle is
dropped, and never again. What happens to an engine as a host is its own calls, the ticks of its
timer and its shutdown. -/
theorem evictor_sweeps_until_stopped (batch : Nat) :
    (∀ (ks : Keyspace) (now : Instant),
      (ks.sweep now batch).reports =
          [.lockWait .write 0, .elapsed .evict 0, .outcome .evict true] ∧
        ∃ popped ≤ batch,
          (ks.sweep now batch).state.agenda.records = ks.agenda.records.drop popped) ∧
    (∀ (α : Type) (ks : Keyspace),
      (Attended.host α).SweepsUntilStopped ⟨ks, .start batch⟩ batch) ∧
    (∀ (α : Type) (ks : Keyspace) (threshold : Nat) (stats : Option Stats),
      (Engine.host α).SweepsUntilStopped ⟨ks, threshold, .start batch, stats⟩ batch) ∧
    ∀ e : Engine,
      (∀ c, (Engine.host Answer).react e (.operation (·.perform e.sampleThreshold c)) =
        (e.perform c).map ([·])) ∧
      (∀ now, (Engine.host Answer).react e (.tick now) = (e.ticks 1 now).map fun _ => []) ∧
      ∀ way, (Engine.host Answer).react e (.halt way) = .pure [] e.shutdown := by
  refine ⟨fun ks now => ⟨rfl, ?_⟩, ?_, ?_,
    fun e => ⟨e.react_operation, e.react_tick Answer, fun _ => rfl⟩⟩
  · exact Keyspace.records_evictExpired now batch ks
  · intro α ks
    exact (Attended.host α).sweepsUntilStopped rfl
  · intro α ks threshold stats
    exact (Engine.host α).sweepsUntilStopped rfl

/-- A tick with room for one of two expired entries, and one after the handle was dropped. -/
theorem evictor_sweeps_until_stopped_dropped :
    let ks := (Keyspace.empty.insert "a" "x" (some (.early 1))).insert "b" "y" (some (.early 2))
    let s : Attended := ⟨ks, .start 1⟩
    let t := ((Attended.host Unit).run s [.tick (.early 5), .halt .drop]).state
    t.keyspace.lookup "a" = none ∧ t.keyspace.lookup "b" = some ⟨"y", some (.early 2)⟩ ∧
      ∀ now, (Attended.host Unit).react t (.tick now) = .pure [] t := by
  intro ks s t
  have hbare := (evictor_sweeps_until_stopped 1).2.1 Unit ks
  refine ⟨?_, ?_, (hbare.silent [.tick (.early 5)] .drop []).1⟩
  · decide +kernel
  · decide +kernel

end ExpiringCache
