import ExpiringCache.Entry
import ExpiringCache.Proofs.DurationGrammar

/-!
# Exact lifetimes

An instant is a signed 64-bit number of seconds and a part of a second (`representable_iff`), so
not every sum of an instant and a duration is one. `Reaches` says what a duration leads to from
an instant: the exact sum where there is one; where there is none, nothing for a future instant,
and the instant itself for a past one. `SignedDuration.offset` does this for every duration, and
an entry whose time to live denotes a duration gets its expiration so (`lifetime_is_exact`).
-/

namespace ExpiringCache

/-- Whether 64 bits with a sign for the seconds, and a part of a second, hold a number of
nanoseconds. -/
def Representable (nanos : Int) : Prop :=
  ∃ seconds part : Int, -9223372036854775808 ≤ seconds ∧ seconds ≤ 9223372036854775807 ∧
    0 ≤ part ∧ part < 1000000000 ∧ nanos = seconds * 1000000000 + part

/-- What a number of nanoseconds leads to from an instant. -/
inductive Reaches (now : Instant) (nanos : Int) : Option Instant → Prop
  | exact {t : Instant} (h : t.nanos = now.nanos + nanos) : Reaches now nanos (some t)
  | tooLate (hpos : 0 < nanos) (h : ¬ Representable (now.nanos + nanos)) : Reaches now nanos none
  | tooEarly (hle : nanos ≤ 0) (h : ¬ Representable (now.nanos + nanos)) :
    Reaches now nanos (some now)

theorem representable_iff {n : Int} : Representable n ↔ ∃ t : Instant, t.nanos = n := by
  constructor
  · rintro ⟨seconds, part, hlower, hupper, hpart, hlt, rfl⟩
    refine ⟨⟨seconds * 1000000000 + part, ?_, ?_⟩, rfl⟩ <;>
      simp only [secondsBound, nanosPerSecond] <;> omega
  · rintro ⟨t, rfl⟩
    have hlower := t.lower
    have hupper := t.upper
    simp only [secondsBound, nanosPerSecond] at hlower hupper
    exact ⟨t.nanos / 1000000000, t.nanos % 1000000000, by omega, by omega, by omega, by omega,
      by omega⟩

theorem representable_nanos (t : Instant) : Representable t.nanos :=
  representable_iff.2 ⟨t, rfl⟩

theorem Instant.ofNanos?_eq_none_iff {n : Int} : ofNanos? n = none ↔ ¬ Representable n := by
  rw [representable_iff, Option.eq_none_iff_forall_ne_some]
  simp only [ne_eq, ofNanos?_eq_some_iff, not_exists]

section Reaches

variable {now : Instant} {nanos : Int} {result : Option Instant}

/-- A future instant is reached exactly or not at all. -/
theorem Reaches.of_pos (h : Reaches now nanos result) (hpos : 0 < nanos) :
    (∃ t, result = some t ∧ t.nanos = now.nanos + nanos) ∨
      result = none ∧ ¬ Representable (now.nanos + nanos) := by
  cases h with
  | exact h => exact .inl ⟨_, rfl, h⟩
  | tooLate _ h => exact .inr ⟨rfl, h⟩
  | tooEarly hle _ => omega

/-- For zero or less some instant is always reached, and it is not a future one. -/
theorem Reaches.of_not_pos (h : Reaches now nanos result) (hle : nanos ≤ 0) :
    ∃ t, result = some t ∧ t ≤ now ∧
      (Representable (now.nanos + nanos) → t.nanos = now.nanos + nanos) := by
  cases h with
  | exact h => exact ⟨_, rfl, Instant.le_iff.2 (by omega), fun _ => h⟩
  | tooLate hpos _ => omega
  | tooEarly _ h => exact ⟨now, rfl, Int.le_refl _, fun hfits => absurd hfits h⟩

end Reaches

namespace SignedDuration

/-- A duration leads from an instant to the exact sum if there is one. -/
theorem reaches_offset (d : SignedDuration) (now : Instant) :
    Reaches now d.nanos (d.offset now) := by
  unfold offset
  cases hsign : d.negative with
  | true =>
    have hsum : now.nanos - d.magnitude = now.nanos + d.nanos := by
      simp only [nanos, hsign, if_true]
      omega
    have hle : d.nanos ≤ 0 := by simp [nanos, hsign]
    rw [if_pos rfl, hsum]
    cases ht : Instant.ofNanos? (now.nanos + d.nanos) with
    | some t => exact .exact (Instant.ofNanos?_eq_some_iff.1 ht)
    | none => exact .tooEarly hle (Instant.ofNanos?_eq_none_iff.1 ht)
  | false =>
    have hnanos : (d.magnitude : Int) = d.nanos := by simp [nanos, hsign]
    rw [if_neg Bool.false_ne_true, hnanos]
    cases ht : Instant.ofNanos? (now.nanos + d.nanos) with
    | some t => exact .exact (Instant.ofNanos?_eq_some_iff.1 ht)
    | none =>
      have hnot := Instant.ofNanos?_eq_none_iff.1 ht
      -- Zero without a minus sign leads to the instant itself, which fits.
      have hne : d.nanos ≠ 0 := by
        intro hzero
        rw [hzero, Int.add_zero] at hnot
        exact hnot (representable_nanos now)
      exact .tooLate (by omega) hnot

end SignedDuration

section Spec

variable {spec : String} {now : Instant} {d : SignedDuration}

theorem expirationFromTtl_of_denotes (h : Ttl.Denotes spec.toList d) (now : Instant) :
    expirationFromTtl spec now =
      match d.offset now with
      | none => .error (.invalidTtl spec)
      | some t => .ok (some t) := by
  have hne : spec.isEmpty = false := by
    rw [Bool.eq_false_iff]
    intro hempty
    rw [String.isEmpty_iff.1 hempty] at h
    have hread := SignedDuration.ofText?_eq_some_iff.2 h
    cases hread
  have hread := SignedDuration.ofSpec_eq_ok_iff.2 h
  cases hoffset : d.offset now
  all_goals simp only [expirationFromTtl, hne, Bool.false_eq_true, if_false, hread, hoffset]

theorem expirationFromTtl_of_not_denotes (hne : spec ≠ "")
    (h : ∀ d, ¬ Ttl.Denotes spec.toList d) (now : Instant) :
    expirationFromTtl spec now = .error (.invalidTtl spec) := by
  unfold expirationFromTtl
  rw [if_neg (fun hempty => hne (String.isEmpty_iff.1 hempty)),
    SignedDuration.ofSpec_eq_error_iff.2 ⟨rfl, h⟩]

theorem isExpiredAt_some_iff {value : String} {t s : Instant} :
    (Entry.mk value (some t)).isExpiredAt s = true ↔ t ≤ s := by
  simp [Entry.isExpiredAt]

end Spec

/-- An entry whose time to live is the empty text never expires, and a text that denotes no
duration is refused. A text that denotes a positive one gives an entry that expires at exactly
the instant that lies so far ahead, or is refused if that instant does not fit; one that denotes
zero or less is never refused, and the entry has expired already, at the exact instant if it fits.
The same holds of every duration applied to every instant. -/
theorem lifetime_is_exact (spec : String) (now : Instant) :
    (spec = "" → expirationFromTtl spec now = .ok none ∧
      ∀ value t, (Entry.mk value none).isExpiredAt t = false) ∧
    (spec ≠ "" → (∀ d, ¬ Ttl.Denotes spec.toList d) →
      expirationFromTtl spec now = .error (.invalidTtl spec)) ∧
    (∀ d, Ttl.Denotes spec.toList d → 0 < d.nanos →
      (∃ t, t.nanos = now.nanos + d.nanos ∧ expirationFromTtl spec now = .ok (some t) ∧
        ∀ value s, (Entry.mk value (some t)).isExpiredAt s = true ↔
          now.nanos + d.nanos ≤ s.nanos) ∨
      ¬ Representable (now.nanos + d.nanos) ∧
        expirationFromTtl spec now = .error (.invalidTtl spec)) ∧
    (∀ d, Ttl.Denotes spec.toList d → d.nanos ≤ 0 →
      ∃ t, expirationFromTtl spec now = .ok (some t) ∧
        (∀ value s, now ≤ s → (Entry.mk value (some t)).isExpiredAt s = true) ∧
        (Representable (now.nanos + d.nanos) → t.nanos = now.nanos + d.nanos)) ∧
    ∀ d : SignedDuration, Reaches now d.nanos (d.offset now) := by
  refine ⟨?_, fun hne h => expirationFromTtl_of_not_denotes hne h now, fun d hd hpos => ?_,
    fun d hd hle => ?_, fun d => d.reaches_offset now⟩
  · rintro rfl
    exact ⟨rfl, fun _ _ => rfl⟩
  · rw [expirationFromTtl_of_denotes hd]
    rcases (d.reaches_offset now).of_pos hpos with ⟨t, ht, hexact⟩ | ⟨hnone, hnot⟩
    · refine .inl ⟨t, hexact, by rw [ht], fun value s => ?_⟩
      rw [isExpiredAt_some_iff, Instant.le_iff, hexact]
    · exact .inr ⟨hnot, by rw [hnone]⟩
  · rw [expirationFromTtl_of_denotes hd]
    obtain ⟨t, ht, hearlier, hexact⟩ := (d.reaches_offset now).of_not_pos hle
    refine ⟨t, by rw [ht], fun value s hs => ?_, hexact⟩
    exact isExpiredAt_some_iff.2 (Int.le_trans hearlier hs)

/-- One nanosecond after the last instant and one before the first. -/
theorem lifetime_is_exact_at_the_ends :
    ∃ first last : Instant, first.nanos = -9223372036854775808000000000 ∧
      last.nanos = 9223372036854775807999999999 ∧
      expirationFromTtl "1ns" last = .error (.invalidTtl "1ns") ∧
      ∃ t, expirationFromTtl "-1ns" first = .ok (some t) ∧
        (Entry.mk "value" (some t)).isExpiredAt first = true := by
  have hone : Ttl.IsMagnitude ['1', 'n', 's'] 1 :=
    .groups (Ttl.spells_cons_iff.2 ⟨[], rfl, .nil⟩ : Ttl.Spells _ [⟨['1'], [], .nanosecond⟩])
      (by decide) (by decide)
  let first : Instant := ⟨-9223372036854775808000000000, by decide, by decide⟩
  let last : Instant := ⟨9223372036854775807999999999, by decide, by decide⟩
  refine ⟨first, last, rfl, rfl, ?_, ?_⟩
  · rcases (lifetime_is_exact "1ns" last).2.2.1 _ (.unsigned hone) (by decide) with
      ⟨t, ht, -⟩ | ⟨-, hrefused⟩
    · have hupper := t.upper
      rw [ht] at hupper
      exact absurd hupper (by decide)
    · exact hrefused
  · obtain ⟨t, ht, hexpired, -⟩ :=
      (lifetime_is_exact "-1ns" first).2.2.2.1 _ (.minus hone) (by decide)
    exact ⟨t, ht, hexpired "value" first (Int.le_refl _)⟩

end ExpiringCache
