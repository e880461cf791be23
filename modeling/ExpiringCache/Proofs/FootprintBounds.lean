import ExpiringCache.Keyspace.Basic
import Mathlib.Algebra.Ring.Nat

/-!
# Bounds of the footprint

The entries of a keyspace come in no particular order, so which of them are measured is not fixed.
A sample is never empty unless there are no entries (`length_everyNth`), and its mean lies between
the least and the greatest size, wherever it was taken; so does what it is scaled up to, rounding
included (`footprint_is_sound`).
-/

namespace ExpiringCache

/-- The bytes of a key and its value in UTF-8. -/
def storedBytes (p : String × Entry) : Nat := p.1.toUTF8.size + p.2.value.toUTF8.size

section Sample

variable {stride : Nat} {entries : List (String × Entry)}

theorem mem_of_mem_everyNth {α : Type} {a : α} {l : List α} (h : a ∈ everyNth stride l) :
    a ∈ l := by
  fun_induction everyNth stride l with
  | case1 => exact h
  | case2 b rest ih =>
    rcases List.mem_cons.1 h with rfl | h
    · exact List.mem_cons_self
    · exact List.mem_cons_of_mem b (List.mem_of_mem_drop (ih h))

/-- One element is taken out of every `stride`, and one more of those left over. -/
theorem length_everyNth {α : Type} (hstride : 0 < stride) (l : List α) :
    (everyNth stride l).length = (l.length + (stride - 1)) / stride := by
  fun_induction everyNth stride l with
  | case1 =>
    rw [List.length_nil, Nat.zero_add, Nat.div_eq_of_lt (by omega)]
  | case2 a rest ih =>
    rw [List.length_cons, ih, List.length_drop, List.length_cons]
    have hwhole : rest.length + 1 + (stride - 1) = rest.length + stride := by omega
    rw [hwhole, Nat.add_div_right _ hstride]
    rcases Nat.lt_or_ge rest.length (stride - 1) with hshort | hlong
    · rw [Nat.sub_eq_zero_of_le (Nat.le_of_lt hshort), Nat.zero_add,
        Nat.div_eq_of_lt (by omega), Nat.div_eq_of_lt (by omega)]
    · rw [Nat.sub_add_cancel hlong]

theorem foldl_footprint_eq (bytes : Nat) :
    entries.foldl (fun bytes p => bytes + p.2.footprint p.1) bytes =
      bytes + (entries.map storedBytes).sum := by
  induction entries generalizing bytes with
  | nil => simp
  | cons p entries ih =>
    rw [List.foldl_cons, ih, List.map_cons, List.sum_cons, Nat.add_assoc]
    rfl

theorem totalBytes_eq_sum (entries : List (String × Entry)) :
    totalBytes entries = (entries.map storedBytes).sum := by
  rw [totalBytes, foldl_footprint_eq, Nat.zero_add]

variable {least most : Nat}

theorem totalBytes_bounds
    (h : ∀ p ∈ entries, least ≤ storedBytes p ∧ storedBytes p ≤ most) :
    entries.length * least ≤ totalBytes entries ∧ totalBytes entries ≤ entries.length * most := by
  rw [totalBytes_eq_sum]
  induction entries with
  | nil => simp
  | cons p entries ih =>
    have hp := h p List.mem_cons_self
    have hrest := ih fun q hq => h q (List.mem_cons_of_mem p hq)
    simp only [List.length_cons, List.map_cons, List.sum_cons, Nat.succ_mul]
    omega

/-- What a sample is scaled up to keeps within the bounds of the sample, rounding included. -/
theorem scaledBytes_bounds {items : Nat} (hne : items ≠ 0 → entries ≠ [])
    (h : ∀ p ∈ entries, least ≤ storedBytes p ∧ storedBytes p ≤ most) :
    items * least ≤ scaledBytes entries items ∧ scaledBytes entries items ≤ items * most := by
  obtain ⟨hleast, hmost⟩ := totalBytes_bounds h
  unfold scaledBytes
  split
  · rename_i hzero
    have hitems : items = 0 := Classical.not_not.1 fun hitems =>
      hne hitems (List.eq_nil_of_length_eq_zero hzero)
    simp [hitems]
  · rename_i hpos
    have hpos : 0 < entries.length := Nat.pos_of_ne_zero hpos
    constructor
    · rw [Nat.le_div_iff_mul_le hpos]
      calc items * least * entries.length = entries.length * least * items := by
            rw [Nat.mul_comm, ← Nat.mul_assoc, Nat.mul_right_comm]
        _ ≤ totalBytes entries * items := Nat.mul_le_mul_right _ hleast
    · refine Nat.div_le_of_le_mul ?_
      calc totalBytes entries * items ≤ entries.length * most * items :=
            Nat.mul_le_mul_right _ hmost
        _ = entries.length * (items * most) := by rw [Nat.mul_assoc, Nat.mul_comm most]

end Sample

section Estimate

variable {threshold least most : Nat} {entries order : List (String × Entry)}

theorem items_estimate (threshold : Nat) (entries : List (String × Entry)) :
    (Footprint.estimate threshold entries).items = entries.length := by
  unfold Footprint.estimate
  dsimp only
  split <;> rfl

theorem estimate_of_lt (h : entries.length < threshold) :
    Footprint.estimate threshold entries =
      ⟨entries.length, (entries.map storedBytes).sum⟩ := by
  unfold Footprint.estimate
  dsimp only
  rw [if_pos h, totalBytes_eq_sum]

theorem everyNth_eq_nil_iff {α : Type} {stride : Nat} {l : List α} :
    everyNth stride l = [] ↔ l = [] := by
  cases l <;> simp [everyNth]

theorem bytes_estimate_bounds
    (h : ∀ p ∈ entries, least ≤ storedBytes p ∧ storedBytes p ≤ most) :
    entries.length * least ≤ (Footprint.estimate threshold entries).bytes ∧
      (Footprint.estimate threshold entries).bytes ≤ entries.length * most := by
  unfold Footprint.estimate
  dsimp only
  split
  · exact totalBytes_bounds h
  · refine scaledBytes_bounds (fun hne hnil => hne ?_) fun p hp => h p (mem_of_mem_everyNth hp)
    rw [everyNth_eq_nil_iff.1 hnil, List.length_nil]

end Estimate

/-- Whatever the order in which the entries of a keyspace come and whatever the threshold, the
number of items is right, and the bytes lie between the least and the greatest size of an entry
times that number; so they are exact if all entries have one size, and zero if there are none.
Below the threshold they are the sum of all sizes, in every order. From it on, one entry in a
hundred is measured, rounded up, so there is one to divide by unless nothing is stored. -/
theorem footprint_is_sound (ks : Keyspace) (threshold : Nat) {order : List (String × Entry)}
    (horder : order.Perm ks.entries.entries) :
    (Footprint.estimate threshold order).items = ks.size ∧
      (ks.size < threshold →
        (Footprint.estimate threshold order).bytes = (ks.entries.entries.map storedBytes).sum ∧
        Footprint.estimate threshold order = ks.footprint threshold) ∧
      (∀ least most,
        (∀ p ∈ ks.entries.entries, least ≤ storedBytes p ∧ storedBytes p ≤ most) →
        ks.size * least ≤ (Footprint.estimate threshold order).bytes ∧
          (Footprint.estimate threshold order).bytes ≤ ks.size * most) ∧
      (∀ bytes, (∀ p ∈ ks.entries.entries, storedBytes p = bytes) →
        (Footprint.estimate threshold order).bytes = ks.size * bytes) ∧
      (ks.size = 0 → Footprint.estimate threshold order = ⟨0, 0⟩) ∧
      (everyNth sampleStride order).length = (ks.size + 99) / 100 ∧
      (ks.size ≠ 0 → (everyNth sampleStride order).length ≠ 0) := by
  have hlength : order.length = ks.size := horder.length_eq
  have hbounds : ∀ least most,
      (∀ p ∈ ks.entries.entries, least ≤ storedBytes p ∧ storedBytes p ≤ most) →
      ks.size * least ≤ (Footprint.estimate threshold order).bytes ∧
        (Footprint.estimate threshold order).bytes ≤ ks.size * most := by
    intro least most h
    rw [← hlength]
    exact bytes_estimate_bounds fun p hp => h p (horder.mem_iff.1 hp)
  refine ⟨(items_estimate threshold order).trans hlength, fun hlt => ?_, hbounds,
    fun bytes h => ?_, fun hzero => ?_, ?_, fun hne hnil => hne ?_⟩
  · have hsum := (horder.map storedBytes).sum_nat
    have hown : ks.footprint threshold = ⟨ks.size, (ks.entries.entries.map storedBytes).sum⟩ :=
      estimate_of_lt hlt
    rw [estimate_of_lt (hlength ▸ hlt), hsum, hlength]
    exact ⟨rfl, hown.symm⟩
  · have hexact := hbounds bytes bytes fun p hp => ⟨Nat.le_of_eq (h p hp).symm,
      Nat.le_of_eq (h p hp)⟩
    exact Nat.le_antisymm hexact.2 hexact.1
  · have hempty : order = [] := List.eq_nil_of_length_eq_zero (hlength.trans hzero)
    rw [hempty]
    unfold Footprint.estimate scaledBytes
    simp [everyNth, totalBytes]
  · rw [length_everyNth (by decide), hlength]
    rfl
  · have hnil := everyNth_eq_nil_iff.1 (List.eq_nil_of_length_eq_zero hnil)
    rw [← hlength, hnil, List.length_nil]

/-- Two entries of different sizes, of which the one that comes first is measured. -/
theorem footprint_is_sound_reversed :
    ∃ ks : Keyspace, ∃ order : List (String × Entry), order.Perm ks.entries.entries ∧
      ks.size = 2 ∧ (Footprint.estimate 2 order).bytes = 4 ∧
      2 * 2 ≤ (Footprint.estimate 2 order).bytes ∧
      (Footprint.estimate 2 order).bytes ≤ 2 * 6 := by
  let ks := (Keyspace.empty.insert "a" "value" none).insert "é" "" none
  have horder : ks.entries.entries.reverse.Perm ks.entries.entries := List.reverse_perm _
  have hbounds := (footprint_is_sound ks 2 horder).2.2.1 2 6 (by decide +kernel)
  exact ⟨ks, _, horder, by decide +kernel, by decide +kernel, hbounds⟩

end ExpiringCache
