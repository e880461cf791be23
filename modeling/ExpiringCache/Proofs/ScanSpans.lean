import ExpiringCache.Regex.Scan
import Mathlib.Tactic.SplitIfs

/-!
# Where a scan can end

A scan of a text ends at the positions up to which the expression spans the text from one of the
positions where the scan started (`tracks_ends`). For a repetition this needs that what is
reached step by step from new positions alone is all that can be reached (`testBit_reach`), and
that a way which never goes back need not take more steps than there are positions on it
(`exists_short_steps`). So `isMatch` decides whether some part of a text is spanned
(`isMatch_iff`).
-/

namespace ExpiringCache

namespace Regex

/-- Whether no repetition has to be made more often than it may be. -/
def WellFormed : Regex → Prop
  | empty | look _ | oneOf _ _ => True
  | seq a b | alt a b => a.WellFormed ∧ b.WellFormed
  | group a | capture a => a.WellFormed
  | rep a min max _ => a.WellFormed ∧ ∀ most, max = some most → min ≤ most

section Steps

variable {R : Nat → Nat → Prop}

theorem steps_add_iff : ∀ {m n i j : Nat},
    Steps R (m + n) i j ↔ ∃ k, Steps R m i k ∧ Steps R n k j
  | 0, n, i, j => by simp [Steps]
  | m + 1, n, i, j => by
    rw [Nat.add_right_comm]
    simp only [Steps, steps_add_iff (m := m)]
    constructor
    · rintro ⟨k, hk, l, hl, hj⟩
      exact ⟨l, ⟨k, hk, hl⟩, hj⟩
    · rintro ⟨l, ⟨k, hk, hl⟩, hj⟩
      exact ⟨k, hk, l, hl, hj⟩

theorem le_of_steps (hle : ∀ i j, R i j → i ≤ j) : ∀ {n i j : Nat}, Steps R n i j → i ≤ j
  | 0, _, _, h => Nat.le_of_eq h
  | _ + 1, _, _, ⟨_, hk, h⟩ => Nat.le_trans (hle _ _ hk) (le_of_steps hle h)

theorem lt_of_steps {size : Nat} (hlt : ∀ i j, R i j → i < size → j < size) :
    ∀ {n i j : Nat}, Steps R n i j → i < size → j < size
  | 0, _, _, h, hi => h ▸ hi
  | _ + 1, _, _, ⟨_, hk, h⟩, hi => lt_of_steps hlt h (hlt _ _ hk hi)

/-- Steps that stay where they are can be left out. -/
theorem exists_short_steps (hle : ∀ i j, R i j → i ≤ j) : ∀ {n i j : Nat}, Steps R n i j →
    ∃ m, m ≤ n ∧ m ≤ j - i ∧ Steps R m i j
  | 0, i, j, h => ⟨0, Nat.le_refl 0, Nat.zero_le _, h⟩
  | n + 1, i, j, ⟨k, hk, h⟩ => by
    obtain ⟨m, hm, hmj, hsteps⟩ := exists_short_steps hle h
    have hkj := le_of_steps hle h
    rcases Nat.lt_or_eq_of_le (hle _ _ hk) with hlt | rfl
    · exact ⟨m + 1, by omega, by omega, k, hk, hsteps⟩
    · exact ⟨m, by omega, hmj, hsteps⟩

end Steps

end Regex

namespace Scan

open Regex (Steps)

/-- Whether all positions of a set are below a bound. -/
def Within (size starts : Nat) : Prop := ∀ i, starts.testBit i = true → i < size

/-- Whether a function takes a set of positions to those that a relation leads to from it. The
relation leads neither back nor out of the text. -/
structure Tracks (size : Nat) (f : Nat → Nat) (R : Nat → Nat → Prop) : Prop where
  testBit_iff : ∀ {starts}, Within size starts → ∀ {j},
    (f starts).testBit j = true ↔ ∃ i, starts.testBit i = true ∧ R i j
  le : ∀ i j, R i j → i ≤ j
  lt : ∀ i j, R i j → i < size → j < size

variable {size : Nat} {f : Nat → Nat} {R : Nat → Nat → Prop}

theorem Tracks.within (h : Tracks size f R) {starts : Nat} (hs : Within size starts) :
    Within size (f starts) := by
  intro j hj
  obtain ⟨i, hi, hij⟩ := (h.testBit_iff hs).1 hj
  exact h.lt i j hij (hs i hi)

theorem Tracks.iterate (h : Tracks size f R) : ∀ n, Tracks size (iterate f n) (Steps R n)
  | 0 => ⟨by simp [Scan.iterate, Steps], fun _ _ h => Nat.le_of_eq h, fun _ _ h hi => h ▸ hi⟩
  | n + 1 => by
    refine ⟨fun {starts} hs {j} => ?_, fun _ _ => Regex.le_of_steps h.le,
      fun _ _ => Regex.lt_of_steps h.lt⟩
    unfold Scan.iterate
    split_ifs with hzero
    · simp [hzero]
    · rw [(h.iterate n).testBit_iff (h.within hs)]
      constructor
      · rintro ⟨k, hk, hj⟩
        obtain ⟨i, hi, hik⟩ := (h.testBit_iff hs).1 hk
        exact ⟨i, hi, k, hik, hj⟩
      · rintro ⟨i, hi, k, hik, hj⟩
        exact ⟨k, (h.testBit_iff hs).2 ⟨i, hi, hik⟩, hj⟩

theorem testBit_fresh (seen next j : Nat) :
    ((seen ||| next) ^^^ seen).testBit j = (next.testBit j && ! seen.testBit j) := by
  rw [Nat.testBit_xor, Nat.testBit_or]
  cases seen.testBit j <;> cases next.testBit j <;> rfl

/-- What is reached was seen before or is some steps away from the last positions. -/
theorem of_testBit_reach (h : Tracks size f R) : ∀ {n seen last j : Nat}, Within size last →
    (reach f n seen last).testBit j = true →
    seen.testBit j = true ∨ ∃ m i, m ≤ n ∧ last.testBit i = true ∧ Steps R m i j
  | 0, _, _, _, _, hj => .inl hj
  | n + 1, seen, last, j, hlast, hj => by
    simp only [reach] at hj
    split_ifs at hj
    · exact .inl hj
    · have hfresh : ∀ k, ((seen ||| f last) ^^^ seen).testBit k = true →
          ∃ i, last.testBit i = true ∧ R i k := by
        intro k hk
        rw [testBit_fresh, Bool.and_eq_true] at hk
        exact (h.testBit_iff hlast).1 hk.1
      have hwithin : Within size ((seen ||| f last) ^^^ seen) := by
        intro k hk
        obtain ⟨i, hi, hik⟩ := hfresh k hk
        exact h.lt i k hik (hlast i hi)
      rcases of_testBit_reach h hwithin hj with hseen | ⟨m, k, hm, hk, hsteps⟩
      · rw [Nat.testBit_or, Bool.or_eq_true] at hseen
        rcases hseen with hseen | hk
        · exact .inl hseen
        · obtain ⟨i, hi, hij⟩ := hfresh j hk
          exact .inr ⟨1, i, Nat.le_add_left 1 n, hi, j, hij, rfl⟩
      · obtain ⟨i, hi, hik⟩ := hfresh k hk
        exact .inr ⟨m + 1, i, Nat.succ_le_succ hm, hi, k, hik, hsteps⟩

/-- Whether the last positions were seen, and so was all that one step leads to from the others
that were seen. -/
structure Explored (R : Nat → Nat → Prop) (seen last : Nat) : Prop where
  of_last : ∀ i, last.testBit i = true → seen.testBit i = true
  step : ∀ i k, seen.testBit i = true → last.testBit i = false → R i k → seen.testBit k = true

theorem Explored.next (h : Tracks size f R) {seen last : Nat} (hlast : Within size last)
    (he : Explored R seen last) :
    Explored R (seen ||| ((seen ||| f last) ^^^ seen)) ((seen ||| f last) ^^^ seen) where
  of_last i hi := by
    rw [Nat.testBit_or, hi, Bool.or_true]
  step i k hi hfresh hik := by
    rw [Nat.testBit_or, hfresh, Bool.or_false] at hi
    rw [Nat.testBit_or, testBit_fresh]
    cases hseen : seen.testBit k with
    | true => rfl
    | false =>
      cases hi' : last.testBit i with
      | true => simp [(h.testBit_iff hlast).2 ⟨i, hi', hik⟩]
      | false =>
        rw [he.step i k hi hi' hik] at hseen
        simp at hseen

/-- A way from what was seen stays in it, or leaves it from one of the last positions. -/
theorem Explored.exit {seen last : Nat} (he : Explored R seen last) : ∀ {m i j : Nat},
    seen.testBit i = true → Steps R m i j → seen.testBit j = true ∨
      ∃ l k i', l < m ∧ last.testBit i' = true ∧ R i' k ∧ Steps R l k j
  | 0, _, _, hi, hij => .inl (hij ▸ hi)
  | m + 1, i, _, hi, ⟨k, hik, h⟩ => by
    cases hlast : last.testBit i with
    | true => exact .inr ⟨m, k, i, Nat.lt_succ_self m, hlast, hik, h⟩
    | false =>
      rcases he.exit (he.step i k hi hlast hik) h with hj | ⟨l, k', i', hl, hrest⟩
      · exact .inl hj
      · exact .inr ⟨l, k', i', Nat.lt_succ_of_lt hl, hrest⟩

/-- All that is some steps away from what was seen is reached. -/
theorem testBit_reach_of_steps (h : Tracks size f R) : ∀ {n seen last : Nat}, Within size last →
    Explored R seen last → ∀ {m i j : Nat}, m ≤ n → seen.testBit i = true → Steps R m i j →
    (reach f n seen last).testBit j = true
  | 0, _, _, _, _, 0, _, _, _, hi, hij => hij ▸ hi
  | n + 1, seen, last, hlast, he, m, i, j, hm, hi, hsteps => by
    have hexit := he.exit hi hsteps
    simp only [reach]
    split_ifs with hzero
    · rcases hexit with hj | ⟨_, _, i', _, hi', _⟩
      · exact hj
      · simp [hzero] at hi'
    · have hwithin : Within size ((seen ||| f last) ^^^ seen) := by
        intro k hk
        rw [testBit_fresh, Bool.and_eq_true] at hk
        exact h.within hlast k hk.1
      have hnext := he.next h hlast
      rcases hexit with hj | ⟨l, k, i', hl, hi', hik, hrest⟩
      · refine testBit_reach_of_steps h hwithin hnext (Nat.zero_le n) ?_ rfl
        rw [Nat.testBit_or, hj, Bool.true_or]
      · refine testBit_reach_of_steps h hwithin hnext (by omega) ?_ hrest
        rw [Nat.testBit_or, testBit_fresh, (h.testBit_iff hlast).2 ⟨i', hi', hik⟩]
        cases seen.testBit k <;> rfl

theorem testBit_reach (h : Tracks size f R) {n starts j : Nat} (hs : Within size starts) :
    (reach f n starts starts).testBit j = true ↔
      ∃ i, starts.testBit i = true ∧ ∃ m, m ≤ n ∧ Steps R m i j := by
  constructor
  · intro hj
    rcases of_testBit_reach h hs hj with hseen | ⟨m, i, hm, hi, hsteps⟩
    · exact ⟨j, hseen, 0, Nat.zero_le n, rfl⟩
    · exact ⟨i, hi, m, hm, hsteps⟩
  · rintro ⟨i, hi, m, hm, hsteps⟩
    refine testBit_reach_of_steps h hs ⟨fun _ hi => hi, ?_⟩ hm hi hsteps
    intro i k hi hlast
    rw [hi] at hlast
    simp at hlast

/-- What a repetition leads to. -/
def Repeats (R : Nat → Nat → Prop) (min : Nat) (max : Option Nat) (i j : Nat) : Prop :=
  ∃ n, min ≤ n ∧ (∀ most, max = some most → n ≤ most) ∧ Steps R n i j

/-- How many steps past the least number of a repetition are tried. -/
def more (size min : Nat) : Option Nat → Nat
  | none => size
  | some most => Nat.min (most - min) size

theorem repeats_iff (h : Tracks size f R) {min : Nat} {max : Option Nat}
    (hmax : ∀ most, max = some most → min ≤ most) {i j : Nat} (hi : i < size) :
    Repeats R min max i j ↔
      ∃ k, Steps R min i k ∧ ∃ m, m ≤ more size min max ∧ Steps R m k j := by
  constructor
  · rintro ⟨n, hmin, hmost, hsteps⟩
    obtain ⟨n, rfl⟩ := Nat.exists_eq_add_of_le hmin
    obtain ⟨k, hk, hrest⟩ := Regex.steps_add_iff.1 hsteps
    obtain ⟨m, hmn, hmj, hm⟩ := Regex.exists_short_steps h.le hrest
    have hj : j < size := Regex.lt_of_steps h.lt hsteps hi
    refine ⟨k, hk, m, ?_, hm⟩
    cases max with
    | none =>
      show m ≤ size
      omega
    | some most =>
      have := hmost most rfl
      exact Nat.le_min.2 ⟨by omega, by omega⟩
  · rintro ⟨k, hk, m, hm, hrest⟩
    refine ⟨min + m, Nat.le_add_right min m, ?_, Regex.steps_add_iff.2 ⟨k, hk, hrest⟩⟩
    rintro most rfl
    have := hmax most rfl
    have := (Nat.le_min.1 hm).1
    omega

theorem Tracks.rep (h : Tracks size f R) {min : Nat} {max : Option Nat}
    (hmax : ∀ most, max = some most → min ≤ most) :
    Tracks size (fun starts => reach f (more size min max) (Scan.iterate f min starts)
      (Scan.iterate f min starts)) (Repeats R min max) where
  testBit_iff {starts} hs {j} := by
    have hleast := h.iterate min
    rw [testBit_reach h (hleast.within hs)]
    constructor
    · rintro ⟨k, hk, hrest⟩
      obtain ⟨i, hi, hik⟩ := (hleast.testBit_iff hs).1 hk
      exact ⟨i, hi, (repeats_iff h hmax (hs i hi)).2 ⟨k, hik, hrest⟩⟩
    · rintro ⟨i, hi, hij⟩
      obtain ⟨k, hik, hrest⟩ := (repeats_iff h hmax (hs i hi)).1 hij
      exact ⟨k, (hleast.testBit_iff hs).2 ⟨i, hi, hik⟩, hrest⟩
  le _ _ := fun ⟨_, _, _, hsteps⟩ => Regex.le_of_steps h.le hsteps
  lt _ _ := fun ⟨_, _, _, hsteps⟩ => Regex.lt_of_steps h.lt hsteps

end Scan

section Positions

theorem testBit_bit_zero (n : Nat) (b : Bool) :
    (2 * n + if b then 1 else 0).testBit 0 = b := by
  cases b <;> simp [Nat.testBit_zero]

theorem testBit_bit_succ (n i : Nat) (b : Bool) :
    (2 * n + if b then 1 else 0).testBit (i + 1) = n.testBit i := by
  have hhalf : (2 * n + if b then 1 else 0) / 2 = n := by
    cases b
    · simp
    · simp only [if_true]
      omega
  rw [Nat.testBit_succ, hhalf]

/-- The bits of the positions of a set are those of the characters in it. -/
theorem CharSet.testBit_positions (s : CharSet) : ∀ (text : List Char) (i : Nat),
    (s.positions text).testBit i = true ↔ ∃ c, text[i]? = some c ∧ s.contains c = true
  | [], i => by simp [positions]
  | c :: text, 0 => by
    show (2 * s.positions text + if s.contains c then 1 else 0).testBit 0 = true ↔ _
    rw [testBit_bit_zero]
    simp
  | c :: text, i + 1 => by
    show (2 * s.positions text + if s.contains c then 1 else 0).testBit (i + 1) = true ↔ _
    rw [testBit_bit_succ, s.testBit_positions text i, List.getElem?_cons_succ]

/-- The bits of the positions that are as asked, the end of the text among them. -/
theorem Look.testBit_positionsAfter (l : Look) : ∀ (text : List Char) (before : Option Char)
    (i : Nat), (l.positionsAfter before text).testBit i = true ↔
      i ≤ text.length ∧ l.holds (if i = 0 then before else text[i - 1]?) text[i]? = true
  | [], before, i => by
    unfold positionsAfter
    cases i <;> cases hl : l.holds before none <;> simp [Nat.testBit_succ, hl]
  | c :: text, before, 0 => by
    unfold positionsAfter
    rw [testBit_bit_zero]
    simp
  | c :: text, before, i + 1 => by
    unfold positionsAfter
    rw [testBit_bit_succ, l.testBit_positionsAfter text (some c) i]
    cases i <;> simp

theorem Regex.testBit_allPositions (text : List Char) (i : Nat) :
    (allPositions text).testBit i = decide (i < text.length + 1) := by
  unfold allPositions
  rw [Nat.one_shiftLeft, Nat.testBit_two_pow_sub_one]

end Positions

namespace Scan

variable {size : Nat}

theorem tracks_stay (here : Nat) {P : Nat → Prop}
    (h : ∀ i, i < size → (here.testBit i = true ↔ P i)) :
    Tracks size (fun starts => starts &&& here) fun i j => i = j ∧ P i where
  testBit_iff {starts} hs {j} := by
    rw [Nat.testBit_and, Bool.and_eq_true]
    constructor
    · rintro ⟨hj, hhere⟩
      exact ⟨j, hj, rfl, (h j (hs j hj)).1 hhere⟩
    · rintro ⟨i, hi, rfl, hp⟩
      exact ⟨hi, (h i (hs i hi)).2 hp⟩
  le _ _ := fun ⟨hij, _⟩ => Nat.le_of_eq hij
  lt _ _ := fun ⟨hij, _⟩ hi => hij ▸ hi

theorem tracks_advance {here : Nat} {P : Nat → Prop}
    (h : ∀ i, here.testBit i = true ↔ P i) (hlt : ∀ i, P i → i + 1 < size) :
    Tracks size (fun starts => (starts &&& here) <<< 1) fun i j => j = i + 1 ∧ P i where
  testBit_iff {starts} hs {j} := by
    rw [Nat.testBit_shiftLeft, Nat.testBit_and]
    simp only [Bool.and_eq_true, decide_eq_true_eq]
    constructor
    · rintro ⟨hj, hstart, hhere⟩
      exact ⟨j - 1, hstart, by omega, (h _).1 hhere⟩
    · rintro ⟨i, hi, rfl, hp⟩
      exact ⟨Nat.le_add_left 1 i, hi, (h i).2 hp⟩
  le _ _ := fun ⟨hj, _⟩ => hj ▸ Nat.le_succ _
  lt _ _ := fun ⟨hj, hp⟩ _ => hj ▸ hlt _ hp

variable {f g : Nat → Nat} {R S : Nat → Nat → Prop}

theorem Tracks.seq (hf : Tracks size f R) (hg : Tracks size g S) :
    Tracks size (fun starts => g (f starts)) fun i j => ∃ k, R i k ∧ S k j where
  testBit_iff {starts} hs {j} := by
    rw [hg.testBit_iff (hf.within hs)]
    constructor
    · rintro ⟨k, hk, hkj⟩
      obtain ⟨i, hi, hik⟩ := (hf.testBit_iff hs).1 hk
      exact ⟨i, hi, k, hik, hkj⟩
    · rintro ⟨i, hi, k, hik, hkj⟩
      exact ⟨k, (hf.testBit_iff hs).2 ⟨i, hi, hik⟩, hkj⟩
  le _ _ := fun ⟨_, hik, hkj⟩ => Nat.le_trans (hf.le _ _ hik) (hg.le _ _ hkj)
  lt _ _ := fun ⟨_, hik, hkj⟩ hi => hg.lt _ _ hkj (hf.lt _ _ hik hi)

theorem Tracks.alt (hf : Tracks size f R) (hg : Tracks size g S) :
    Tracks size (fun starts => f starts ||| g starts) fun i j => R i j ∨ S i j where
  testBit_iff {starts} hs {j} := by
    rw [Nat.testBit_or, Bool.or_eq_true, hf.testBit_iff hs, hg.testBit_iff hs]
    constructor
    · rintro (⟨i, hi, hij⟩ | ⟨i, hi, hij⟩)
      · exact ⟨i, hi, .inl hij⟩
      · exact ⟨i, hi, .inr hij⟩
    · rintro ⟨i, hi, hij | hij⟩
      · exact .inl ⟨i, hi, hij⟩
      · exact .inr ⟨i, hi, hij⟩
  le _ _ := fun h => h.elim (hf.le _ _) (hg.le _ _)
  lt _ _ := fun h hi => h.elim (fun h => hf.lt _ _ h hi) fun h => hg.lt _ _ h hi

/-- A scan takes positions to those up to which the expression spans the text. -/
theorem tracks_ends (text : List Char) : ∀ (r : Regex), r.WellFormed →
    Tracks (text.length + 1) ((r.scan text).ends (text.length + 1)) (r.Spans text)
  | .empty, _ => by
    have h := tracks_stay (Regex.allPositions text) (P := fun _ => True)
      fun i (hi : i < text.length + 1) => by simp [Regex.testBit_allPositions, hi]
    simp only [and_true] at h
    exact h
  | .look l, _ =>
    tracks_stay _ fun i hi =>
      (l.testBit_positionsAfter text none i).trans (and_iff_right (Nat.le_of_lt_succ hi))
  | .oneOf _ s, _ =>
    tracks_advance (s.testBit_positions text) fun i ⟨_, hc, _⟩ =>
      Nat.succ_lt_succ (List.getElem?_eq_some_iff.1 hc).1
  | .seq a b, h => (tracks_ends text a h.1).seq (tracks_ends text b h.2)
  | .alt a b, h => (tracks_ends text a h.1).alt (tracks_ends text b h.2)
  | .group a, h => tracks_ends text a h
  | .capture a, h => tracks_ends text a h
  | .rep a min max _, h => by
    have ha := (tracks_ends text a h.1).rep h.2
    cases max <;> exact ha

end Scan

namespace Regex

/-- What an expression spans does not go back, nor out of the text. -/
theorem Spans.le_length {r : Regex} (hr : r.WellFormed) {text : List Char} {i j : Nat}
    (h : r.Spans text i j) (hi : i ≤ text.length) : i ≤ j ∧ j ≤ text.length :=
  have ht := Scan.tracks_ends text r hr
  ⟨ht.le i j h, Nat.le_of_lt_succ (ht.lt i j h (Nat.lt_succ_of_le hi))⟩

/-- A text matches if the expression spans some part of it. -/
theorem isMatch_iff {r : Regex} (hr : r.WellFormed) (text : List Char) :
    r.isMatch text = true ↔ ∃ i j, i ≤ text.length ∧ r.Spans text i j := by
  have ht := Scan.tracks_ends text r hr
  have hall : Scan.Within (text.length + 1) (allPositions text) := by
    intro i hi
    simpa [testBit_allPositions] using hi
  unfold isMatch
  rw [bne_iff_ne]
  constructor
  · intro hne
    obtain ⟨j, hj⟩ := Nat.exists_testBit_of_ne_zero hne
    obtain ⟨i, hi, hij⟩ := (ht.testBit_iff hall).1 hj
    exact ⟨i, j, Nat.le_of_lt_succ (hall i hi), hij⟩
  · rintro ⟨i, j, hi, hij⟩ hzero
    have hj := (ht.testBit_iff hall (j := j)).2 ⟨i, ?_, hij⟩
    · rw [hzero] at hj
      simp at hj
    · rw [testBit_allPositions, decide_eq_true_eq]
      exact Nat.lt_succ_of_le hi

end Regex

end ExpiringCache
