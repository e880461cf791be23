import ExpiringCache.Lifetime
import Mathlib.Tactic.SplitIfs

/-!
# The grammar of durations

Which durations a text denotes, said without cutting it from the left: a sign that may be absent,
and after it `0` or numbers with their units, one after another to the end. A number ends where
its unit starts and a unit where the next number does, so a text has one cut into groups
(`Group.read?_eq_some_iff`, `Spells.unique`). The steps of the sum are checked one by one against
128 bits, and the total after each group; since nothing is ever subtracted, the only check that
counts is that of the final total (`sumGroups_eq_some_iff`).
-/

namespace ExpiringCache

/-- The symbols that a unit is written as. -/
def TimeUnit.symbols : TimeUnit → List (List Char)
  | nanosecond => [['n', 's']]
  | microsecond => [['u', 's'], ['\u00b5', 's'], ['\u03bc', 's']]
  | millisecond => [['m', 's']]
  | second => [['s']]
  | minute => [['m']]
  | hour => [['h']]

namespace Ttl

/-- A decimal number: the text, its digits before the point, and those after it. The point may be
absent, and so may the digits on one side of it. -/
inductive IsNumber : List Char → List Char → List Char → Prop where
  | whole {digits : List Char} (hdigits : ∀ c ∈ digits, c.isDigit) (hne : digits ≠ []) :
    IsNumber digits digits []
  | decimal {whole fraction : List Char} (hwhole : ∀ c ∈ whole, c.isDigit)
    (hfraction : ∀ c ∈ fraction, c.isDigit) (hne : whole ≠ [] ∨ fraction ≠ []) :
    IsNumber (whole ++ '.' :: fraction) whole fraction

/-- The groups that a text spells. -/
inductive Spells : List Char → List Group → Prop where
  | nil : Spells [] []
  | cons {number symbol rest : List Char} {g : Group} {groups : List Group}
    (hnumber : IsNumber number g.whole g.fraction) (hsymbol : symbol ∈ g.unit.symbols)
    (hgroups : Spells rest groups) : Spells (number ++ (symbol ++ rest)) (g :: groups)

/-- The length of a group in nanoseconds: the part before the point in full, and of the part
after it, up to eighteen digits long, the whole nanoseconds. -/
def Group.exactNanos (g : Group) : Nat :=
  digitsValue g.whole * g.unit.nanos +
    digitsValue (g.fraction.take 18) * g.unit.nanos / Nat.pow 10 (min 18 g.fraction.length)

/-- The length of all groups together. -/
def totalNanos : List Group → Nat
  | [] => 0
  | g :: groups => g.exactNanos + totalNanos groups

/-- The lengths of time that a text without a sign stands for, in nanoseconds. -/
inductive IsMagnitude : List Char → Nat → Prop where
  | zero : IsMagnitude ['0'] 0
  | groups {text : List Char} {groups : List Group} (hspells : Spells text groups)
    (hne : groups ≠ []) (hle : totalNanos groups ≤ maxNanos) :
    IsMagnitude text (totalNanos groups)

/-- The durations that a text denotes. Zero keeps its sign. -/
inductive Denotes : List Char → SignedDuration → Prop where
  | minus {text : List Char} {nanos : Nat} (h : IsMagnitude text nanos) :
    Denotes ('-' :: text) ⟨true, nanos⟩
  | plus {text : List Char} {nanos : Nat} (h : IsMagnitude text nanos) :
    Denotes ('+' :: text) ⟨false, nanos⟩
  | unsigned {text : List Char} {nanos : Nat} (h : IsMagnitude text nanos) :
    Denotes text ⟨false, nanos⟩

end Ttl

section Units

variable {symbol : List Char} {unit : TimeUnit}

theorem TimeUnit.ofSymbol?_eq_some_iff : ofSymbol? symbol = some unit ↔ symbol ∈ unit.symbols := by
  constructor
  · intro h
    unfold ofSymbol? at h
    split at h <;> cases h <;> simp [symbols]
  · intro h
    cases unit <;> simp only [symbols, List.mem_cons, List.not_mem_nil, or_false] at h
    case microsecond => rcases h with rfl | rfl | rfl <;> rfl
    all_goals exact h ▸ rfl

/-- A symbol holds no character that a number starts with. -/
theorem TimeUnit.startsNumber_of_mem_symbols (h : symbol ∈ unit.symbols) :
    symbol ≠ [] ∧ ∀ c ∈ symbol, Ttl.startsNumber c = false := by
  cases unit <;> simp only [symbols, List.mem_cons, List.not_mem_nil, or_false] at h
  case microsecond => rcases h with rfl | rfl | rfl <;> simp [Ttl.startsNumber, Char.isDigit]
  all_goals simp [h, Ttl.startsNumber, Char.isDigit]

theorem TimeUnit.nanos_pos (unit : TimeUnit) : 0 < unit.nanos := by
  cases unit <;> decide

end Units

namespace Ttl

section Cuts

variable {text rest after number symbol whole fraction : List Char} {g : Group}

/-- The cut of a text at the first character that fails a test is the only one with characters
that pass before it and one that fails, or none, right after it. -/
theorem takeWhile_dropWhile_iff {p : Char → Bool} {front : List Char} :
    (text.takeWhile p = front ∧ text.dropWhile p = rest) ↔
      text = front ++ rest ∧ (∀ c ∈ front, p c = true) ∧ ∀ c ∈ rest.head?, p c = false := by
  constructor
  · rintro ⟨rfl, rfl⟩
    refine ⟨List.takeWhile_append_dropWhile.symm, fun c hc => ?_, fun c hc => ?_⟩
    · exact List.all_eq_true.1 List.all_takeWhile c hc
    · have hstop := List.head?_dropWhile_not p text
      rw [Option.mem_def.1 hc] at hstop
      simpa using hstop
  · rintro ⟨rfl, hfront, hrest⟩
    rw [List.takeWhile_append_of_pos hfront, List.dropWhile_append_of_pos hfront]
    cases rest with
    | nil => simp
    | cons c rest => simp [hrest c rfl]

theorem isDigit_eq_false {c : Char} (h : startsNumber c = false) : c.isDigit = false := by
  simp only [startsNumber, Bool.or_eq_false_iff] at h
  exact h.2

/-- What is cut off as a number is one, as soon as it has a digit. -/
theorem exists_isNumber (hwhole : text.takeWhile Char.isDigit = whole)
    (hsplit : splitFraction (text.dropWhile Char.isDigit) = (fraction, after))
    (hne : whole ≠ [] ∨ fraction ≠ []) :
    ∃ number, text = number ++ after ∧ IsNumber number whole fraction := by
  obtain ⟨htext, hdigits, -⟩ := takeWhile_dropWhile_iff.1 ⟨hwhole, rfl⟩
  unfold splitFraction at hsplit
  split at hsplit
  · rename_i afterPoint hpoint
    simp only [Prod.mk.injEq] at hsplit
    obtain ⟨hafter, hfraction, -⟩ := takeWhile_dropWhile_iff.1 hsplit
    refine ⟨whole ++ '.' :: fraction, ?_, .decimal hdigits hfraction hne⟩
    rw [htext, hpoint, hafter]
    simp
  · simp only [Prod.mk.injEq] at hsplit
    obtain ⟨rfl, rfl⟩ := hsplit
    exact ⟨whole, htext, .whole hdigits (by simpa using hne)⟩

theorem splitFraction_of_ne_point (h : ∀ c ∈ text.head?, c ≠ '.') :
    splitFraction text = ([], text) := by
  unfold splitFraction
  split
  · exact absurd rfl (h '.' rfl)
  · rfl

/-- A number is cut off as it is written if no digit and no point follows. -/
theorem IsNumber.cut (h : IsNumber number whole fraction)
    (hafter : ∀ c ∈ after.head?, startsNumber c = false) :
    (number ++ after).takeWhile Char.isDigit = whole ∧
      splitFraction ((number ++ after).dropWhile Char.isDigit) = (fraction, after) := by
  have hdigit : ∀ c ∈ after.head?, c.isDigit = false := fun c hc => isDigit_eq_false (hafter c hc)
  cases h with
  | whole hdigits hne =>
    obtain ⟨htake, hdrop⟩ := takeWhile_dropWhile_iff.2 ⟨rfl, hdigits, hdigit⟩
    refine ⟨htake, ?_⟩
    rw [hdrop]
    refine splitFraction_of_ne_point ?_
    rintro c hc rfl
    simpa [startsNumber] using hafter '.' hc
  | decimal hwhole hfraction hne =>
    have htext : whole ++ '.' :: fraction ++ after = whole ++ '.' :: (fraction ++ after) := by simp
    obtain ⟨htake, hdrop⟩ := takeWhile_dropWhile_iff.2 ⟨htext, hwhole, by simp⟩
    obtain ⟨hfront, hback⟩ := takeWhile_dropWhile_iff.2 ⟨rfl, hfraction, hdigit⟩
    refine ⟨htake, ?_⟩
    rw [hdrop]
    simp [splitFraction, hfront, hback]

theorem IsNumber.ne_nil (h : IsNumber number whole fraction) : whole ≠ [] ∨ fraction ≠ [] := by
  cases h with
  | whole _ hne => exact .inl hne
  | decimal _ _ hne => exact hne

theorem IsNumber.isDigit_of_mem_fraction {c : Char} (h : IsNumber number whole fraction)
    (hc : c ∈ fraction) : c.isDigit := by
  cases h with
  | whole => simp at hc
  | decimal _ hfraction _ => exact hfraction c hc

theorem IsNumber.exists_cons (h : IsNumber number whole fraction) :
    ∃ c rest, number = c :: rest ∧ startsNumber c = true := by
  cases h with
  | whole hdigits hne =>
    obtain ⟨c, rest, rfl⟩ := List.exists_cons_of_ne_nil hne
    exact ⟨c, rest, rfl, by simp [startsNumber, hdigits c]⟩
  | decimal hwhole hfraction hne =>
    cases whole with
    | nil => exact ⟨'.', fraction, rfl, rfl⟩
    | cons c whole => exact ⟨c, _, rfl, by simp [startsNumber, hwhole c]⟩

theorem head?_symbol_append (rest : List Char) (h : symbol ∈ g.unit.symbols) :
    ∀ c ∈ (symbol ++ rest).head?, startsNumber c = false := by
  obtain ⟨hne, hsymbol⟩ := TimeUnit.startsNumber_of_mem_symbols h
  obtain ⟨c, symbol, rfl⟩ := List.exists_cons_of_ne_nil hne
  simp [hsymbol c]

/-- The group that is cut off a text is a number and the symbol of its unit, with the start of
the next number, or nothing, right after it. -/
theorem Group.read?_eq_some_iff :
    Group.read? text = some (g, rest) ↔
      ∃ number symbol, text = number ++ (symbol ++ rest) ∧
        IsNumber number g.whole g.fraction ∧ symbol ∈ g.unit.symbols ∧
        ∀ c ∈ rest.head?, startsNumber c = true := by
  unfold Group.read?
  constructor
  · intro h
    rcases hsplit : splitFraction (text.dropWhile Char.isDigit) with ⟨fraction, after⟩
    simp only [hsplit] at h
    split at h
    · simp at h
    · rename_i hdigits
      obtain ⟨unit, hunit, heq⟩ := Option.map_eq_some_iff.1 h
      cases heq
      have hne : text.takeWhile Char.isDigit ≠ [] ∨ fraction ≠ [] := by
        simpa [Classical.or_iff_not_imp_left] using hdigits
      obtain ⟨number, htext, hnumber⟩ := exists_isNumber rfl hsplit hne
      obtain ⟨hafter, -, hrest⟩ := takeWhile_dropWhile_iff.1
        ⟨rfl, (rfl : after.dropWhile (! startsNumber ·) = _)⟩
      refine ⟨number, after.takeWhile (! startsNumber ·), ?_, hnumber,
        TimeUnit.ofSymbol?_eq_some_iff.1 hunit, by simpa using hrest⟩
      rw [← hafter]
      exact htext
  · rintro ⟨number, symbol, rfl, hnumber, hsymbol, hrest⟩
    obtain ⟨hwhole, hsplit⟩ := hnumber.cut (head?_symbol_append rest hsymbol)
    have hstop := (TimeUnit.startsNumber_of_mem_symbols hsymbol).2
    obtain ⟨htake, hdrop⟩ := (takeWhile_dropWhile_iff (p := (! startsNumber ·))).2
      ⟨rfl, by simpa using hstop, by simpa using hrest⟩
    simp only [hwhole, hsplit, htake, hdrop, TimeUnit.ofSymbol?_eq_some_iff.2 hsymbol]
    rw [if_neg]
    · rfl
    · simpa [Classical.or_iff_not_imp_left] using hnumber.ne_nil

theorem Spells.head? {groups : List Group} (h : Spells text groups) :
    ∀ c ∈ text.head?, startsNumber c = true := by
  cases h with
  | nil => simp
  | cons hnumber _ _ =>
    obtain ⟨c, more, rfl, hc⟩ := hnumber.exists_cons
    simpa using hc

theorem spells_nil_iff : Spells text [] ↔ text = [] := by
  constructor
  · intro h
    cases h
    rfl
  · rintro rfl
    exact .nil

/-- Groups are spelled if and only if the first is the one cut off and the rest spells the
others. -/
theorem spells_cons_iff {groups : List Group} :
    Spells text (g :: groups) ↔ ∃ rest, Group.read? text = some (g, rest) ∧ Spells rest groups := by
  constructor
  · intro h
    cases h with
    | cons hnumber hsymbol hgroups =>
      exact ⟨_, Group.read?_eq_some_iff.2 ⟨_, _, rfl, hnumber, hsymbol, hgroups.head?⟩, hgroups⟩
  · rintro ⟨rest, hread, hgroups⟩
    obtain ⟨number, symbol, rfl, hnumber, hsymbol, -⟩ := Group.read?_eq_some_iff.1 hread
    exact .cons hnumber hsymbol hgroups

theorem Spells.ne_nil {groups : List Group} (h : Spells text (g :: groups)) : text ≠ [] := by
  rintro rfl
  obtain ⟨rest, hread, -⟩ := spells_cons_iff.1 h
  cases hread

/-- A text has one cut into groups. -/
theorem Spells.unique {groups groups' : List Group} (h : Spells text groups)
    (h' : Spells text groups') : groups = groups' := by
  induction groups generalizing text groups' with
  | nil =>
    cases groups' with
    | nil => rfl
    | cons g' groups' => exact absurd (spells_nil_iff.1 h) h'.ne_nil
  | cons g groups ih =>
    obtain ⟨rest, hread, hgroups⟩ := spells_cons_iff.1 h
    cases groups' with
    | nil => exact absurd (spells_nil_iff.1 h') h.ne_nil
    | cons g' groups' =>
      obtain ⟨rest', hread', hgroups'⟩ := spells_cons_iff.1 h'
      rw [hread] at hread'
      simp only [Option.some.injEq, Prod.mk.injEq] at hread'
      obtain ⟨rfl, rfl⟩ := hread'
      rw [ih hgroups hgroups']

end Cuts

section Sums

variable {n total : Nat} {text : List Char} {g : Group}

theorem word128?_eq_some_iff {m : Nat} : word128? n = some m ↔ n = m ∧ n < word128Bound := by
  unfold word128?
  split_ifs with h <;> simp [h]

theorem maxNanos_lt_word128Bound : maxNanos < word128Bound := by decide

theorem Group.exactNanos_eq (g : Group) :
    g.exactNanos = digitsValue g.whole * g.unit.nanos + g.fractionNanos := by
  simp [exactNanos, fractionNanos, keptFraction, maxFractionDigits]

theorem foldl_digits_lt {digits : List Char} (h : ∀ c ∈ digits, c.isDigit) (n : Nat) :
    digits.foldl (fun n c => n * 10 + (c.toNat - '0'.toNat)) n
      < (n + 1) * Nat.pow 10 digits.length := by
  induction digits generalizing n with
  | nil => simp
  | cons c digits ih =>
    have hdigit : c.toNat - '0'.toNat ≤ 9 := by
      have hc := h c (by simp)
      simp only [Char.isDigit, Bool.and_eq_true, decide_eq_true_eq] at hc
      have htop : c.toNat ≤ '9'.toNat := UInt32.le_iff_toNat_le.1 hc.2
      simp only [Char.reduceToNat] at htop ⊢
      omega
    calc (c :: digits).foldl (fun n c => n * 10 + (c.toNat - '0'.toNat)) n
        < (n * 10 + (c.toNat - '0'.toNat) + 1) * Nat.pow 10 digits.length :=
          ih (fun c hc => h c (List.mem_cons_of_mem _ hc)) _
      _ ≤ (n + 1) * 10 * Nat.pow 10 digits.length := Nat.mul_le_mul_right _ (by omega)
      _ = (n + 1) * Nat.pow 10 (c :: digits).length := by
          rw [Nat.mul_assoc, Nat.mul_comm 10]
          rfl

theorem digitsValue_lt {digits : List Char} (h : ∀ c ∈ digits, c.isDigit) :
    digitsValue digits < Nat.pow 10 digits.length := by
  simpa [digitsValue] using foldl_digits_lt h 0

/-- The product of the digits after the point with the unit, the one step of the computation that
is not checked, needs no check. -/
theorem Group.keptFraction_mul_nanos_lt {rest : List Char}
    (h : Group.read? text = some (g, rest)) :
    digitsValue g.keptFraction * g.unit.nanos < word128Bound := by
  obtain ⟨number, symbol, -, hnumber, -⟩ := Group.read?_eq_some_iff.1 h
  have hdigits : ∀ c ∈ g.keptFraction, c.isDigit := fun c hc =>
    hnumber.isDigit_of_mem_fraction (List.mem_of_mem_take hc)
  have hlength : g.keptFraction.length ≤ 18 := List.length_take_le _ _
  have hunit : g.unit.nanos ≤ TimeUnit.hour.nanos := by cases g.unit <;> decide
  calc digitsValue g.keptFraction * g.unit.nanos
      ≤ Nat.pow 10 g.keptFraction.length * TimeUnit.hour.nanos :=
        Nat.mul_le_mul (Nat.le_of_lt (digitsValue_lt hdigits)) hunit
    _ ≤ Nat.pow 10 18 * TimeUnit.hour.nanos :=
        Nat.mul_le_mul_right _ (Nat.pow_le_pow_right (by decide) hlength)
    _ < word128Bound := by decide

/-- The number and its product with the unit are at most the length of the group, so that their
own checks refuse nothing. -/
theorem Group.nanos?_eq_some_iff :
    g.nanos? = some n ↔ g.exactNanos = n ∧ g.exactNanos < word128Bound := by
  have hwhole : digitsValue g.whole ≤ digitsValue g.whole * g.unit.nanos :=
    Nat.le_mul_of_pos_right _ g.unit.nanos_pos
  have hexact := g.exactNanos_eq
  simp only [nanos?, Option.bind_eq_bind, Option.bind_eq_some_iff, word128?_eq_some_iff]
  constructor
  · rintro ⟨_, ⟨rfl, -⟩, _, ⟨rfl, -⟩, hsum⟩
    rwa [hexact]
  · rintro ⟨rfl, hfits⟩
    exact ⟨_, ⟨rfl, by omega⟩, _, ⟨rfl, by omega⟩, by omega, by omega⟩

theorem spells_of_sumGroups (hle : total ≤ maxNanos) (h : sumGroups total text = some n) :
    ∃ groups, Spells text groups ∧ n = total + totalNanos groups ∧ n ≤ maxNanos := by
  fun_induction sumGroups total text with
  | case1 total text hempty =>
    simp only [Option.some.injEq] at h
    rw [List.isEmpty_iff.1 hempty]
    exact ⟨[], .nil, by simp [totalNanos, h], h ▸ hle⟩
  | case2 => simp at h
  | case3 => simp at h
  | case4 => simp at h
  | case5 total text _ g rest hread nanos hnanos sum hsum hsumle ih =>
    obtain ⟨number, symbol, rfl, hnumber, hsymbol, -⟩ := Group.read?_eq_some_iff.1 hread
    obtain ⟨rfl, -⟩ := Group.nanos?_eq_some_iff.1 hnanos
    obtain ⟨rfl, -⟩ := word128?_eq_some_iff.1 hsum
    obtain ⟨groups, hgroups, rfl, hn⟩ := ih hsumle h
    exact ⟨g :: groups, .cons hnumber hsymbol hgroups, by simp only [totalNanos]; omega, hn⟩
  | case6 => simp at h

/-- Every total on the way is at most the final one, which is the only check that counts. -/
theorem Spells.sumGroups {groups : List Group} (h : Spells text groups)
    (hle : total + totalNanos groups ≤ maxNanos) :
    Ttl.sumGroups total text = some (total + totalNanos groups) := by
  induction groups generalizing total text with
  | nil =>
    rw [spells_nil_iff.1 h]
    simp [Ttl.sumGroups, totalNanos]
  | cons g groups ih =>
    have hword := maxNanos_lt_word128Bound
    simp only [totalNanos] at hle ⊢
    obtain ⟨rest, hread, hgroups⟩ := spells_cons_iff.1 h
    have hnanos : g.nanos? = some g.exactNanos := Group.nanos?_eq_some_iff.2 ⟨rfl, by omega⟩
    have hsum : word128? (total + g.exactNanos) = some (total + g.exactNanos) :=
      word128?_eq_some_iff.2 ⟨rfl, by omega⟩
    unfold Ttl.sumGroups
    rw [if_neg]
    · split
      · rename_i hnone
        rw [hread] at hnone
        simp at hnone
      · rename_i hsome
        rw [hread] at hsome
        simp only [Option.some.injEq, Prod.mk.injEq] at hsome
        obtain ⟨rfl, rfl⟩ := hsome
        simp only [hnanos, hsum]
        rw [if_pos (by omega), ih hgroups (by omega), Nat.add_assoc]
    · exact fun hempty => h.ne_nil (List.isEmpty_iff.1 hempty)

/-- The sum of the groups of a text is found if and only if the text spells groups and the final
total is small enough. -/
theorem sumGroups_eq_some_iff (hle : total ≤ maxNanos) :
    sumGroups total text = some n ↔
      ∃ groups, Spells text groups ∧ n = total + totalNanos groups ∧ n ≤ maxNanos := by
  refine ⟨spells_of_sumGroups hle, ?_⟩
  rintro ⟨groups, hspells, rfl, hn⟩
  exact hspells.sumGroups hn

theorem magnitude?_eq_some_iff : magnitude? text = some n ↔ IsMagnitude text n := by
  unfold magnitude?
  constructor
  · intro h
    split_ifs at h with hzero hempty
    · simp only [Option.some.injEq] at h
      exact hzero ▸ h ▸ .zero
    · obtain ⟨groups, hspells, rfl, hn⟩ := (sumGroups_eq_some_iff (Nat.zero_le _)).1 h
      rw [Nat.zero_add] at hn ⊢
      refine .groups hspells ?_ hn
      rintro rfl
      cases hspells
      simp at hempty
  · intro h
    cases h with
    | zero => rfl
    | @groups _ groups hspells hne hle =>
      obtain ⟨g, groups, rfl⟩ := List.exists_cons_of_ne_nil hne
      obtain ⟨rest, hread, -⟩ := spells_cons_iff.1 hspells
      rw [if_neg, if_neg, hspells.sumGroups (by omega), Nat.zero_add]
      · exact fun hempty => hspells.ne_nil (List.isEmpty_iff.1 hempty)
      · rintro rfl
        cases hread

/-- A length of time starts with a digit or a point, never with a sign. -/
theorem IsMagnitude.exists_cons (h : IsMagnitude text n) :
    ∃ c rest, text = c :: rest ∧ startsNumber c = true := by
  cases h with
  | zero => exact ⟨'0', [], rfl, rfl⟩
  | groups hspells hne _ =>
    cases hspells with
    | nil => simp at hne
    | cons hnumber _ _ =>
      obtain ⟨c, more, rfl, hc⟩ := hnumber.exists_cons
      exact ⟨c, _, rfl, hc⟩

end Sums

end Ttl

namespace SignedDuration

open Ttl (Denotes IsMagnitude magnitude?_eq_some_iff)

theorem ofText?_eq_some_iff {text : List Char} {d : SignedDuration} :
    ofText? text = some d ↔ Denotes text d := by
  unfold ofText?
  constructor
  · intro h
    split at h <;> obtain ⟨nanos, hnanos, rfl⟩ := Option.map_eq_some_iff.1 h
    · exact .minus (magnitude?_eq_some_iff.1 hnanos)
    · exact .plus (magnitude?_eq_some_iff.1 hnanos)
    · exact .unsigned (magnitude?_eq_some_iff.1 hnanos)
  · intro h
    cases h with
    | minus h => simp [magnitude?_eq_some_iff.2 h]
    | plus h => simp [magnitude?_eq_some_iff.2 h]
    | unsigned h =>
      obtain ⟨c, rest, rfl, hc⟩ := h.exists_cons
      split
      · rename_i heq
        cases heq
        cases hc
      · rename_i heq
        cases heq
        cases hc
      · simp [magnitude?_eq_some_iff.2 h]

theorem ofSpec_eq_ok_iff {spec : String} {d : SignedDuration} :
    ofSpec spec = .ok d ↔ Denotes spec.toList d := by
  rw [← ofText?_eq_some_iff]
  unfold ofSpec
  cases ofText? spec.toList <;> simp

theorem ofSpec_eq_error_iff {spec : String} {e : CacheError} :
    ofSpec spec = .error e ↔ e = .invalidTtl spec ∧ ∀ d, ¬ Denotes spec.toList d := by
  simp only [← ofText?_eq_some_iff]
  unfold ofSpec
  cases ofText? spec.toList <;> simp [eq_comm]

end SignedDuration

theorem Ttl.Denotes.negative_iff {text : List Char} {d : SignedDuration} (h : Denotes text d) :
    d.negative = true ↔ text.head? = some '-' := by
  cases h with
  | minus => simp
  | plus => simp
  | unsigned h =>
    obtain ⟨c, rest, rfl, hc⟩ := h.exists_cons
    simp only [Bool.false_eq_true, List.head?_cons, Option.some.injEq, false_iff]
    rintro rfl
    cases hc

/-- A text is read as the duration that it denotes by the grammar, whose sums are exact; a text
that denotes none is refused, and the error carries it. The duration is negative if and only if
the text starts with a minus sign, and so also for zero. -/
theorem reading_a_duration_is_exact (spec : String) :
    (∀ d, SignedDuration.ofSpec spec = .ok d ↔ Ttl.Denotes spec.toList d) ∧
      (∀ e, SignedDuration.ofSpec spec = .error e ↔
        e = .invalidTtl spec ∧ ∀ d, ¬ Ttl.Denotes spec.toList d) ∧
      ∀ d, SignedDuration.ofSpec spec = .ok d →
        (d.negative = true ↔ spec.toList.head? = some '-') :=
  ⟨fun _ => SignedDuration.ofSpec_eq_ok_iff, fun _ => SignedDuration.ofSpec_eq_error_iff,
    fun _ h => (SignedDuration.ofSpec_eq_ok_iff.1 h).negative_iff⟩

/-- A minus sign and two groups, the first with leading zeros and a fraction. -/
theorem reading_a_duration_is_exact_two_groups :
    SignedDuration.ofSpec "-00.5m1h" = .ok ⟨true, 3630000000000⟩ ∧
      "-00.5m1h".toList.head? = some '-' := by
  have hspells : Ttl.Spells ['0', '0', '.', '5', 'm', '1', 'h']
      [⟨['0', '0'], ['5'], .minute⟩, ⟨['1'], [], .hour⟩] :=
    Ttl.spells_cons_iff.2 ⟨['1', 'h'], rfl, Ttl.spells_cons_iff.2 ⟨[], rfl, .nil⟩⟩
  have hread := ((reading_a_duration_is_exact "-00.5m1h").1 _).2
    (.minus (.groups hspells (by decide) (by decide)))
  exact ⟨hread, ((reading_a_duration_is_exact "-00.5m1h").2.2 _ hread).1 rfl⟩

end ExpiringCache
