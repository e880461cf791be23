import ExpiringCache.Proofs.DurationGrammar

/-!
# The unchecked steps of reading a duration

The reading of a duration once more, with offsets into UTF-8 bytes and numbers in words of fixed
size. It stops where a step goes wrong that it does not check: a text cut off its character
boundaries, a number too large for its word, a division by zero, a turn that takes nothing off.
None of them does (`inWords_eq`): digits and the symbols of units end where a character does, a
fraction keeps at most eighteen digits, each turn takes off the symbol of a unit, and its total is
at most the largest length of time when the next one starts (`AtHead.total_le`).
-/

namespace ExpiringCache

namespace Ttl

/-- Why a reading ends without a duration. Only a refusal is meant to end one. -/
inductive Stop where
  | refused | badOffset | overflow | zeroDivisor | standstill
  deriving DecidableEq, Repr

def utf8 (text : List Char) : List UInt8 := text.flatMap String.utf8EncodeChar

/-- The parts of a text before and after an offset in bytes, which has to be the boundary of a
character. -/
def cut : List Char → Nat → Except Stop (List Char × List Char)
  | text, 0 => .ok ([], text)
  | [], _ + 1 => .error .badOffset
  | c :: text, n + 1 =>
    if n + 1 < (String.utf8EncodeChar c).length then
      .error .badOffset
    else do
      let (front, back) ← cut text (n + 1 - (String.utf8EncodeChar c).length)
      pure (c :: front, back)

/-- The number of digits among the bytes at the front of a text. -/
def digitBytes (text : List Char) : Nat :=
  ((utf8 text).takeWhile fun b => 48 ≤ b && b ≤ 57).length

/-- The number of bytes before the first character that a number starts with. -/
def symbolBytes (text : List Char) : Nat := (utf8 (text.takeWhile (! startsNumber ·))).length

/-- A step that is checked. -/
def orRefuse {α : Type} : Option α → Except Stop α
  | some a => .ok a
  | none => .error .refused

/-- A number in a word, when nothing checks that it is below the bound of the word. -/
def unchecked (bound n : Nat) : Except Stop Nat := if n < bound then .ok n else .error .overflow

def divide (n divisor : Nat) : Except Stop Nat :=
  if divisor = 0 then .error .zeroDivisor else .ok (n / divisor)

def word64Bound : Nat := 18446744073709551616

def word32Bound : Nat := 4294967296

/-- The digits after a point at the front of a text, and the text after them. -/
def cutFraction : List Char → Except Stop (List Char × List Char)
  | '.' :: afterPoint => cut afterPoint (digitBytes afterPoint)
  | text => .ok ([], text)

def cutGroup (text : List Char) : Except Stop (Group × List Char) := do
  let (whole, afterWhole) ← cut text (digitBytes text)
  let (fraction, afterNumber) ← cutFraction afterWhole
  if whole.isEmpty && fraction.isEmpty then
    .error .refused
  else
    let (symbol, rest) ← cut afterNumber (symbolBytes afterNumber)
    let unit ← orRefuse (TimeUnit.ofSymbol? symbol)
    pure (⟨whole, fraction, unit⟩, rest)

/-- The digits after the point that count, as a number, and the power of ten that they are over. -/
def Group.fractionTerms (g : Group) : Except Stop (Nat × Nat) := do
  let (kept, _) ← cut g.fraction (min (utf8 g.fraction).length maxFractionDigits)
  let value ← orRefuse (word128? (digitsValue kept))
  let exponent ← unchecked word32Bound (utf8 kept).length
  let scale ← unchecked word128Bound (Nat.pow 10 exponent)
  pure (value, scale)

def Group.nanosInWords (g : Group) : Except Stop Nat := do
  let whole ← orRefuse (word128? (digitsValue g.whole))
  let nanos ← orRefuse (word128? (whole * g.unit.nanos))
  if g.fraction.isEmpty then
    pure nanos
  else
    let (value, scale) ← g.fractionTerms
    let product ← unchecked word128Bound (value * g.unit.nanos)
    let quotient ← divide product scale
    orRefuse (word128? (nanos + quotient))

/-- One turn of the loop: the new total and the text that is left. -/
def turn (total : Nat) (text : List Char) : Except Stop (Nat × List Char) := do
  let (g, rest) ← cutGroup text
  let nanos ← g.nanosInWords
  let sum ← orRefuse (word128? (total + nanos))
  if sum ≤ maxNanos then pure (sum, rest) else .error .refused

/-- The loop, which ends with the total in 64 bits. -/
def loop (total : Nat) (text : List Char) : Except Stop Nat :=
  if text.isEmpty then
    unchecked word64Bound total
  else
    match turn total text with
    | .error stop => .error stop
    | .ok (sum, rest) =>
      if (utf8 rest).length < (utf8 text).length then loop sum rest else .error .standstill
termination_by (utf8 text).length

def magnitudeInWords (text : List Char) : Except Stop Nat :=
  if text = ['0'] then .ok 0
  else if text.isEmpty then .error .refused
  else loop 0 text

/-- Whether there is a minus sign, and the text after the sign. -/
def cutSign (text : List Char) : Except Stop (Bool × List Char) :=
  match (utf8 text).head? with
  | some 45 => do
    let (_, rest) ← cut text 1
    pure (true, rest)
  | some 43 => do
    let (_, rest) ← cut text 1
    pure (false, rest)
  | _ => .ok (false, text)

def inWords (text : List Char) : Except Stop SignedDuration := do
  let (negative, rest) ← cutSign text
  let nanos ← magnitudeInWords rest
  pure ⟨negative, nanos⟩

/-- The loop over a text is at the head of a turn, after so many others, with a total and the
text that is left. -/
inductive AtHead (text : List Char) : Nat → Nat → List Char → Prop where
  | start {negative : Bool} {rest : List Char} (hsign : cutSign text = .ok (negative, rest)) :
    AtHead text 0 0 rest
  | next {turns total sum : Nat} {rest more : List Char} (h : AtHead text turns total rest)
    (hne : rest ≠ []) (hturn : turn total rest = .ok (sum, more)) :
    AtHead text (turns + 1) sum more

section Offsets

variable {text front back : List Char}

/-- The first byte of a character is the only one and the character itself, or it is not a byte
that a character of one byte has. -/
theorem exists_utf8EncodeChar_eq_cons (c : Char) :
    ∃ b bytes, String.utf8EncodeChar c = b :: bytes ∧
      (b.toNat = c.toNat ∧ bytes = [] ∨ 128 ≤ b.toNat ∧ 128 ≤ c.toNat) := by
  have hc : c.val.toNat = c.toNat := rfl
  simp only [String.utf8EncodeChar]
  split_ifs <;> refine ⟨_, _, rfl, ?_⟩ <;> simp only [UInt8.toNat_ofNat', and_true] <;> omega

theorem utf8EncodeChar_length_pos (c : Char) : 0 < (String.utf8EncodeChar c).length :=
  List.length_pos_iff.2 String.utf8EncodeChar_ne_nil

theorem utf8_length_cons (c : Char) (text : List Char) :
    (utf8 (c :: text)).length = (String.utf8EncodeChar c).length + (utf8 text).length := by
  rw [utf8, List.flatMap_cons, List.length_append, utf8]

theorem utf8_length_append (front back : List Char) :
    (utf8 (front ++ back)).length = (utf8 front).length + (utf8 back).length := by
  rw [utf8, List.flatMap_append, List.length_append, utf8, utf8]

/-- A text is cut at an offset if and only if as many bytes are before one of its characters, or
before its end. -/
theorem cut_eq_ok_iff {n : Nat} :
    cut text n = .ok (front, back) ↔ text = front ++ back ∧ n = (utf8 front).length := by
  induction text, n using cut.induct generalizing front with
  | case1 text =>
    rcases front with _ | ⟨c, front⟩
    · simp [cut, utf8]
    · have hc := utf8EncodeChar_length_pos c
      simp only [cut, Except.ok.injEq, Prod.mk.injEq, reduceCtorEq, false_and, false_iff,
        utf8_length_cons]
      omega
  | case2 n =>
    simp only [cut, reduceCtorEq, false_iff, List.nil_eq, List.append_eq_nil_iff]
    rintro ⟨⟨rfl, -⟩, hn⟩
    cases hn
  | case3 c text n hlt =>
    simp only [cut, if_pos hlt, reduceCtorEq, false_iff]
    rintro ⟨htext, hn⟩
    rcases front with _ | ⟨c, front⟩
    · cases hn
    · obtain ⟨rfl, rfl⟩ := List.cons.inj htext
      rw [utf8_length_cons] at hn
      omega
  | case4 c text n hlt ih =>
    rw [cut, if_neg hlt]
    constructor
    · intro h
      rcases hcut : cut text (n + 1 - (String.utf8EncodeChar c).length) with stop | ⟨front', back'⟩
      · rw [hcut] at h
        cases h
      · simp only [hcut, bind, Except.bind, pure, Except.pure, Except.ok.injEq, Prod.mk.injEq] at h
        obtain ⟨rfl, rfl⟩ := h
        obtain ⟨rfl, hn⟩ := ih.1 hcut
        refine ⟨rfl, ?_⟩
        rw [utf8_length_cons]
        omega
    · rintro ⟨htext, hn⟩
      rcases front with _ | ⟨c, front⟩
      · cases hn
      · obtain ⟨rfl, rfl⟩ := List.cons.inj htext
        rw [utf8_length_cons] at hn
        rw [ih.2 ⟨rfl, by omega⟩]
        rfl

example : cut ['\u00b5', 's'] 1 = .error .badOffset := rfl

theorem utf8EncodeChar_of_lt {c : Char} (hc : c.toNat < 128) :
    ∃ b, String.utf8EncodeChar c = [b] ∧ b.toNat = c.toNat := by
  obtain ⟨b, bytes, hbytes, hfirst⟩ := exists_utf8EncodeChar_eq_cons c
  rcases hfirst with ⟨hb, rfl⟩ | ⟨-, h⟩
  · exact ⟨b, hbytes, hb⟩
  · omega

theorem lt_of_isDigit {c : Char} (hc : c.isDigit = true) : c.toNat < 128 := by
  simp only [Char.isDigit_iff_toNat, Char.reduceToNat] at hc
  omega

theorem utf8_takeWhile_digit : ∀ text : List Char,
    (utf8 text).takeWhile (fun b => 48 ≤ b && b ≤ 57) = utf8 (text.takeWhile Char.isDigit)
  | [] => rfl
  | c :: text => by
    have ih := utf8_takeWhile_digit text
    have hdigit : ∀ b : UInt8, b.toNat = c.toNat ∨ 128 ≤ b.toNat ∧ 128 ≤ c.toNat →
        (48 ≤ b && b ≤ 57) = c.isDigit := by
      intro b hb
      rw [Bool.eq_iff_iff, Char.isDigit_iff_toNat]
      simp only [Bool.and_eq_true, decide_eq_true_eq, UInt8.le_iff_toNat_le, UInt8.reduceToNat,
        Char.reduceToNat]
      omega
    by_cases hc : c.isDigit
    · obtain ⟨b, hbytes, hb⟩ := utf8EncodeChar_of_lt (lt_of_isDigit hc)
      simp only [utf8, List.flatMap_cons, hbytes, List.singleton_append, List.takeWhile_cons,
        hdigit b (.inl hb), hc, if_true] at ih ⊢
      rw [ih]
    · obtain ⟨b, bytes, hbytes, hfirst⟩ := exists_utf8EncodeChar_eq_cons c
      simp only [utf8, List.flatMap_cons, hbytes, List.cons_append, List.takeWhile_cons,
        hdigit b (hfirst.imp_left And.left), hc]
      rfl

theorem cut_digitBytes (text : List Char) : cut text (digitBytes text) =
    .ok (text.takeWhile Char.isDigit, text.dropWhile Char.isDigit) := by
  unfold digitBytes
  rw [utf8_takeWhile_digit]
  exact cut_eq_ok_iff.2 ⟨List.takeWhile_append_dropWhile.symm, rfl⟩

theorem cut_symbolBytes (text : List Char) : cut text (symbolBytes text) =
    .ok (text.takeWhile (! startsNumber ·), text.dropWhile (! startsNumber ·)) :=
  cut_eq_ok_iff.2 ⟨List.takeWhile_append_dropWhile.symm, rfl⟩

theorem cutFraction_eq (text : List Char) : cutFraction text = .ok (splitFraction text) := by
  fun_cases cutFraction text with
  | case1 afterPoint => rw [cut_digitBytes, splitFraction]
  | case2 text hpoint =>
    rw [splitFraction_of_ne_point]
    rintro c hc rfl
    obtain ⟨rest, rfl⟩ := List.head?_eq_some_iff.1 hc
    exact hpoint rest rfl

theorem cutGroup_eq (text : List Char) : cutGroup text = orRefuse (Group.read? text) := by
  unfold cutGroup Group.read?
  simp only [cut_digitBytes, cutFraction_eq, cut_symbolBytes, bind, Except.bind]
  split
  · rfl
  · cases TimeUnit.ofSymbol? _ <;> rfl

theorem exists_cons_of_head?_utf8 {b : UInt8} {c : Char} (hb : b.toNat = c.toNat)
    (hc : c.toNat < 128) (h : (utf8 text).head? = some b) : ∃ rest, text = c :: rest := by
  rcases text with _ | ⟨d, text⟩
  · cases h
  · obtain ⟨b', bytes, hbytes, hfirst⟩ := exists_utf8EncodeChar_eq_cons d
    simp only [utf8, List.flatMap_cons, hbytes, List.cons_append, List.head?_cons,
      Option.some.injEq] at h
    subst h
    exact ⟨text, by rw [Char.toNat_inj.1 (show d.toNat = c.toNat by omega)]⟩

theorem cut_cons_one {c : Char} (hc : c.toNat < 128) : cut (c :: text) 1 = .ok ([c], text) := by
  obtain ⟨b, hbytes, -⟩ := utf8EncodeChar_of_lt hc
  exact cut_eq_ok_iff.2 ⟨rfl, by rw [utf8_length_cons, hbytes]; rfl⟩

/-- The sign is cut off, and the text after it is what the length of time is read from. -/
theorem exists_cutSign (text : List Char) : ∃ negative rest,
    cutSign text = .ok (negative, rest) ∧ (utf8 rest).length ≤ (utf8 text).length ∧
      SignedDuration.ofText? text = (magnitude? rest).map (⟨negative, ·⟩) := by
  have hshorter : ∀ (c : Char) (rest : List Char),
      (utf8 rest).length ≤ (utf8 (c :: rest)).length := by
    intro c rest
    rw [utf8_length_cons]
    omega
  unfold cutSign
  split
  · rename_i h
    obtain ⟨rest, rfl⟩ := exists_cons_of_head?_utf8 (c := '-') rfl (by decide) h
    exact ⟨true, rest, by rw [cut_cons_one (by decide)]; rfl, hshorter .., rfl⟩
  · rename_i h
    obtain ⟨rest, rfl⟩ := exists_cons_of_head?_utf8 (c := '+') rfl (by decide) h
    exact ⟨false, rest, by rw [cut_cons_one (by decide)]; rfl, hshorter .., rfl⟩
  · rename_i hminus hplus
    refine ⟨false, text, rfl, Nat.le_refl _, ?_⟩
    unfold SignedDuration.ofText?
    split
    · exact absurd rfl hminus
    · exact absurd rfl hplus
    · rfl

end Offsets

section Words

variable {text rest : List Char} {g : Group} {n total sum : Nat} {stop : Stop}

theorem eq_refused_of_orRefuse {α : Type} {a : Option α} (h : orRefuse a = .error stop) :
    stop = .refused := by
  cases a <;> cases h
  rfl

/-- A checked step, and what comes after it when it succeeds. -/
theorem orRefuse_bind {α β : Type} {a : Option α} {f : α → Except Stop β} {f' : α → Option β}
    (h : ∀ x, a = some x → f x = orRefuse (f' x)) : (orRefuse a >>= f) = orRefuse (a.bind f') := by
  cases a with
  | none => rfl
  | some x => exact h x rfl

theorem orRefuse_eq_ok_iff {α : Type} {a : Option α} {x : α} : orRefuse a = .ok x ↔ a = some x := by
  cases a <;> simp [orRefuse]

theorem unchecked_of_lt {bound : Nat} (h : n < bound) : unchecked bound n = .ok n := if_pos h

theorem orRefuse_word128? (h : n < word128Bound) : orRefuse (word128? n) = .ok n := by
  rw [word128?_eq_some_iff.2 ⟨rfl, h⟩]
  rfl

theorem Group.isDigit_of_mem_fraction (h : Group.read? text = some (g, rest)) :
    ∀ c ∈ g.fraction, c.isDigit = true := by
  obtain ⟨number, symbol, -, hnumber, -⟩ := Group.read?_eq_some_iff.1 h
  exact fun c => hnumber.isDigit_of_mem_fraction

theorem utf8_length_digits : ∀ {digits : List Char}, (∀ c ∈ digits, c.isDigit = true) →
    (utf8 digits).length = digits.length
  | [], _ => rfl
  | c :: digits, h => by
    obtain ⟨hc, hdigits⟩ := List.forall_mem_cons.1 h
    obtain ⟨b, hbytes, -⟩ := utf8EncodeChar_of_lt (lt_of_isDigit hc)
    rw [utf8_length_cons, hbytes, utf8_length_digits hdigits]
    exact Nat.add_comm ..

theorem Group.fractionTerms_eq (h : Group.read? text = some (g, rest)) :
    g.fractionTerms = .ok (digitsValue g.keptFraction, Nat.pow 10 g.keptFraction.length) := by
  have hdigits := Group.isDigit_of_mem_fraction h
  have hkept : ∀ c ∈ g.keptFraction, c.isDigit = true := fun c hc =>
    hdigits c (List.mem_of_mem_take hc)
  have hlength : g.keptFraction.length ≤ 18 := List.length_take_le _ _
  have hcut : cut g.fraction (min (utf8 g.fraction).length maxFractionDigits) =
      .ok (g.keptFraction, g.fraction.drop maxFractionDigits) := by
    refine cut_eq_ok_iff.2 ⟨(List.take_append_drop ..).symm, ?_⟩
    rw [utf8_length_digits hdigits, utf8_length_digits hkept, keptFraction, List.length_take,
      Nat.min_comm]
  have hpow : Nat.pow 10 g.keptFraction.length < word128Bound :=
    Nat.lt_of_le_of_lt (Nat.pow_le_pow_right (by decide) hlength) (by decide)
  have hvalue := Nat.lt_trans (digitsValue_lt hkept) hpow
  have hexponent : g.keptFraction.length < word32Bound := Nat.lt_of_le_of_lt hlength (by decide)
  unfold fractionTerms
  simp only [hcut, bind, Except.bind, orRefuse_word128? hvalue, utf8_length_digits hkept,
    unchecked_of_lt hexponent]
  rw [unchecked_of_lt hpow]
  rfl

/-- The product with the digits after the point and its quotient need no check. -/
theorem Group.nanosInWords_eq (h : Group.read? text = some (g, rest)) :
    g.nanosInWords = orRefuse g.nanos? := by
  unfold nanosInWords nanos?
  refine orRefuse_bind fun whole _ => orRefuse_bind fun nanos hnanos => ?_
  -- Without digits after the point nothing is added, and the sum that the other reading tests
  -- is a number that has passed the test.
  by_cases hfraction : g.fraction = []
  · obtain ⟨rfl, hlt⟩ := word128?_eq_some_iff.1 hnanos
    have hnone : g.fractionNanos = 0 := by
      simp [fractionNanos, keptFraction, hfraction, digitsValue]
    rw [if_pos (List.isEmpty_iff.2 hfraction), hnone, Nat.add_zero, orRefuse_word128? hlt]
    rfl
  · have hscale : Nat.pow 10 g.keptFraction.length ≠ 0 :=
      Nat.ne_of_gt (Nat.pow_pos (by decide : 0 < 10))
    rw [if_neg (fun hempty => hfraction (List.isEmpty_iff.1 hempty)), fractionTerms_eq h]
    simp only [bind, Except.bind, unchecked_of_lt (keptFraction_mul_nanos_lt h), divide,
      if_neg hscale]
    rfl

theorem turn_eq (total : Nat) (text : List Char) :
    turn total text = orRefuse ((Group.read? text).bind fun (g, rest) => g.nanos?.bind fun nanos =>
      (word128? (total + nanos)).bind fun sum =>
        if sum ≤ maxNanos then some (sum, rest) else none) := by
  unfold turn
  rw [cutGroup_eq]
  refine orRefuse_bind fun (g, rest) hread => ?_
  simp only [Group.nanosInWords_eq hread]
  refine orRefuse_bind fun nanos _ => orRefuse_bind fun sum _ => ?_
  split_ifs <;> rfl

/-- A turn adds the length of a group, which it takes off the text. -/
theorem turn_eq_ok_iff : turn total text = .ok (sum, rest) ↔
    ∃ g, Group.read? text = some (g, rest) ∧ total + g.exactNanos = sum ∧ sum ≤ maxNanos := by
  have hword := maxNanos_lt_word128Bound
  simp only [turn_eq, orRefuse_eq_ok_iff, Option.bind_eq_some_iff, Prod.exists,
    Group.nanos?_eq_some_iff, word128?_eq_some_iff]
  constructor
  · rintro ⟨g, rest', hread, nanos, ⟨rfl, -⟩, sum', ⟨rfl, -⟩, h⟩
    split_ifs at h with hle
    cases h
    exact ⟨g, hread, rfl, hle⟩
  · rintro ⟨g, hread, rfl, hle⟩
    exact ⟨g, rest, hread, _, ⟨rfl, by omega⟩, _, ⟨rfl, by omega⟩, if_pos hle⟩

theorem utf8_length_lt_of_read? (h : Group.read? text = some (g, rest)) :
    (utf8 rest).length < (utf8 text).length := by
  obtain ⟨number, symbol, rfl, -, hsymbol, -⟩ := Group.read?_eq_some_iff.1 h
  obtain ⟨c, symbol, rfl⟩ :=
    List.exists_cons_of_ne_nil (TimeUnit.startsNumber_of_mem_symbols hsymbol).1
  have hc := utf8EncodeChar_length_pos c
  rw [utf8_length_append, List.cons_append, utf8_length_cons, utf8_length_append]
  omega

theorem loop_eq (hle : total ≤ maxNanos) : loop total text = orRefuse (sumGroups total text) := by
  fun_induction sumGroups total text with
  | case1 total text hempty =>
    rw [loop, if_pos hempty]
    exact unchecked_of_lt (Nat.lt_of_le_of_lt hle (by decide))
  | case5 total text hempty g rest hread nanos hnanos sum hsum hsumle ih =>
    rw [loop, if_neg hempty, turn_eq]
    simp only [hread, hnanos, hsum, Option.bind_some, if_pos hsumle, orRefuse]
    rw [if_pos (utf8_length_lt_of_read? hread), ih hsumle]
    rfl
  -- No group, or a number or a total too large: the turn refuses the text.
  | case2 | case3 | case4 | case6 =>
    rw [loop, if_neg ‹_›, turn_eq]
    simp [*, orRefuse]

theorem magnitudeInWords_eq (text : List Char) :
    magnitudeInWords text = orRefuse (magnitude? text) := by
  unfold magnitudeInWords magnitude?
  split_ifs
  · rfl
  · rfl
  · exact loop_eq (Nat.zero_le _)

/-- No unchecked step goes wrong. -/
theorem inWords_eq (text : List Char) : inWords text = orRefuse (SignedDuration.ofText? text) := by
  obtain ⟨negative, rest, hcut, -, htext⟩ := exists_cutSign text
  unfold inWords
  rw [hcut, htext, Option.map_eq_bind, ← orRefuse_bind fun _ _ => rfl, ← magnitudeInWords_eq]
  rfl

end Words

section Heads

variable {text rest : List Char} {turns total : Nat}

theorem AtHead.total_le (h : AtHead text turns total rest) : total ≤ maxNanos := by
  cases h with
  | start => exact Nat.zero_le _
  | next _ _ hturn =>
    obtain ⟨g, -, -, hle⟩ := turn_eq_ok_iff.1 hturn
    exact hle

/-- Each turn takes bytes off, so there are no more turns than bytes. -/
theorem AtHead.turns_le (h : AtHead text turns total rest) :
    turns + (utf8 rest).length ≤ (utf8 text).length := by
  induction h with
  | start hsign =>
    obtain ⟨negative, rest, hcut, hle, -⟩ := exists_cutSign text
    rw [hsign] at hcut
    cases hcut
    omega
  | next _ _ hturn ih =>
    obtain ⟨g, hread, -, -⟩ := turn_eq_ok_iff.1 hturn
    have hlt := utf8_length_lt_of_read? hread
    omega

/-- The product with the digits after the point stays within 128 bits, and its divisor is a power
of ten up to the eighteenth. -/
theorem exists_fractionTerms {g : Group} (h : Group.read? text = some (g, rest))
    (hfraction : g.fraction ≠ []) :
    ∃ value k, g.fractionTerms = .ok (value, Nat.pow 10 k) ∧ 1 ≤ k ∧ k ≤ 18 ∧
      value * g.unit.nanos < 340282366920938463463374607431768211456 := by
  refine ⟨_, _, Group.fractionTerms_eq h, ?_, List.length_take_le _ _,
    Group.keptFraction_mul_nanos_lt h⟩
  have hpos := List.length_pos_iff.2 hfraction
  simp only [Group.keptFraction, maxFractionDigits, List.length_take]
  omega

end Heads

end Ttl

open Ttl (AtHead cutGroup inWords orRefuse_eq_ok_iff turn turn_eq_ok_iff utf8)

/-- A reading in words ends as the other one does, or refuses the text. At the head of each of its
turns the total is within 63 bits, and there were no more turns than bytes taken off. A turn
fails by a refusal only; the product with the digits after the point is within 128 bits, and its
divisor is one of the first eighteen powers of ten; and if the turn does not fail, it leaves fewer
bytes. -/
theorem reading_a_duration_is_safe (spec : String) :
    (∀ d, inWords spec.toList = .ok d ↔ SignedDuration.ofSpec spec = .ok d) ∧
      (∀ stop, inWords spec.toList = .error stop → stop = .refused) ∧
      ∀ turns total rest, AtHead spec.toList turns total rest →
        total ≤ 9223372036854775807 ∧
        turns + (utf8 rest).length ≤ (utf8 spec.toList).length ∧
        (∀ stop, turn total rest = .error stop → stop = .refused) ∧
        (∀ g more, cutGroup rest = .ok (g, more) → g.fraction ≠ [] →
          ∃ value k, g.fractionTerms = .ok (value, Nat.pow 10 k) ∧ 1 ≤ k ∧ k ≤ 18 ∧
            value * g.unit.nanos < 340282366920938463463374607431768211456) ∧
        ∀ sum more, turn total rest = .ok (sum, more) →
          (utf8 more).length < (utf8 rest).length := by
  refine ⟨fun d => ?_, fun stop h => ?_, fun turns total rest hhead =>
    ⟨hhead.total_le, hhead.turns_le, fun stop h => ?_, fun g more h hfraction => ?_,
      fun sum more h => ?_⟩⟩
  · rw [Ttl.inWords_eq, orRefuse_eq_ok_iff, SignedDuration.ofText?_eq_some_iff,
      SignedDuration.ofSpec_eq_ok_iff]
  · rw [Ttl.inWords_eq] at h
    exact Ttl.eq_refused_of_orRefuse h
  · rw [Ttl.turn_eq] at h
    exact Ttl.eq_refused_of_orRefuse h
  · rw [Ttl.cutGroup_eq, orRefuse_eq_ok_iff] at h
    exact Ttl.exists_fractionTerms h hfraction
  · obtain ⟨g, hread, -, -⟩ := turn_eq_ok_iff.1 h
    exact Ttl.utf8_length_lt_of_read? hread

/-- A group with a fraction, whose unit has a character of two bytes, and after it a turn that is
refused where such a character stands for the unit. -/
theorem reading_a_duration_is_safe_two_turns :
    AtHead "1.5\u00b5s2\u00e9".toList 1 1500 ['2', '\u00e9'] ∧
      (∃ value k, Ttl.Group.fractionTerms ⟨['1'], ['5'], .microsecond⟩ =
        .ok (value, Nat.pow 10 k) ∧ 1 ≤ k ∧ k ≤ 18 ∧
        value * 1000 < 340282366920938463463374607431768211456) ∧
      (utf8 ['2', '\u00e9']).length < (utf8 "1.5\u00b5s2\u00e9".toList).length ∧
      1 + (utf8 ['2', '\u00e9']).length ≤ (utf8 "1.5\u00b5s2\u00e9".toList).length ∧
      turn 1500 ['2', '\u00e9'] = .error .refused := by
  have hfirst : AtHead "1.5\u00b5s2\u00e9".toList 0 0 "1.5\u00b5s2\u00e9".toList := .start rfl
  have hturn : turn 0 "1.5\u00b5s2\u00e9".toList = .ok (1500, ['2', '\u00e9']) :=
    turn_eq_ok_iff.2 ⟨⟨['1'], ['5'], .microsecond⟩, rfl, rfl, by decide⟩
  have hsecond := hfirst.next (by decide) hturn
  obtain ⟨-, -, hsafe⟩ := reading_a_duration_is_safe "1.5\u00b5s2\u00e9"
  obtain ⟨-, -, -, hfraction, hshorter⟩ := hsafe _ _ _ hfirst
  obtain ⟨-, hturns, hstop, -, -⟩ := hsafe _ _ _ hsecond
  refine ⟨hsecond, hfraction _ _ rfl (by decide), hshorter _ _ hturn, hturns, ?_⟩
  rcases h : turn 1500 ['2', '\u00e9'] with stop | next
  · rw [hstop stop h]
  · obtain ⟨sum, rest⟩ := next
    obtain ⟨g, hread, -, -⟩ := turn_eq_ok_iff.1 h
    cases hread

end ExpiringCache
