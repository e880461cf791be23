import ExpiringCache.Instant

/-!
# Times to live

A time to live is written as an optional sign and one or more groups of a decimal number and a
unit, such as `1h30m` or `-0.5s`; the single digit `0` needs no unit. The text is read group by
group: `Group.read?` cuts one group off the front, `Group.nanos?` is its length in nanoseconds,
and `sumGroups` adds the groups up. Every product and sum is kept within 128 bits, and the total
within the largest signed 64-bit number. The empty text means that nothing ever expires.
-/

namespace ExpiringCache

/-- A unit in which a duration is given. -/
inductive TimeUnit where
  | nanosecond | microsecond | millisecond | second | minute | hour
  deriving DecidableEq, Repr

namespace TimeUnit

/-- The length of a unit in nanoseconds. -/
def nanos : TimeUnit → Nat
  | nanosecond => 1
  | microsecond => 1000
  | millisecond => 1000000
  | second => nanosPerSecond
  | minute => 60 * nanosPerSecond
  | hour => 60 * 60 * nanosPerSecond

/-- The unit that a symbol stands for. Both the micro sign and the Greek letter mu are read. -/
def ofSymbol? : List Char → Option TimeUnit
  | ['n', 's'] => some nanosecond
  | ['u', 's'] => some microsecond
  | ['\u00b5', 's'] => some microsecond
  | ['\u03bc', 's'] => some microsecond
  | ['m', 's'] => some millisecond
  | ['s'] => some second
  | ['m'] => some minute
  | ['h'] => some hour
  | _ => none

end TimeUnit

namespace Ttl

/-- The value of a string of decimal digits. -/
def digitsValue (digits : List Char) : Nat :=
  digits.foldl (fun n c => n * 10 + (c.toNat - '0'.toNat)) 0

/-- One past the largest number of 128 bits. -/
def word128Bound : Nat := 340282366920938463463374607431768211456

/-- A number kept only while 128 bits hold it. -/
def word128? (n : Nat) : Option Nat := if n < word128Bound then some n else none

/-- The largest length of time that can be asked for, in nanoseconds. -/
def maxNanos : Nat := 9223372036854775807

/-- The digits of a fraction that count; later ones are dropped. -/
def maxFractionDigits : Nat := 18

/-- One number with its unit. -/
structure Group where
  whole : List Char
  fraction : List Char
  unit : TimeUnit
  deriving DecidableEq, Repr

/-- Whether a character ends a unit symbol, because it starts the next number. -/
def startsNumber (c : Char) : Bool := c == '.' || c.isDigit

/-- The digits after a decimal point at the front of a text, and what follows them. -/
def splitFraction : List Char → List Char × List Char
  | '.' :: rest => (rest.takeWhile Char.isDigit, rest.dropWhile Char.isDigit)
  | rest => ([], rest)

namespace Group

/-- The group at the front of a text, and the text after it. -/
def read? (text : List Char) : Option (Group × List Char) :=
  let whole := text.takeWhile Char.isDigit
  let (fraction, afterNumber) := splitFraction (text.dropWhile Char.isDigit)
  if whole.isEmpty && fraction.isEmpty then
    none
  else
    let symbol := afterNumber.takeWhile (! startsNumber ·)
    (TimeUnit.ofSymbol? symbol).map fun unit =>
      (⟨whole, fraction, unit⟩, afterNumber.dropWhile (! startsNumber ·))

/-- The digits of the fraction that count. -/
def keptFraction (g : Group) : List Char := g.fraction.take maxFractionDigits

/-- What the fraction adds, in whole nanoseconds. -/
def fractionNanos (g : Group) : Nat :=
  digitsValue g.keptFraction * g.unit.nanos / Nat.pow 10 g.keptFraction.length

/-- The length of the group in nanoseconds, unless a step of its computation leaves 128 bits. -/
def nanos? (g : Group) : Option Nat := do
  let whole ← word128? (digitsValue g.whole)
  let nanos ← word128? (whole * g.unit.nanos)
  word128? (nanos + g.fractionNanos)

end Group

theorem splitFraction_length_le (text : List Char) :
    (splitFraction text).2.length ≤ text.length := by
  unfold splitFraction
  split
  · have := (List.dropWhile_sublist Char.isDigit (l := ‹List Char›)).length_le
    simp only [List.length_cons]
    omega
  · simp

/-- A group takes at least one character off the text, that of its unit. -/
theorem Group.length_lt_of_read? {text rest : List Char} {g : Group}
    (h : Group.read? text = some (g, rest)) : rest.length < text.length := by
  have hd := (List.dropWhile_sublist Char.isDigit (l := text)).length_le
  have hs := splitFraction_length_le (text.dropWhile Char.isDigit)
  simp only [Group.read?] at h
  split at h
  · simp at h
  · obtain ⟨unit, hu, heq⟩ := Option.map_eq_some_iff.1 h
    cases heq
    have hcat := congrArg List.length (List.takeWhile_append_dropWhile
      (p := (! startsNumber ·)) (l := (splitFraction (text.dropWhile Char.isDigit)).2))
    simp only [List.length_append] at hcat
    have hne : 0 < ((splitFraction (text.dropWhile Char.isDigit)).2.takeWhile
        (! startsNumber ·)).length := by
      refine List.length_pos_iff.2 fun hnil => ?_
      rw [hnil] at hu
      simp [TimeUnit.ofSymbol?] at hu
    omega

/-- The groups of a text added to a running total; none if the text does not consist of groups
or the total grows past the largest length of time. -/
def sumGroups (total : Nat) (text : List Char) : Option Nat :=
  if text.isEmpty then
    some total
  else
    match _h : Group.read? text with
    | none => none
    | some (g, rest) =>
      match g.nanos? with
      | none => none
      | some nanos =>
        match word128? (total + nanos) with
        | none => none
        | some sum => if sum ≤ maxNanos then sumGroups sum rest else none
termination_by text.length
decreasing_by exact Group.length_lt_of_read? _h

/-- The length of time after the sign. -/
def magnitude? (text : List Char) : Option Nat :=
  if text = ['0'] then some 0
  else if text.isEmpty then none
  else sumGroups 0 text

end Ttl

/-- The duration that a text denotes, if it denotes one. -/
def SignedDuration.ofText? (text : List Char) : Option SignedDuration :=
  match text with
  | '-' :: rest => (Ttl.magnitude? rest).map (⟨true, ·⟩)
  | '+' :: rest => (Ttl.magnitude? rest).map (⟨false, ·⟩)
  | rest => (Ttl.magnitude? rest).map (⟨false, ·⟩)

end ExpiringCache
