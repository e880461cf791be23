/-!
# Tables of code points

A set of code points as an array of ranges in increasing order, written as hexadecimal text and
searched by halving.
-/

namespace ExpiringCache.Unicode

/-- The value of a hexadecimal digit; zero for any other character. -/
def hexDigitValue (c : Char) : Nat :=
  if c.isDigit then c.toNat - '0'.toNat
  else if 'a' ≤ c ∧ c ≤ 'f' then c.toNat - 'a'.toNat + 10
  else if 'A' ≤ c ∧ c ≤ 'F' then c.toNat - 'A'.toNat + 10
  else 0

/-- The value of a string of hexadecimal digits. -/
def hexValue (digits : List Char) : Nat := digits.foldl (fun n c => n * 16 + hexDigitValue c) 0

/-- Ranges of code points, both ends included, in increasing order and apart from each other. -/
structure RangeTable where
  ranges : Array (Nat × Nat)
  deriving DecidableEq, Repr

namespace RangeTable

/-- The ranges that a line lists, a single code point standing for itself, after the first end of
a range, if there is one, and some digits of a code point have been read. -/
def readRanges (first : Option Nat) (n : Nat) : List Char → List (Nat × Nat)
  | [] => [(first.getD n, n)]
  | c :: rest =>
    if c = ' ' then (first.getD n, n) :: readRanges none 0 rest
    else if c = '-' then readRanges (some n) 0 rest
    else readRanges first (n * 16 + hexDigitValue c) rest

/-- The ranges that some lines list. -/
def ofLines (lines : List String) : RangeTable :=
  ⟨(lines.flatMap fun line => readRanges none 0 line.toList).toArray⟩

/-- Whether a code point is in a range that stands between two places. -/
def containsBetween (ranges : Array (Nat × Nat)) (c lo hi : Nat) : Bool :=
  if lo < hi then
    let mid := (lo + hi) / 2
    match ranges[mid]? with
    | none => false
    | some (first, last) =>
      if c < first then containsBetween ranges c lo mid
      else if last < c then containsBetween ranges c (mid + 1) hi
      else true
  else false
termination_by hi - lo

/-- Whether a character is in one of the ranges. -/
def contains (t : RangeTable) (c : Char) : Bool :=
  containsBetween t.ranges c.toNat 0 t.ranges.size

end RangeTable

end ExpiringCache.Unicode
