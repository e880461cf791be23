import ExpiringCache.CharSet
import Std.Data.TreeMap

/-!
# The ranges of a set of characters

The code points of a set as ranges in increasing order, apart from each other and free of the code
points that are no characters.
-/

namespace ExpiringCache.CharSet

/-- Ranges of code points, both ends included. -/
abbrev Ranges := List (Nat × Nat)

/-- The greatest code point. -/
def maxCodePoint : Nat := 0x10ffff

/-- A range and sorted ones after it, with those that touch made one. -/
def coalesce (a b : Nat) : Ranges → Ranges
  | [] => [(a, b)]
  | (c, d) :: rest => if c ≤ b + 1 then coalesce a (max b d) rest else (a, b) :: coalesce c d rest

/-- Ranges by where they start. -/
def byStart (r : Ranges) : Std.TreeMap Nat Nat :=
  r.foldl (fun m (a, b) => m.insert a (max b (m.getD a b))) ∅

/-- Ranges in order and apart from each other. -/
def normalize (r : Ranges) : Ranges :=
  match (byStart r).toList with
  | [] => []
  | (a, b) :: rest => coalesce a b rest

/-- The code points from one on that are in none of some sorted ranges. -/
def gapsFrom (first : Nat) : Ranges → Ranges
  | [] => if first ≤ maxCodePoint then [(first, maxCodePoint)] else []
  | (a, b) :: rest =>
    if first < a then (first, a - 1) :: gapsFrom (b + 1) rest else gapsFrom (b + 1) rest

/-- The case mates of what is in some ranges. -/
def mateRanges (holds : Char → Bool) : Ranges :=
  Unicode.caseMatesTable.toList.flatMap fun (c, mates) =>
    if holds (Char.ofNat c) then mates.map fun m => (m, m) else []

/-- The letters whose other ASCII case is in a set. -/
def asciiMateRanges (holds : Char → Bool) : Ranges :=
  ((List.range 128).filter fun n => holds (otherAsciiCase (Char.ofNat n))).map fun n => (n, n)

/-- The ranges of a set, in order and apart from each other. The code points that are no
characters may be among them. -/
def codePointRanges : CharSet → Ranges
  | none => []
  | range lo hi => if lo ≤ hi then [(lo.toNat, hi.toNat)] else []
  | table t => t.ranges.toList
  | compl s => gapsFrom 0 s.codePointRanges
  | union s t => normalize (s.codePointRanges ++ t.codePointRanges)
  | inter s t =>
    gapsFrom 0 (normalize (gapsFrom 0 s.codePointRanges ++ gapsFrom 0 t.codePointRanges))
  | anyCase s => normalize (s.codePointRanges ++ mateRanges s.contains)
  | anyAsciiCase s => normalize (s.codePointRanges ++ asciiMateRanges s.contains)

/-- The part of a range before the surrogates and the part after them. -/
def withoutSurrogates : Nat × Nat → Ranges
  | (lo, hi) =>
    (if lo < 0xd800 then [(lo, min hi 0xd7ff)] else []) ++
      (if 0xdfff < hi then [(max lo 0xe000, hi)] else [])

/-- The ranges of the characters of a set, in order and apart from each other. -/
def ranges (s : CharSet) : Ranges := s.codePointRanges.flatMap withoutSurrogates

end ExpiringCache.CharSet
