/-!
# UTF-8

The bytes of a code point, and those of all the code points of a range: sequences of ranges of
bytes, in order, each of which stands for all the ways to choose a byte from every range.
-/

namespace ExpiringCache.Unicode

/-- The bytes of a code point. -/
def encode (n : Nat) : List Nat :=
  if n < 0x80 then [n]
  else if n < 0x800 then [0xc0 + n / 64, 0x80 + n % 64]
  else if n < 0x10000 then [0xe0 + n / 4096, 0x80 + n / 64 % 64, 0x80 + n % 64]
  else [0xf0 + n / 262144, 0x80 + n / 4096 % 64, 0x80 + n / 64 % 64, 0x80 + n % 64]

/-- Ranges of bytes one after another. -/
abbrev ByteRanges := List (Nat × Nat)

/-- The first place where a range has to be cut, so that the encodings of each part are all the
combinations of ranges of bytes: where encodings get longer, and where the leading bytes change
though the trailing ones do not run over all values. -/
def cutPlace? (lo hi : Nat) : Option Nat :=
  match [0x7f, 0x7ff, 0xffff].find? fun m => decide (lo ≤ m) && decide (m < hi) with
  | some m => some (m + 1)
  | none =>
    if hi < 0x80 then none
    else
      [64, 4096, 262144].findSome? fun m =>
        if lo / m = hi / m then none
        else if lo % m ≠ 0 then some ((lo / m + 1) * m)
        else if hi % m ≠ m - 1 then some (hi / m * m)
        else none

/-- The encodings of a range, cut at most so many times. -/
def rangeEncodings : Nat → Nat → Nat → List ByteRanges
  | 0, _, _ => []
  | fuel + 1, lo, hi =>
    match cutPlace? lo hi with
    | some m => rangeEncodings fuel lo (m - 1) ++ rangeEncodings fuel m hi
    | none => [(encode lo).zip (encode hi)]

/-- The encodings of some ranges. None of them is cut more than a dozen times in a row. -/
def encodings (ranges : List (Nat × Nat)) : List ByteRanges :=
  ranges.flatMap fun (lo, hi) => rangeEncodings 64 lo hi

end ExpiringCache.Unicode
