import ExpiringCache.Unicode.CaseMates

/-!
# Sets of characters

The sets that a regular expression can name, built from ranges and tables by complement, union,
intersection and closure under case. `contains` decides membership point by point, so each
operation means what it says.
-/

namespace ExpiringCache

/-- A set of characters. -/
inductive CharSet where
  | none
  | range (lo hi : Char)
  | table (t : Unicode.RangeTable)
  | compl (s : CharSet)
  | union (s t : CharSet)
  | inter (s t : CharSet)
  | anyCase (s : CharSet)
  | anyAsciiCase (s : CharSet)
  deriving DecidableEq, Repr

namespace CharSet

/-- An ASCII letter in its other case; any other character as it is. -/
def otherAsciiCase (c : Char) : Char :=
  if c.isUpper then c.toLower else if c.isLower then c.toUpper else c

/-- Whether a character is in the set. -/
def contains : CharSet → Char → Bool
  | none, _ => false
  | range lo hi, c => decide (lo ≤ c) && decide (c ≤ hi)
  | table t, c => t.contains c
  | compl s, c => ! s.contains c
  | union s t, c => s.contains c || t.contains c
  | inter s t, c => s.contains c && t.contains c
  | anyCase s, c => s.contains c || (Unicode.caseMates c).any s.contains
  | anyAsciiCase s, c => s.contains c || s.contains (otherAsciiCase c)

/-- The set of one character. -/
def single (c : Char) : CharSet := range c c

/-- The set of all characters. -/
def all : CharSet := compl none

/-- What is in the first set and not in the second. -/
def diff (s t : CharSet) : CharSet := inter s (compl t)

/-- What is in one of two sets and not in the other. -/
def symmDiff (s t : CharSet) : CharSet := union (diff s t) (diff t s)

/-- The characters in any of some sets. -/
def unionAll : List CharSet → CharSet
  | [] => none
  | [s] => s
  | s :: rest => union s (unionAll rest)

/-- Whether the way a set is built shows it closed under case. -/
def isCaseClosed : CharSet → Bool
  | none => true
  | range _ _ => false
  | table _ => false
  | compl s => s.isCaseClosed
  | union s t => s.isCaseClosed && t.isCaseClosed
  | inter s t => s.isCaseClosed && t.isCaseClosed
  | anyCase _ => true
  | anyAsciiCase _ => false

/-- The characters that differ from one of the set in case at most. Closed parts are left as they
are, so that closing again and again costs nothing. -/
def closeCase : CharSet → CharSet
  | none => none
  | range lo hi => anyCase (range lo hi)
  | table t => anyCase (table t)
  | compl s => if s.isCaseClosed then compl s else anyCase (compl s)
  | union s t => union s.closeCase t.closeCase
  | inter s t =>
    if s.isCaseClosed && t.isCaseClosed then inter s t else anyCase (inter s t)
  | anyCase s => anyCase s
  | anyAsciiCase s => anyCase (anyAsciiCase s)

/-- Whether the way a set is built shows it closed under the case of ASCII letters. -/
def isAsciiCaseClosed : CharSet → Bool
  | none => true
  | range _ _ => false
  | table _ => false
  | compl s => s.isAsciiCaseClosed
  | union s t => s.isAsciiCaseClosed && t.isAsciiCaseClosed
  | inter s t => s.isAsciiCaseClosed && t.isAsciiCaseClosed
  | anyCase _ => false
  | anyAsciiCase _ => true

/-- The characters that differ from one of the set in the case of an ASCII letter at most. -/
def closeAsciiCase : CharSet → CharSet
  | none => none
  | range lo hi => anyAsciiCase (range lo hi)
  | table t => anyAsciiCase (table t)
  | compl s => if s.isAsciiCaseClosed then compl s else anyAsciiCase (compl s)
  | union s t => union s.closeAsciiCase t.closeAsciiCase
  | inter s t =>
    if s.isAsciiCaseClosed && t.isAsciiCaseClosed then inter s t else anyAsciiCase (inter s t)
  | anyCase s => anyAsciiCase (anyCase s)
  | anyAsciiCase s => anyAsciiCase s

end CharSet

end ExpiringCache
