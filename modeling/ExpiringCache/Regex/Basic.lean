import ExpiringCache.CharSet
import ExpiringCache.Unicode.Property

/-!
# Regular expressions

A regular expression after its flags are applied, and which parts of a text it spans: `Spans`
says it for any two positions, where position `i` stands before the character with index `i`.
-/

namespace ExpiringCache

/-- What can be asked of a position, by the characters before and after it. -/
inductive Look where
  | textStart
  | textEnd
  | lineStart (crlf : Bool)
  | lineEnd (crlf : Bool)
  | wordBoundary (unicode : Bool)
  | notWordBoundary (unicode : Bool)
  | wordStart (unicode : Bool)
  | wordEnd (unicode : Bool)
  | wordStartHalf (unicode : Bool)
  | wordEndHalf (unicode : Bool)
  deriving DecidableEq, Repr

/-- Whether a character belongs to a word, among all characters or among those of ASCII. -/
def isWordChar (unicode : Bool) (c : Char) : Bool :=
  if unicode then Unicode.wordSet.contains c else c.isAlphanum || c == '_'

namespace Look

/-- Whether a position between two characters is as asked; at either end of the text there is no
character. -/
def holds (l : Look) (before after : Option Char) : Bool :=
  match l with
  | textStart => before.isNone
  | textEnd => after.isNone
  | lineStart false => before.isNone || before == some '\n'
  | lineEnd false => after.isNone || after == some '\n'
  | lineStart true =>
    before.isNone || before == some '\n' || (before == some '\r' && after != some '\n')
  | lineEnd true =>
    after.isNone || after == some '\r' || (after == some '\n' && before != some '\r')
  | wordBoundary u => before.any (isWordChar u) != after.any (isWordChar u)
  | notWordBoundary u => before.any (isWordChar u) == after.any (isWordChar u)
  | wordStart u => ! before.any (isWordChar u) && after.any (isWordChar u)
  | wordEnd u => before.any (isWordChar u) && ! after.any (isWordChar u)
  | wordStartHalf u => ! before.any (isWordChar u)
  | wordEndHalf u => ! after.any (isWordChar u)

/-- Whether a position of a text is as asked. -/
def holdsAt (l : Look) (text : List Char) (i : Nat) : Bool :=
  l.holds (if i = 0 then none else text[i - 1]?) text[i]?

end Look

/-- A regular expression. A class says whether Unicode is on for it, a repetition whether it takes
as much as it can. What stands in parentheses is a group, so that choices and sequences nest as
they are written. -/
inductive Regex where
  | empty
  | look (l : Look)
  | oneOf (unicode : Bool) (s : CharSet)
  | seq (a b : Regex)
  | alt (a b : Regex)
  | group (body : Regex)
  | capture (body : Regex)
  | rep (body : Regex) (min : Nat) (max : Option Nat) (greedy : Bool)
  deriving DecidableEq, Repr

namespace Regex

/-- So many steps from one position to another. -/
def Steps (step : Nat → Nat → Prop) : Nat → Nat → Nat → Prop
  | 0, i, j => i = j
  | n + 1, i, j => ∃ k, step i k ∧ Steps step n k j

/-- Whether an expression matches the part of a text from one position to another. -/
def Spans (text : List Char) : Regex → Nat → Nat → Prop
  | empty, i, j => i = j
  | look l, i, j => i = j ∧ l.holdsAt text i = true
  | oneOf _ s, i, j => j = i + 1 ∧ ∃ c, text[i]? = some c ∧ s.contains c = true
  | seq a b, i, j => ∃ k, a.Spans text i k ∧ b.Spans text k j
  | alt a b, i, j => a.Spans text i j ∨ b.Spans text i j
  | group a, i, j => a.Spans text i j
  | capture a, i, j => a.Spans text i j
  | rep a min max _, i, j =>
    ∃ n, min ≤ n ∧ (∀ most, max = some most → n ≤ most) ∧ Steps (a.Spans text) n i j

/-- The most characters that an expression can span, if there is a bound and it can span any. -/
def maxLength : Regex → Option Nat
  | empty => some 0
  | look _ => some 0
  | oneOf _ _ => some 1
  | seq a b =>
    match a.maxLength, b.maxLength with
    | some m, some n => some (m + n)
    | _, _ => none
  | alt a b =>
    match a.maxLength, b.maxLength with
    | some m, some n => some (max m n)
    | _, _ => none
  | group a => a.maxLength
  | capture a => a.maxLength
  | rep a _ most _ =>
    match a.maxLength, most with
    | some m, some n => some (m * n)
    | _, _ => none

/-- A repetition. What spans only empty parts is repeated once at most, and what is repeated not
at all or exactly once needs no repetition. -/
def repeated (body : Regex) (min : Nat) (max : Option Nat) (greedy : Bool) : Regex :=
  let (min, max) :=
    if body.maxLength = some 0 then (Nat.min min 1, some (Nat.min (max.getD 1) 1))
    else (min, max)
  if min = 0 ∧ max = some 0 then empty
  else if min = 1 ∧ max = some 1 then body
  else rep body min max greedy

end Regex

end ExpiringCache
