import ExpiringCache.Regex.Basic

/-!
# Scanning a text

An expression is run on a text by asking, of a whole set of positions at once, where it can end
if it starts at one of them. A set of positions is a number whose bit `i` stands for position
`i`. What an expression asks of single characters and positions is worked out beforehand for all
of the text.
-/

namespace ExpiringCache

/-- What an expression does to sets of positions of one text. -/
inductive Scan where
  | stay (here : Nat)
  | advance (here : Nat)
  | seq (a b : Scan)
  | alt (a b : Scan)
  | rep (body : Scan) (min : Nat) (max : Option Nat)

namespace Scan

/-- A step taken a fixed number of times. -/
def iterate (step : Nat → Nat) : Nat → Nat → Nat
  | 0, starts => starts
  | n + 1, starts => if starts = 0 then 0 else iterate step n (step starts)

/-- The positions seen, and those reached from the last ones by at most so many steps. -/
def reach (step : Nat → Nat) : Nat → Nat → Nat → Nat
  | 0, seen, _ => seen
  | n + 1, seen, last =>
    if last = 0 then seen
    else
      let next := step last
      let fresh := (seen ||| next) ^^^ seen
      reach step n (seen ||| fresh) fresh

/-- Where a scan can end if it starts at one of some positions. Among `positions` places no
shortest way takes more steps than there are places. -/
def ends (positions : Nat) : Scan → Nat → Nat
  | stay here, starts => starts &&& here
  | advance here, starts => (starts &&& here) <<< 1
  | seq a b, starts => b.ends positions (a.ends positions starts)
  | alt a b, starts => a.ends positions starts ||| b.ends positions starts
  | rep body min max, starts =>
    let least := iterate (body.ends positions) min starts
    let more := match max with
      | none => positions
      | some most => Nat.min (most - min) positions
    reach (body.ends positions) more least least

end Scan

/-- The positions before the characters of a set. -/
def CharSet.positions (s : CharSet) (text : List Char) : Nat :=
  text.foldr (fun c rest => 2 * rest + if s.contains c then 1 else 0) 0

/-- The positions of a text that are as asked, given the character before the text. -/
def Look.positionsAfter (l : Look) (before : Option Char) : List Char → Nat
  | [] => if l.holds before none then 1 else 0
  | c :: rest =>
    2 * l.positionsAfter (some c) rest + if l.holds before (some c) then 1 else 0

namespace Regex

/-- The set of the positions of a text, both its ends among them. -/
def allPositions (text : List Char) : Nat := 1 <<< (text.length + 1) - 1

/-- What an expression does on a text. -/
def scan (text : List Char) : Regex → Scan
  | empty => .stay (allPositions text)
  | look l => .stay (l.positionsAfter none text)
  | oneOf _ s => .advance (s.positions text)
  | seq a b => .seq (a.scan text) (b.scan text)
  | alt a b => .alt (a.scan text) (b.scan text)
  | group a => a.scan text
  | capture a => a.scan text
  | rep a min max _ => .rep (a.scan text) min max

/-- Whether an expression spans some part of a text. -/
def isMatch (r : Regex) (text : List Char) : Bool :=
  (r.scan text).ends (text.length + 1) (allPositions text) != 0

end Regex

end ExpiringCache
