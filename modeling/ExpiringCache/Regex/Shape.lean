import ExpiringCache.CharSet.Ranges
import ExpiringCache.Regex.Basic

/-!
# The shape of an expression

An expression drawn together before an automaton is made of it. Sequences and choices are flat,
characters that follow each other are one literal, a choice among single characters or among
classes is one class, and what all branches of a choice start with is written once before it.
-/

namespace ExpiringCache

/-- An expression drawn together. A class says whether it is one of characters or of bytes. -/
inductive Shape where
  | empty
  | literal (codePoints : List Nat)
  | oneOf (unicode : Bool) (ranges : CharSet.Ranges)
  | look (l : Look)
  | capture (body : Shape)
  | rep (body : Shape) (min : Nat) (max : Option Nat) (greedy : Bool)
  | seq (parts : List Shape)
  | alt (branches : List Shape)

namespace Shape

/-- What spans nothing. -/
def fail : Shape := oneOf false []

/-- A class; one of a single character is a literal. -/
def ofRanges (unicode : Bool) : CharSet.Ranges → Shape
  | [] => fail
  | [(lo, hi)] => if lo = hi then literal [lo] else oneOf unicode [(lo, hi)]
  | ranges => oneOf unicode ranges

mutual

/-- Whether two expressions are built alike. A part that is captured is like no other. -/
def isLike : Shape → Shape → Bool
  | empty, empty => true
  | literal s, literal t => s == t
  | oneOf unicode r, oneOf unicode' r' => unicode == unicode' && r == r'
  | look l, look m => l == m
  | rep a min max greedy, rep b min' max' greedy' =>
    a.isLike b && min == min' && max == max' && greedy == greedy'
  | seq a, seq b => areLike a b
  | alt a, alt b => areLike a b
  | _, _ => false

/-- Whether two lists of expressions are alike one by one. -/
def areLike : List Shape → List Shape → Bool
  | [], [] => true
  | a :: as, b :: bs => a.isLike b && areLike as bs
  | _, _ => false

end

mutual

/-- The fewest characters that an expression spans, if it spans any text. -/
def minLength : Shape → Option Nat
  | empty => some 0
  | literal codePoints => some codePoints.length
  | oneOf _ ranges => if ranges.isEmpty then none else some 1
  | look _ => some 0
  | capture body => body.minLength
  | rep body min _ _ => body.minLength.map (min * ·)
  | seq parts => minTotal parts
  | alt branches => minLeast branches

/-- The fewest characters that some expressions span one after another. -/
def minTotal : List Shape → Option Nat
  | [] => some 0
  | s :: rest =>
    match s.minLength, minTotal rest with
    | some m, some n => some (m + n)
    | _, _ => none

/-- The fewest characters that one of some expressions spans, if each spans any text. -/
def minLeast : List Shape → Option Nat
  | [] => none
  | [s] => s.minLength
  | s :: rest =>
    match s.minLength, minLeast rest with
    | some m, some n => some (min m n)
    | _, _ => none

end

mutual

/-- Whether an expression spans the empty text alone. -/
def isVoid : Shape → Bool
  | empty => true
  | literal codePoints => codePoints.isEmpty
  | oneOf _ _ => false
  | look _ => true
  | capture body => body.isVoid
  | rep body _ _ _ => body.isVoid
  | seq parts => areVoid parts
  | alt branches => areVoid branches

/-- Whether each of some expressions spans the empty text alone. -/
def areVoid : List Shape → Bool
  | [] => true
  | s :: rest => s.isVoid && areVoid rest

end

mutual

/-- Whether every match starts at a position of some kind, by the way the expression is built. -/
def startsAt (l : Look) : Shape → Bool
  | empty | literal _ | oneOf _ _ => false
  | look m => m == l
  | capture body => body.startsAt l
  | rep body min _ _ => decide (0 < min) && body.startsAt l
  | seq parts => sequenceStartsAt l parts
  | alt branches => allStartAt l branches

/-- Whether every match of a sequence starts at a position of some kind. -/
def sequenceStartsAt (l : Look) : List Shape → Bool
  | [] => false
  | s :: rest => s.startsAt l || (s.isVoid && sequenceStartsAt l rest)

/-- Whether every match of each of some expressions starts at a position of some kind. -/
def allStartAt (l : Look) : List Shape → Bool
  | [] => true
  | s :: rest => s.startsAt l && allStartAt l rest

end

mutual

/-- Whether every match ends at a position of some kind, by the way the expression is built. -/
def endsAt (l : Look) : Shape → Bool
  | empty | literal _ | oneOf _ _ => false
  | look m => m == l
  | capture body => body.endsAt l
  | rep body min _ _ => decide (0 < min) && body.endsAt l
  | seq parts => sequenceEndsAt l parts
  | alt branches => allEndAt l branches

/-- Whether every match of a sequence ends at a position of some kind. -/
def sequenceEndsAt (l : Look) : List Shape → Bool
  | [] => false
  | s :: rest => sequenceEndsAt l rest || (areVoid rest && s.endsAt l)

/-- Whether every match of each of some expressions ends at a position of some kind. -/
def allEndAt (l : Look) : List Shape → Bool
  | [] => true
  | s :: rest => s.endsAt l && allEndAt l rest

end

/-- The parts of a sequence. -/
def parts : Shape → List Shape
  | empty => []
  | seq parts => parts
  | s => [s]

/-- Two lists of parts joined, with literals that meet made one. -/
def joinParts : List Shape → List Shape → List Shape
  | as, [] => as
  | [], bs => bs
  | [literal s], literal t :: bs => literal (s ++ t) :: bs
  | a :: as, bs => a :: joinParts as bs

/-- Some expressions one after another. -/
def ofParts (list : List Shape) : Shape :=
  match list.foldr (fun s rest => joinParts s.parts rest) [] with
  | [] => empty
  | [s] => s
  | parts => seq parts

/-- The branches of a choice. -/
def branches : Shape → List Shape
  | alt branches => branches
  | s => [s]

/-- The range of a literal of one character. -/
def character? : Shape → Option (Nat × Nat)
  | literal [c] => some (c, c)
  | _ => none

/-- The ranges of a class. -/
def classRanges? : Shape → Option CharSet.Ranges
  | oneOf _ ranges => some ranges
  | _ => none

/-- The parts of a sequence of two or more. -/
def sequence? : Shape → Option (List Shape)
  | seq parts => some parts
  | _ => none

/-- How many parts two sequences have in common at the start. -/
def commonLength : List Shape → List Shape → Nat
  | a :: as, b :: bs => if a.isLike b then commonLength as bs + 1 else 0
  | _, _ => 0

/-- How many parts all of some sequences have in common at the start. -/
def sharedLength : List (List Shape) → Nat
  | [] => 0
  | first :: rest => rest.foldl (fun n s => min n (commonLength first s)) first.length

/-- A choice, after what its branches share has been put before it at most so many times. -/
def choice : Nat → List Shape → Shape
  | 0, list => alt list
  | fuel + 1, list =>
    match list.flatMap branches with
    | [] => fail
    | [s] => s
    | list =>
      match list.mapM character?, list.mapM classRanges?, list.mapM sequence? with
      | some ranges, _, _ => ofRanges true (CharSet.normalize ranges)
      | _, some ranges, _ => ofRanges true (CharSet.normalize ranges.flatten)
      | _, _, some sequences =>
        let n := sharedLength sequences
        if n = 0 then alt list
        else
          ofParts ((sequences.headD []).take n ++
            [choice fuel (sequences.map fun s => ofParts (s.drop n))])
      | _, _, _ => alt list

mutual

/-- How many expressions an expression is made of. -/
def weight : Shape → Nat
  | empty | literal _ | oneOf _ _ | look _ => 1
  | capture body => body.weight + 1
  | rep body _ _ _ => body.weight + 1
  | seq parts => totalWeight parts + 1
  | alt branches => totalWeight branches + 1

/-- How many expressions some expressions are made of. -/
def totalWeight : List Shape → Nat
  | [] => 0
  | s :: rest => s.weight + totalWeight rest

end

/-- A choice. Putting what the branches share before it leaves less in them, so this is done no
more often than they have parts. -/
def ofBranches : List Shape → Shape
  | [s] => s
  | list => choice (totalWeight list + 1) list

end Shape

namespace Regex

/-- The branches of an expression, drawn together each. -/
def shapes : Regex → List Shape
  | empty => [.empty]
  | look l => [.look l]
  | oneOf unicode s => [.ofRanges unicode s.ranges]
  | seq a b => [.ofParts [.ofBranches a.shapes, .ofBranches b.shapes]]
  | alt a b => .ofBranches a.shapes :: b.shapes
  | group a => [.ofBranches a.shapes]
  | capture a => [.capture (.ofBranches a.shapes)]
  | rep a min max greedy => [.rep (.ofBranches a.shapes) min max greedy]

/-- An expression drawn together. -/
def shape (r : Regex) : Shape := .ofBranches r.shapes

end Regex

end ExpiringCache
