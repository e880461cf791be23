import ExpiringCache.Regex.Shape
import ExpiringCache.Regex.Trie
import ExpiringCache.Unicode.Utf8
import Std.Data.TreeMap

/-!
# The size of an automaton

How many bytes the automaton of an expression takes, read forwards or backwards. It has a state
for each byte of a literal, states for the UTF-8 encodings of each class, and copies of what is
repeated a given number of times. It is put together state by state, and each state is known by
its number, so that the states of a class can be found again. An expression whose automaton would
grow past `maxBytes` is refused.
-/

namespace ExpiringCache

/-- The most bytes that an automaton may take. -/
def maxBytes : Nat := 10 * 1024 * 1024

/-- How far an automaton has been built: how many states it has, and how many bytes the lists in
them take. -/
structure Automaton where
  states : Nat
  listBytes : Nat
  deriving DecidableEq, Repr

namespace Automaton

/-- An automaton without states. -/
def start : Automaton := ⟨0, 0⟩

/-- Bytes of a state without the lists in it. -/
def stateBytes : Nat := 32

/-- Bytes of a transition in a state that may have several. -/
def transitionBytes : Nat := 8

/-- Bytes of a branch to another state. -/
def branchBytes : Nat := 4

/-- The bytes of an automaton. -/
def bytes (a : Automaton) : Nat := stateBytes * a.states + a.listBytes

/-- The automaton with more states, if it does not grow too large. -/
def grow (a : Automaton) (states listBytes : Nat) : Option Automaton :=
  let b : Automaton := ⟨a.states + states, a.listBytes + listBytes⟩
  if b.bytes ≤ maxBytes then some b else none

/-- A state that does nothing. -/
def addState (a : Automaton) : Option Automaton := a.grow 1 0

/-- A state with two ways to go on. -/
def addFork (a : Automaton) : Option Automaton := a.grow 1 (2 * branchBytes)

/-- A step taken a fixed number of times. -/
def iterate (step : Automaton → Option Automaton) : Nat → Automaton → Option Automaton
  | 0, a => some a
  | n + 1, a =>
    match step a with
    | none => none
    | some b => iterate step n b

end Automaton

/-- States by what they do. There is a limited number of places, and a place holds the state that
was put there last. -/
structure StateMemo where
  size : Nat
  places : Std.TreeMap Nat (List Nat × Nat)

namespace StateMemo

/-- A memo that holds nothing. -/
def empty (size : Nat) : StateMemo := ⟨size, ∅⟩

/-- The place for what a state does: the FNV-1a hash of some numbers. -/
def place (m : StateMemo) (key : List Nat) : Nat :=
  (key.foldl (fun h n => (h ^^^ UInt64.ofNat n) * 1099511628211) 14695981039346656037).toNat %
    m.size

/-- The state at a place, if it does as asked. -/
def find? (m : StateMemo) (place : Nat) (key : List Nat) : Option Nat :=
  match m.places[place]? with
  | some (key', state) => if key == key' then some state else none
  | none => none

/-- The memo with a state put at a place. -/
def put (m : StateMemo) (place : Nat) (key : List Nat) (state : Nat) : StateMemo :=
  { m with places := m.places.insert place (key, state) }

end StateMemo

/-- The states of a class so far: the number of the next one, the bytes of the lists in them, and
those that can be found again. -/
structure ClassStates where
  next : Nat
  listBytes : Nat
  memo : StateMemo

namespace ClassStates

open Unicode (ByteRanges)

/-- Sequences grouped by their first range, without it. -/
def groupByFirst : List ByteRanges → List ((Nat × Nat) × List ByteRanges)
  | [] => []
  | [] :: rest => groupByFirst rest
  | (r :: s) :: rest =>
    match groupByFirst rest with
    | (r', group) :: groups =>
      if r = r' then (r, s :: group) :: groups else (r, [s]) :: (r', group) :: groups
    | [] => [(r, [s])]

/-- The state that does as asked: one that there is, or a new one. -/
def stateFor (c : ClassStates) (key : List Nat) (listBytes : Nat) : Nat × ClassStates :=
  let place := c.memo.place key
  match c.memo.find? place key with
  | some state => (state, c)
  | none => (c.next, ⟨c.next + 1, c.listBytes + listBytes, c.memo.put place key c.next⟩)

/-- Adds the states that read some sequences up to a last state, and gives the first of them. -/
def addForward (last : Nat) : Nat → List ByteRanges → ClassStates → Nat × ClassStates
  | 0, _, c => (last, c)
  | fuel + 1, sequences, c =>
    match groupByFirst sequences with
    | [] => (last, c)
    | groups =>
      let (key, c) := groups.foldl (fun (key, c) (r, group) =>
        let (next, c) := addForward last fuel group c
        (next :: r.2 :: r.1 :: key, c)) ([], c)
      c.stateFor key.reverse (Automaton.transitionBytes * groups.length)

/-- Adds the states that read a sequence backwards and then go on to a state. -/
def addBackward (next : Nat) : ByteRanges → ClassStates → ClassStates
  | [], c => c
  | r :: rest, c =>
    let (state, c) := c.stateFor [next, r.1, r.2] 0
    addBackward state rest c

end ClassStates

namespace Automaton

/-- Adds the states of a class of bytes. -/
def addByteClass (count : Nat) (a : Automaton) : Option Automaton :=
  a.grow 2 (transitionBytes * count)

/-- Adds the states of a class of characters read forwards: one where it ends, and those that read
the encodings, of which equal ones are shared as far as they are found again. -/
def addClassForward (sequences : List Unicode.ByteRanges) (a : Automaton) : Option Automaton :=
  let (_, c) := ClassStates.addForward a.states 5 sequences ⟨a.states + 1, 0, .empty 10000⟩
  a.grow (c.next - a.states) c.listBytes

/-- Adds the states of a class of characters read backwards: one with a branch to each encoding,
one where the class ends, and those that read the encodings. -/
def addClassBackward (sequences : List Unicode.ByteRanges) (a : Automaton) :
    Option Automaton :=
  let c := sequences.foldl (fun c s => ClassStates.addBackward (a.states + 1) s c)
    ⟨a.states + 2, 0, .empty 1000⟩
  a.grow (c.next - a.states) (branchBytes * sequences.length)

/-- Adds the states of a class. -/
def addClass (backward : Bool) (ranges : CharSet.Ranges) (a : Automaton) : Option Automaton :=
  if ranges.all fun r => decide (r.2 < 0x80) then a.addByteClass ranges.length
  else if backward then a.addClassBackward (Unicode.encodings ranges)
  else a.addClassForward (Unicode.encodings ranges)

/-- The states of a node of a trie: one for each chunk with branches, and one before them. -/
def nodeStates (chunks : List Nat) : Nat := (chunks.filter (0 < ·)).length + 1

/-- The bytes of the lists in the states of a node of a trie: branches to the chunks and, after
each chunk but the last, to the end, and the transitions of a chunk if there are several. -/
def nodeListBytes (chunks : List Nat) : Nat :=
  chunks.foldl (fun bytes n => bytes + if 1 < n then transitionBytes * n else 0)
    (branchBytes * ((chunks.filter (0 < ·)).length + (chunks.length - 1)))

/-- Adds the states of a node of a trie and of the nodes below it that are no leaves. -/
def addBelow : Trie → Automaton → Option Automaton
  | .done, a => some a
  | .mark rest, a => addBelow rest a
  | .branch _ child rest, a =>
    match addBelow rest a with
    | none => none
    | some a =>
      if child.isLeaf then some a
      else
        match addBelow child a with
        | none => none
        | some a => a.grow (nodeStates child.chunkLengths) (nodeListBytes child.chunkLengths)

/-- Adds the states of a choice among words: those of its trie, and one where they all end. -/
def addWords (words : List (List Nat)) (a : Automaton) : Option Automaton :=
  let t := Trie.ofWords words
  match addBelow t a with
  | none => none
  | some a => a.grow (nodeStates t.chunkLengths + 1) (nodeListBytes t.chunkLengths)

/-- Adds the states of what is repeated: the copies that there must be, and forks after, before or
around those that there may be. -/
def addRepetition (add : Automaton → Option Automaton) (isPositive : Bool) (min : Nat)
    (max : Option Nat) (a : Automaton) : Option Automaton :=
  match max with
  | none =>
    if min = 0 then
      if isPositive then a.addFork.bind add
      else (((add a).bind addFork).bind addFork).bind addState
    else (iterate add min a).bind addFork
  | some max =>
    if min = max then iterate add min a
    else if max = 1 then (a.addFork.bind add).bind addState
    else
      let least := if min = 0 then a.addState else iterate add min a
      (least.bind addState).bind (iterate (fun a => a.addFork.bind add) (max - min))

end Automaton

namespace Shape

/-- The bytes of a literal. -/
def bytes? : Shape → Option (List Nat)
  | literal codePoints => some (codePoints.flatMap Unicode.encode)
  | _ => none

/-- Whether an expression spans one character at least, and can span any. -/
def isPositive (s : Shape) : Bool := s.minLength.any (0 < ·)

mutual

/-- Adds the states of an expression to an automaton. -/
def addTo (backward : Bool) : Shape → Automaton → Option Automaton
  | empty, a => a.addState
  | literal codePoints, a => a.grow (codePoints.flatMap Unicode.encode).length 0
  | oneOf _ ranges, a => a.addClass backward ranges
  | look _, a => a.addState
  | capture body, a =>
    if backward then body.addTo backward a
    else (a.addState.bind (body.addTo backward)).bind Automaton.addState
  | rep body min max _, a =>
    Automaton.addRepetition (body.addTo backward) body.isPositive min max a
  | seq parts, a => addPartsTo backward parts a
  | alt branches, a =>
    match branches.mapM bytes? with
    | some words => a.addWords (if backward then words.map List.reverse else words)
    | none => addBranchesTo backward branches.length 0 branches a

/-- Adds the states of some expressions one after another. -/
def addPartsTo (backward : Bool) : List Shape → Automaton → Option Automaton
  | [], a => some a
  | s :: rest, a =>
    if backward then (addPartsTo backward rest a).bind (s.addTo backward)
    else (s.addTo backward a).bind (addPartsTo backward rest)

/-- Adds the states of some branches after so many others. The state with a branch to each and
the one where they all end come after the second. -/
def addBranchesTo (backward : Bool) (count done : Nat) : List Shape → Automaton →
    Option Automaton
  | [], a => some a
  | s :: rest, a =>
    match s.addTo backward a with
    | none => none
    | some a =>
      if done = 1 then
        (a.grow 2 (Automaton.branchBytes * count)).bind
          (addBranchesTo backward count (done + 1) rest)
      else addBranchesTo backward count (done + 1) rest a

end

/-- The first states of an automaton. Unless it is held to one end of the text it starts by going
past any bytes. -/
def lead (anchored : Bool) : Option Automaton :=
  if anchored then Automaton.start.addState
  else Automaton.start.grow 3 (Automaton.transitionBytes + 2 * Automaton.branchBytes)

/-- The automaton of an expression read forwards. States note where a match starts and ends, and
a last one that it is there. -/
def forward? (s : Shape) : Option Automaton :=
  (((lead (s.startsAt .textStart)).bind Automaton.addState).bind (s.addTo false)).bind
    fun a => a.grow 2 0

/-- The automaton of an expression read backwards. A last state notes that the match is there. -/
def backward? (s : Shape) : Option Automaton :=
  ((lead (s.endsAt .textEnd)).bind (s.addTo true)).bind Automaton.addState

end Shape

/-- Whether the automaton of an expression is small enough either way. -/
def Regex.isSmallEnough (r : Regex) : Bool :=
  r.shape.forward?.isSome && r.shape.backward?.isSome

end ExpiringCache
