/-!
# The parts of a regular expression

A regular expression as it is written, before its flags are applied. Sequences and choices have
two parts each; longer ones lean to the right.
-/

namespace ExpiringCache.Regex

/-- The switches that change how the rest of a group is understood. -/
inductive Flag where
  | ignoreCase | multiLine | dotAll | swapGreed | unicode | crlf | verbose
  deriving DecidableEq, Repr

/-- Switches to be set or cleared. -/
abbrev FlagChanges := List (Flag × Bool)

/-- What some changes make of a switch, if they name it. -/
def FlagChanges.state? (changes : FlagChanges) (flag : Flag) : Option Bool :=
  (changes.find? (·.1 = flag)).map (·.2)

/-- The classes of characters with a letter of their own. -/
inductive ShortClass where
  | digit | space | word
  deriving DecidableEq, Repr

/-- The classes of ASCII characters that are named inside brackets. -/
inductive NamedClass where
  | alnum | alpha | ascii | blank | cntrl | digit | graph | lower | print | punct | space | upper
  | word | xdigit
  deriving DecidableEq, Repr

/-- How a Unicode property is asked for. -/
inductive PropertyQuery where
  | named (name : List Char)
  | valued (property value : List Char)
  deriving DecidableEq, Repr

/-- The places that an expression can ask for. -/
inductive Place where
  | lineStart | lineEnd | textStart | textEnd | wordBoundary | notWordBoundary | wordStart
  | wordEnd | wordStartHalf | wordEndHalf
  deriving DecidableEq, Repr

/-- What a plain character or an escape stands for. A character given by two hexadecimal digits
stands for a byte where Unicode is off. -/
inductive Atom where
  | literal (c : Char) (isByte : Bool)
  | dot
  | place (p : Place)
  | short (negated : Bool) (s : ShortClass)
  | property (negated : Bool) (q : PropertyQuery)
  deriving DecidableEq, Repr

/-- How two classes are combined. -/
inductive SetOperator where
  | intersection | difference | symmetricDifference
  deriving DecidableEq, Repr

/-- What stands between the brackets of a class. -/
inductive ClassSet where
  | empty
  | literal (c : Char) (isByte : Bool)
  | range (lo : Char) (loIsByte : Bool) (hi : Char) (hiIsByte : Bool)
  | named (negated : Bool) (n : NamedClass)
  | short (negated : Bool) (s : ShortClass)
  | property (negated : Bool) (q : PropertyQuery)
  | bracketed (negated : Bool) (set : ClassSet)
  | union (s t : ClassSet)
  | combined (op : SetOperator) (s t : ClassSet)
  deriving DecidableEq, Repr

/-- One class for a list of items. -/
def ClassSet.ofItems : List ClassSet → ClassSet
  | [] => empty
  | [s] => s
  | s :: rest => union s (ofItems rest)

/-- How often something is repeated, and whether as often as can be unless flags say otherwise. -/
structure Count where
  min : Nat
  max : Option Nat
  greedy : Bool
  deriving DecidableEq, Repr

/-- A regular expression. -/
inductive Expr where
  | empty
  | flags (changes : FlagChanges)
  | atom (a : Atom)
  | bracketed (negated : Bool) (set : ClassSet)
  | repeated (body : Expr) (count : Count)
  | group (changes : FlagChanges) (body : Expr)
  | capture (body : Expr)
  | seq (a b : Expr)
  | alt (a b : Expr)
  deriving DecidableEq, Repr

namespace Expr

/-- One expression for a sequence. -/
def ofItems : List Expr → Expr
  | [] => empty
  | [e] => e
  | e :: rest => seq e (ofItems rest)

/-- One expression for a choice. -/
def ofBranches : List Expr → Expr
  | [] => empty
  | [e] => e
  | e :: rest => alt e (ofBranches rest)

end Expr

/-- Whether a class lists two items or more. -/
def ClassSet.isUnion : ClassSet → Bool
  | union _ _ => true
  | _ => false

/-- How deep the items of a class are nested. A list of items counts once, however long. -/
def ClassSet.depth : ClassSet → Nat
  | empty | literal .. | range .. | named .. | short .. | property .. => 0
  | bracketed _ s => s.depth + 1
  | union s t => if t.isUnion then max (s.depth + 1) t.depth else max s.depth t.depth + 1
  | combined _ s t => max s.depth t.depth + 1

namespace Expr

/-- Whether an expression is a sequence. -/
def isSeq : Expr → Bool
  | seq _ _ => true
  | _ => false

/-- Whether an expression is a choice. -/
def isAlt : Expr → Bool
  | alt _ _ => true
  | _ => false

/-- How deep an expression is nested. A sequence or a choice counts once, however long. -/
def depth : Expr → Nat
  | empty | flags _ | atom _ => 0
  | bracketed _ s => s.depth + 1
  | repeated e _ => e.depth + 1
  | group _ e => e.depth + 1
  | capture e => e.depth + 1
  | seq e f => if f.isSeq then max (e.depth + 1) f.depth else max e.depth f.depth + 1
  | alt e f => if f.isAlt then max (e.depth + 1) f.depth else max e.depth f.depth + 1

end Expr

/-- How deep an expression may be nested. -/
def maxDepth : Nat := 250

end ExpiringCache.Regex
