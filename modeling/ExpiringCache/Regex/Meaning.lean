import ExpiringCache.Regex.Basic
import ExpiringCache.Regex.Expr
import ExpiringCache.Regex.Fault

/-!
# Applying flags

What an expression as it is written means. Switches hold from where they are set to the end of
their group, over its later branches too. Case is closed over before a class is negated, and what
could match less than a whole character is refused.
-/

namespace ExpiringCache.Regex

/-- The switches that bear on what an expression matches. -/
structure Flags where
  ignoreCase : Bool
  multiLine : Bool
  dotAll : Bool
  swapGreed : Bool
  unicode : Bool
  crlf : Bool
  deriving DecidableEq, Repr

namespace Flags

/-- The switches at the start of an expression. -/
def standard : Flags := ⟨false, false, false, false, true, false⟩

/-- The switches after some changes. -/
def apply (f : Flags) (changes : FlagChanges) : Flags where
  ignoreCase := (changes.state? .ignoreCase).getD f.ignoreCase
  multiLine := (changes.state? .multiLine).getD f.multiLine
  dotAll := (changes.state? .dotAll).getD f.dotAll
  swapGreed := (changes.state? .swapGreed).getD f.swapGreed
  unicode := (changes.state? .unicode).getD f.unicode
  crlf := (changes.state? .crlf).getD f.crlf

/-- A set closed under case if case is ignored. -/
def fold (f : Flags) (s : CharSet) : CharSet :=
  if f.ignoreCase then (if f.unicode then s.closeCase else s.closeAsciiCase) else s

/-- A set or its complement. Without Unicode a complement would hold parts of characters. -/
def negate (f : Flags) (negated : Bool) (s : CharSet) : Except Fault CharSet :=
  if negated then (if f.unicode then .ok (.compl s) else .error .notText) else .ok s

/-- Whether a character can stand for itself. Without Unicode a byte must be an ASCII
character. -/
def checkByte (f : Flags) (c : Char) (isByte : Bool) : Except Fault Unit :=
  if ! f.unicode && isByte && decide (127 < c.toNat) then .error .notText else .ok ()

/-- A character in a class. Without Unicode classes hold ASCII characters alone. -/
def classChar (f : Flags) (c : Char) (isByte : Bool) : Except Fault Char :=
  if f.unicode || decide (c.toNat ≤ 127) then .ok c
  else if isByte then .error .notText
  else .error .needsUnicode

end Flags

/-- The ASCII characters of a named class. -/
def NamedClass.set : NamedClass → CharSet
  | alnum => .unionAll [.range '0' '9', .range 'A' 'Z', .range 'a' 'z']
  | alpha => .union (.range 'A' 'Z') (.range 'a' 'z')
  | ascii => .range '\x00' '\x7f'
  | blank => .union (.single '\t') (.single ' ')
  | cntrl => .union (.range '\x00' '\x1f') (.single '\x7f')
  | digit => .range '0' '9'
  | graph => .range '!' '~'
  | lower => .range 'a' 'z'
  | print => .range ' ' '~'
  | punct =>
    .unionAll [.range '!' '/', .range ':' '@', .range '[' '\x60', .range '\x7b' '~']
  | space => .union (.range '\t' '\r') (.single ' ')
  | upper => .range 'A' 'Z'
  | word => .unionAll [.range '0' '9', .range 'A' 'Z', .single '_', .range 'a' 'z']
  | xdigit => .unionAll [.range '0' '9', .range 'A' 'F', .range 'a' 'f']

/-- The characters of a class with a letter of its own. -/
def ShortClass.set (unicode : Bool) : ShortClass → CharSet
  | digit => if unicode then Unicode.digits else NamedClass.digit.set
  | space => if unicode then .table Unicode.whiteSpaceTable else NamedClass.space.set
  | word => if unicode then Unicode.wordSet else NamedClass.word.set

/-- The characters with a property. -/
def PropertyQuery.set (f : Flags) (negated : Bool) (q : PropertyQuery) : Except Fault CharSet :=
  if f.unicode then
    let found := match q with
      | named name => Unicode.property? name
      | valued property value => Unicode.propertyValue? property value
    match found with
    | none => .error .unknownProperty
    | some s => f.negate negated (f.fold s)
  else .error .needsUnicode

/-- The characters of a class. -/
def ClassSet.set (f : Flags) : ClassSet → Except Fault CharSet
  | empty => .ok .none
  | literal c isByte => (f.classChar c isByte).map CharSet.single
  | range lo loIsByte hi hiIsByte => do
    let lo ← f.classChar lo loIsByte
    let hi ← f.classChar hi hiIsByte
    return .range lo hi
  | named negated n => f.negate negated (f.fold n.set)
  | short negated s => f.negate negated (s.set f.unicode)
  | property negated q => q.set f negated
  | bracketed negated s => do
    let s ← s.set f
    f.negate negated (f.fold s)
  | union s t => do
    let s ← s.set f
    let t ← t.set f
    return .union s t
  | combined op s t => do
    let s ← s.set f
    let t ← t.set f
    let s := f.fold s
    let t := f.fold t
    match op with
    | .intersection => return .inter s t
    | .difference => return .diff s t
    | .symmetricDifference => return .symmDiff s t

/-- What a place asks of a position. -/
def Place.look (f : Flags) : Place → Look
  | lineStart => if f.multiLine then .lineStart f.crlf else .textStart
  | lineEnd => if f.multiLine then .lineEnd f.crlf else .textEnd
  | textStart => .textStart
  | textEnd => .textEnd
  | wordBoundary => .wordBoundary f.unicode
  | notWordBoundary => .notWordBoundary f.unicode
  | wordStart => .wordStart f.unicode
  | wordEnd => .wordEnd f.unicode
  | wordStartHalf => .wordStartHalf f.unicode
  | wordEndHalf => .wordEndHalf f.unicode

/-- The characters that a dot stands for: all, or all that do not end a line. -/
def dotSet (f : Flags) : CharSet :=
  if f.dotAll then .all
  else if f.crlf then .compl (.union (.single '\r') (.single '\n'))
  else .compl (.single '\n')

/-- What a character or an escape means. -/
def Atom.regex (f : Flags) : Atom → Except Fault Regex
  | literal c isByte => do
    f.checkByte c isByte
    return .oneOf f.unicode (f.fold (.single c))
  | dot => if f.unicode then .ok (.oneOf f.unicode (dotSet f)) else .error .notText
  | place p => .ok (.look (p.look f))
  | short negated s => (f.negate negated (s.set f.unicode)).map (Regex.oneOf f.unicode)
  | property negated q => (q.set f negated).map (Regex.oneOf f.unicode)

/-- What an expression means under some switches, and the switches after it. -/
def Expr.regex (f : Flags) : Expr → Except Fault (Regex × Flags)
  | empty => .ok (.empty, f)
  | flags changes => .ok (.empty, f.apply changes)
  | atom a => do
    let r ← a.regex f
    return (r, f)
  | bracketed negated s => do
    let s ← s.set f
    let s ← f.negate negated (f.fold s)
    return (.oneOf f.unicode s, f)
  | repeated body count => do
    let (r, f) ← body.regex f
    return (r.repeated count.min count.max (count.greedy != f.swapGreed), f)
  | group changes body => do
    let (r, _) ← body.regex (f.apply changes)
    return (.group r, f)
  | capture body => do
    let (r, _) ← body.regex f
    return (.capture r, f)
  | seq a b => do
    let (r, f) ← a.regex f
    let (s, f) ← b.regex f
    return (.seq r s, f)
  | alt a b => do
    let (r, f) ← a.regex f
    let (s, f) ← b.regex f
    return (.alt r s, f)

end ExpiringCache.Regex
