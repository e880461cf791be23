import ExpiringCache.Glob
import ExpiringCache.KeyIndex
import ExpiringCache.Regex.Compile

/-!
# Matchers

A search pattern made ready for testing keys. A glob that is a literal and a final star tests for
a prefix; any other glob becomes a regular expression. A regular expression has to stand on its
own and is then bound to both ends of the key.
-/

namespace ExpiringCache

/-- How a search pattern is to be read. -/
inductive SearchMode where
  | wildcard | regex
  deriving DecidableEq, Repr

namespace SearchMode

/-- The name of a mode. -/
def label : SearchMode → String
  | wildcard => "WILDCARD"
  | regex => "REGEX"

/-- Both modes. -/
def all : List SearchMode := [wildcard, regex]

/-- The mode of a search that names none. -/
def standard : SearchMode := wildcard

/-- The mode with a name. -/
def ofLabel? (label : String) : Option SearchMode := all.find? (·.label = label)

end SearchMode

/-- Why a pattern cannot be used. -/
inductive PatternFault where
  | glob (fault : Glob.Fault)
  | regex (fault : Regex.Fault)
  deriving DecidableEq, Repr

/-- The words for a fault. Whatever is wrong with a regular expression goes by one name. -/
def PatternFault.reason : PatternFault → String
  | glob fault => fault.reason
  | regex _ => "<regex error>"

/-- A pattern that keys can be tested against. -/
inductive Matcher where
  | startsWith (start : String)
  | pattern (source : String) (regex : Regex)
  deriving DecidableEq, Repr

namespace Matcher

/-- A regular expression bound to both ends of the key. -/
def wrapped (text : List Char) : List Char := "^(?:".toList ++ text ++ ")$".toList

/-- The matcher for the text of a regular expression. -/
def ofRegexText (text : List Char) : Except PatternFault Matcher :=
  match Regex.ofText text with
  | .error fault => .error (.regex fault)
  | .ok r => .ok (.pattern (String.ofList text) r)

/-- The matcher for a glob. -/
def ofGlob (text : List Char) : Except PatternFault Matcher :=
  match Glob.literalPrefix? text with
  | some start => .ok (.startsWith (String.ofList start))
  | none =>
    match Glob.ofText text with
    | .error fault => .error (.glob fault)
    | .ok items => ofRegexText (Glob.regexText items)

/-- The matcher for a regular expression that keys have to match as a whole. An expression that
is none without the binding is not mended by it. -/
def ofRegex (text : List Char) : Except PatternFault Matcher :=
  match Regex.ofText text with
  | .error fault => .error (.regex fault)
  | .ok _ => ofRegexText (wrapped text)

/-- The matcher for a pattern. -/
def compile (pattern : String) : SearchMode → Except PatternFault Matcher
  | .wildcard => ofGlob pattern.toList
  | .regex => ofRegex pattern.toList

/-- Whether a key is accepted. -/
def accepts (m : Matcher) (key : String) : Bool :=
  match m with
  | startsWith start => hasPrefix key start
  | pattern _ r => r.isMatch key.toList

end Matcher

end ExpiringCache
