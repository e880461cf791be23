import ExpiringCache.Regex.Automaton
import ExpiringCache.Regex.Meaning
import ExpiringCache.Regex.Reading
import ExpiringCache.Regex.Scan

/-!
# Compiling regular expressions

From the text of a regular expression to what it matches: read it, apply its flags, and refuse
what would grow too large.
-/

namespace ExpiringCache.Regex

/-- The regular expression that a text denotes. -/
def ofText (text : List Char) : Except Fault Regex :=
  match Expr.ofText text with
  | .error fault => .error fault
  | .ok e =>
    match e.regex .standard with
    | .error fault => .error fault
    | .ok (r, _) => if r.isSmallEnough then .ok r else .error .tooLarge

end ExpiringCache.Regex
