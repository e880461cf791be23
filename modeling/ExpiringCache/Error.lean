import ExpiringCache.Matcher

/-!
# Errors

What a cache refuses, with the words in which it says so. Nothing has been changed when one of
these arises.
-/

namespace ExpiringCache

/-- Why a cache refuses an operation. -/
inductive CacheError where
  | invalidTtl (spec : String)
  | invalidPattern (detail : String)
  deriving DecidableEq, Repr

namespace CacheError

/-- The words for an error. -/
def message : CacheError → String
  | invalidTtl spec => "Invalid TTL: " ++ spec
  | invalidPattern detail => "Invalid pattern: " ++ detail

/-- The error for a pattern with a fault. -/
def ofPattern (pattern : String) (fault : PatternFault) : CacheError :=
  invalidPattern (pattern ++ ": " ++ fault.reason)

end CacheError

end ExpiringCache
