/-!
# Faults of regular expressions

Why a text is no regular expression, or one that cannot be used.
-/

namespace ExpiringCache.Regex

/-- What is wrong with a text that is no regular expression. -/
inductive Fault where
  | unclosedGroup
  | unopenedGroup
  | lookAround
  | badGroupName
  | repeatedGroupName
  | badFlags
  | missingOperand
  | unclosedCount
  | badCount
  | unclosedClass
  | badClassItem
  | reversedRange
  | trailingEscape
  | unknownEscape
  | backReference
  | badCodePoint
  | badWordBoundary
  | badPropertyName
  | unknownProperty
  | needsUnicode
  | notText
  | tooDeep
  | tooLarge
  deriving DecidableEq, Repr

end ExpiringCache.Regex
