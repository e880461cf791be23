import ExpiringCache.Json.Record

/-!
# Request bodies

What clients send: a pair to be stored, or a pattern to search for. A pattern that starts with
`regex:` is a regular expression whatever the mode says.
-/

namespace ExpiringCache

/-- A pair to be stored with its time to live. -/
structure SetRequest where
  key : String
  value : String
  expire : String
  deriving DecidableEq, Repr

namespace SetRequest

/-- The fields of the body. -/
def fields : List Json.Field :=
  [⟨"key", .text, true⟩, ⟨"value", .text, true⟩, ⟨"expire", .text, false⟩]

/-- The request that some fields make. -/
def ofFound? (found : Json.Found) : Option SetRequest := do
  let key ← found.text? "key"
  let value ← found.text? "value"
  return ⟨key, value, (found.text? "expire").getD ""⟩

/-- What is wrong with a request that can be read but not carried out. -/
def invalid? (r : SetRequest) : Option String :=
  if r.key.isEmpty then some "Key cannot be empty" else none

end SetRequest

/-- A pattern to search for. -/
structure SearchRequest where
  pattern : String
  mode : SearchMode
  deriving DecidableEq, Repr

namespace SearchRequest

/-- The fields of the body. -/
def fields : List Json.Field := [⟨"pattern", .text, true⟩, ⟨"mode", .mode, false⟩]

/-- The request that some fields make. -/
def ofFound? (found : Json.Found) : Option SearchRequest := do
  let pattern ← found.text? "pattern"
  let mode := match found.get? "mode" with
    | some (.mode m) => m
    | _ => .standard
  return ⟨pattern, mode⟩

/-- The start of a pattern that is a regular expression in any mode. -/
def regexMark : List Char := "regex:".toList

/-- The pattern and the mode to search with. -/
def resolve (r : SearchRequest) : String × SearchMode :=
  if regexMark.isPrefixOf r.pattern.toList then
    (String.ofList (r.pattern.toList.drop regexMark.length), .regex)
  else (r.pattern, r.mode)

end SearchRequest

namespace Json

/-- The first record in a text, made into a request; what comes after it is left alone. -/
def readLeading {α : Type} (fields : List Field) (ofFound? : Found → Option α)
    (text : List Symbol) : Except Fault (α × List Symbol) :=
  match readRecord fields text with
  | .error fault => .error fault
  | .ok (found, rest) =>
    match ofFound? found with
    | none => .error .mismatched
    | some request => .ok (request, rest)

/-- The record that a text consists of. -/
def readWhole {α : Type} (fields : List Field) (ofFound? : Found → Option α)
    (text : List Symbol) : Except Fault α :=
  match readLeading fields ofFound? text with
  | .error fault => .error fault
  | .ok (request, rest) => if atEnd rest then .ok request else .error .malformed

end Json

end ExpiringCache
