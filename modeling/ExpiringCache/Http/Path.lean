import ExpiringCache.Unicode.RangeTable

/-!
# Paths

What the path of a request leads to. A key is one segment that is not empty; it is matched as it
stands and its percent signs are decoded once, which may fail to give a text.
-/

namespace ExpiringCache.Http

/-- What a client can ask for. -/
inductive Route where
  | set
  | get (segment : String)
  | delete (segment : String)
  | expire (segment : String)
  | search
  | reset
  | stats
  | health
  deriving DecidableEq, Repr

/-- The methods that a route answers, besides the preflight. -/
def Route.methods : Route → List String
  | set => ["PUT"]
  | get _ => ["GET", "HEAD"]
  | delete _ => ["DELETE"]
  | expire _ => ["POST"]
  | search => ["POST"]
  | reset => ["POST"]
  | stats => ["GET", "HEAD"]
  | health => ["GET", "HEAD"]

/-- The part of a list after the first place where another stands, if it stands anywhere. -/
def afterFirst? (mark : List Char) : List Char → Option (List Char)
  | [] => none
  | c :: rest =>
    if mark.isPrefixOf (c :: rest) then some ((c :: rest).drop mark.length)
    else afterFirst? mark rest

/-- The path of an address: without a query, a fragment, or a scheme and a host in front. -/
def pathOf (uri : String) : List Char :=
  let address := uri.toList.takeWhile fun c => c != '?' && c != '#'
  if address.head? = some '/' then address
  else
    match afterFirst? "://".toList address with
    | none => address
    | some rest =>
      let path := rest.dropWhile (· != '/')
      if path.isEmpty then ['/'] else path

/-- The rest of a path after a start, if it is one segment. -/
def segmentAfter? (start : String) (path : List Char) : Option String :=
  if start.toList.isPrefixOf path then
    let segment := path.drop start.length
    if segment.isEmpty || segment.contains '/' then none else some (String.ofList segment)
  else none

/-- Where a path leads. -/
def Route.ofPath? (path : List Char) : Option Route :=
  if path = "/set".toList then some .set
  else if path = "/search".toList then some .search
  else if path = "/reset".toList then some .reset
  else if path = "/stats".toList then some .stats
  else if path = "/health".toList then some .health
  else
    (((segmentAfter? "/get/" path).map .get).or ((segmentAfter? "/del/" path).map .delete)).or
      ((segmentAfter? "/expire/" path).map .expire)

/-- The value of a byte that is a hexadecimal digit. -/
def hexDigit? (b : UInt8) : Option UInt8 :=
  if 48 ≤ b ∧ b ≤ 57 then some (b - 48)
  else if 97 ≤ b ∧ b ≤ 102 then some (b - 87)
  else if 65 ≤ b ∧ b ≤ 70 then some (b - 55)
  else none

/-- The bytes that a segment stands for: a percent sign and two hexadecimal digits are one byte,
and a percent sign before anything else is itself. -/
def percentDecode : List UInt8 → List UInt8
  | 37 :: a :: b :: rest =>
    match hexDigit? a, hexDigit? b with
    | some x, some y => (x * 16 + y) :: percentDecode rest
    | _, _ => 37 :: percentDecode (a :: b :: rest)
  | b :: rest => b :: percentDecode rest
  | [] => []

/-- The key that a segment stands for, if its bytes make a text. -/
def keyOfSegment? (segment : String) : Option String :=
  String.fromUTF8? ⟨(percentDecode segment.toUTF8.toList).toArray⟩

end ExpiringCache.Http
