import ExpiringCache.Decimal

/-!
# Writing JSON

Compact JSON: no blanks, members in the order given. In a string quotes, backslashes and control
characters are escaped, those with a letter of their own by it and the others by their code, and
all else stands as it is.
-/

namespace ExpiringCache.Json

/-- A hexadecimal digit in lower case. -/
def hexDigit (n : Nat) : Char :=
  if n < 10 then Char.ofNat ('0'.toNat + n) else Char.ofNat ('a'.toNat + (n - 10))

/-- A character as it stands in a string. -/
def escapeChar (c : Char) : List Char :=
  if c = '"' then ['\\', '"']
  else if c = '\\' then ['\\', '\\']
  else if c = '\x08' then ['\\', 'b']
  else if c = '\x0c' then ['\\', 'f']
  else if c = '\n' then ['\\', 'n']
  else if c = '\r' then ['\\', 'r']
  else if c = '\t' then ['\\', 't']
  else if c.toNat < 0x20 then
    ['\\', 'u', '0', '0', hexDigit (c.toNat / 16), hexDigit (c.toNat % 16)]
  else [c]

/-- A string in quotes. -/
def quote (s : String) : String :=
  String.ofList ('"' :: s.toList.flatMap escapeChar ++ ['"'])

/-- A truth value. -/
def writeBool (b : Bool) : String := if b then "true" else "false"

/-- A number without a fraction. -/
def writeNat (n : Nat) : String := Nat.repr n

/-- The text of a decimal: with a point up to sixteen digits before it or four zeros after it, and
with an exponent otherwise. -/
def writeDecimal (d : Decimal) : String :=
  let digits := Nat.repr d.digits
  let point : Int := digits.length + d.exponent
  let zeros (n : Int) := String.ofList (List.replicate n.toNat '0')
  if 0 ≤ d.exponent ∧ point ≤ 16 then digits ++ zeros d.exponent ++ ".0"
  else if 0 < point ∧ point ≤ 16 then
    String.ofList (digits.toList.take point.toNat) ++ "." ++
      String.ofList (digits.toList.drop point.toNat)
  else if -5 < point ∧ point ≤ 0 then "0." ++ zeros (-point) ++ digits
  else
    let tail := String.ofList (digits.toList.drop 1)
    String.ofList (digits.toList.take 1) ++ (if tail.isEmpty then "" else "." ++ tail) ++ "e" ++
      Int.repr (point - 1)

/-- A number that may have a fraction, not negative. -/
def writeReal (x : Float) : String :=
  if x == 0 then "0.0"
  else if x.isFinite then writeDecimal (.ofFloat x)
  else "null"

/-- An array of values that are written already. -/
def writeArray (values : List String) : String := "[" ++ String.intercalate "," values ++ "]"

/-- An object of members whose values are written already. -/
def writeObject (members : List (String × String)) : String :=
  "\x7b" ++ String.intercalate "," (members.map fun (k, v) => quote k ++ ":" ++ v) ++ "\x7d"

end ExpiringCache.Json
