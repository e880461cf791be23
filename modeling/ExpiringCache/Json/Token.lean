import ExpiringCache.Unicode.RangeTable

/-!
# Tokens of JSON

The marks, words, strings and numbers that a JSON text is made of, taken off its front one at a
time. A text may come as bytes that are not all characters; a byte that is none is a symbol of
its own, which only a string that nobody wants may hold. `nextToken_length_lt` says that each
token takes something off the text.
-/

namespace ExpiringCache.Json

/-- A character, or a byte that is part of none. -/
abbrev Symbol := Option Char

/-- Why a text is not what is expected: no JSON, or JSON of another kind. -/
inductive Fault where
  | malformed
  | mismatched
  deriving DecidableEq, Repr

/-- A token. A string holds its characters, if they make a text; a number only whether it is in
the range of a double. -/
inductive Token where
  | beginArray | endArray | beginObject | endObject | colon | comma
  | null
  | bool (b : Bool)
  | string (content : Option (List Char))
  | number (inRange : Bool)
  deriving DecidableEq, Repr

/-- The first character of some bytes and how many it takes. -/
def firstChar? (bytes : List UInt8) : Option (Char × Nat) :=
  [1, 2, 3, 4].findSome? fun n =>
    match (String.fromUTF8? ⟨(bytes.take n).toArray⟩).map String.toList with
    | some [c] => some (c, n)
    | _ => none

/-- The symbols of bytes that are not all characters. -/
def symbolsOfBytes (bytes : List UInt8) : List Symbol :=
  match bytes with
  | [] => []
  | b :: rest =>
    match firstChar? (b :: rest) with
    | none => none :: symbolsOfBytes rest
    | some (c, n) => some c :: symbolsOfBytes (rest.drop (n - 1))
termination_by bytes.length
decreasing_by
  · simp
  · simp only [List.length_drop, List.length_cons]
    omega

/-- The symbols of a text. -/
def symbolsOfString (s : String) : List Symbol := s.toList.map some

/-- The symbols of bytes. -/
def symbols (bytes : ByteArray) : List Symbol :=
  match String.fromUTF8? bytes with
  | some s => symbolsOfString s
  | none => symbolsOfBytes bytes.toList

/-- Whether a symbol may stand between tokens. -/
def isSpace (s : Symbol) : Bool :=
  s == some ' ' || s == some '\t' || s == some '\n' || s == some '\r'

/-- What stands in a string: a character, a 16-bit unit given by an escape, or a stray byte. -/
inductive Piece where
  | char (c : Char)
  | unit (n : Nat)
  | stray
  deriving DecidableEq, Repr

/-- The value of a symbol that is a hexadecimal digit. -/
def hexDigit? : Symbol → Option Nat
  | none => none
  | some c =>
    if c.isDigit || (decide ('a' ≤ c) && decide (c ≤ 'f')) ||
        (decide ('A' ≤ c) && decide (c ≤ 'F')) then
      some (Unicode.hexDigitValue c)
    else none

/-- The unit that four hexadecimal digits give. -/
def unitOfHex? (a b c d : Symbol) : Option Nat := do
  let a ← hexDigit? a
  let b ← hexDigit? b
  let c ← hexDigit? c
  let d ← hexDigit? d
  return ((a * 16 + b) * 16 + c) * 16 + d

/-- The character that a letter or mark gives after a backslash. -/
def escaped? (s : Symbol) : Option Char :=
  if s = some '"' then some '"'
  else if s = some '\\' then some '\\'
  else if s = some '/' then some '/'
  else if s = some 'b' then some '\x08'
  else if s = some 'f' then some '\x0c'
  else if s = some 'n' then some '\n'
  else if s = some 'r' then some '\r'
  else if s = some 't' then some '\t'
  else none

/-- The pieces of a string after its opening quote. -/
def readPieces : List Symbol → Except Fault (List Piece × List Symbol)
  | [] => .error .malformed
  | some '"' :: rest => .ok ([], rest)
  | some '\\' :: some 'u' :: a :: b :: c :: d :: rest =>
    match unitOfHex? a b c d with
    | none => .error .malformed
    | some n => (readPieces rest).map fun (pieces, rest) => (.unit n :: pieces, rest)
  | some '\\' :: s :: rest =>
    match escaped? s with
    | none => .error .malformed
    | some c => (readPieces rest).map fun (pieces, rest) => (.char c :: pieces, rest)
  | none :: rest => (readPieces rest).map fun (pieces, rest) => (.stray :: pieces, rest)
  | some c :: rest =>
    if c.toNat < 0x20 then .error .malformed
    else (readPieces rest).map fun (pieces, rest) => (.char c :: pieces, rest)

/-- Whether a unit is the first half of a character. -/
def isLeadUnit (n : Nat) : Bool := decide (0xd800 ≤ n) && decide (n ≤ 0xdbff)

/-- Whether a unit is the second half of a character. -/
def isTrailUnit (n : Nat) : Bool := decide (0xdc00 ≤ n) && decide (n ≤ 0xdfff)

/-- The text that pieces make; none if a half or a stray byte is left over. -/
def textOfPieces? : List Piece → Option (List Char)
  | [] => some []
  | .char c :: rest => (textOfPieces? rest).map (c :: ·)
  | .unit m :: .unit n :: rest =>
    if isLeadUnit m then
      if isTrailUnit n then
        (textOfPieces? rest).map
          (Char.ofNat (0x10000 + (m - 0xd800) * 0x400 + (n - 0xdc00)) :: ·)
      else none
    else if isTrailUnit m then none
    else (textOfPieces? (.unit n :: rest)).map (Char.ofNat m :: ·)
  | .unit m :: rest =>
    if isLeadUnit m || isTrailUnit m then none
    else (textOfPieces? rest).map (Char.ofNat m :: ·)
  | .stray :: _ => none

/-- Whether a symbol is a decimal digit. -/
def isDigit (s : Symbol) : Bool := s.any Char.isDigit

/-- The values of the decimal digits at the front of a text, and what follows them. -/
def readDigits (text : List Symbol) : List Nat × List Symbol :=
  ((text.takeWhile isDigit).filterMap (·.map fun c => c.toNat - '0'.toNat),
    text.dropWhile isDigit)

/-- One past the largest number of 64 bits. -/
def significandBound : Nat := 18446744073709551616

/-- As many digits added to a number as 64 bits can hold, and the digits left. -/
def absorbDigits (n : Nat) : List Nat → Nat × List Nat
  | [] => (n, [])
  | d :: rest =>
    if n * 10 + d < significandBound then absorbDigits (n * 10 + d) rest else (n, d :: rest)

/-- Whether a significand and a power of ten make a finite double. -/
def isFinite (significand : Nat) (exponent : Int) : Bool :=
  if significand = 0 ∨ exponent < 0 then true
  else if 308 < exponent then false
  else (significand.toUInt64.toFloat * Float.ofScientific 1 false exponent.toNat).isFinite

/-- Whether a number is in the range of a double, by its digits before and after the point and
its exponent, given with whether it is negative. Digits past what 64 bits hold count only by
their place. -/
def numberInRange (whole fraction : List Nat) (exponent : Option (Bool × List Nat)) : Bool :=
  let (n, wholeLeft) := absorbDigits 0 whole
  let (m, fractionLeft) := absorbDigits n fraction
  let scale : Int := (wholeLeft.length : Int) - (fraction.length - fractionLeft.length : Nat)
  match exponent with
  | none =>
    if wholeLeft.isEmpty && fraction.isEmpty then true else isFinite m scale
  | some (negative, digits) =>
    let e : Nat := digits.foldl (fun n d => n * 10 + d) 0
    isFinite m (if negative then scale - (e : Int) else scale + (e : Int))

/-- The exponent of a number, if it has one. -/
def readExponent (text : List Symbol) :
    Except Fault (Option (Bool × List Nat) × List Symbol) :=
  let finish (negative : Bool) (text : List Symbol) :=
    match readDigits text with
    | ([], _) => .error .malformed
    | (digits, rest) => .ok (some (negative, digits), rest)
  match text with
  | some c :: rest =>
    if c = 'e' ∨ c = 'E' then
      match rest with
      | some '-' :: rest => finish true rest
      | some '+' :: rest => finish false rest
      | rest => finish false rest
    else .ok (none, text)
  | _ => .ok (none, text)

/-- The fraction of a number, empty if it has none. -/
def readFraction (text : List Symbol) : Except Fault (List Nat × List Symbol) :=
  match text with
  | some '.' :: rest =>
    match readDigits rest with
    | ([], _) => .error .malformed
    | (digits, rest) => .ok (digits, rest)
  | _ => .ok ([], text)

/-- A number without its sign. -/
def readNumber (text : List Symbol) : Except Fault (Token × List Symbol) :=
  match readDigits text with
  | ([], _) => .error .malformed
  | (0 :: _ :: _, _) => .error .malformed
  | (whole, rest) =>
    match readFraction rest with
    | .error fault => .error fault
    | .ok (fraction, rest) =>
      match readExponent rest with
      | .error fault => .error fault
      | .ok (exponent, rest) => .ok (.number (numberInRange whole fraction exponent), rest)

/-- The token that starts with a given symbol. -/
def readToken (s : Symbol) (rest : List Symbol) : Except Fault (Token × List Symbol) :=
  let word (letters : List Char) (t : Token) :=
    if (letters.map some).isPrefixOf rest then .ok (t, rest.drop letters.length)
    else .error .malformed
  match s with
  | some '[' => .ok (.beginArray, rest)
  | some ']' => .ok (.endArray, rest)
  | some '\x7b' => .ok (.beginObject, rest)
  | some '\x7d' => .ok (.endObject, rest)
  | some ':' => .ok (.colon, rest)
  | some ',' => .ok (.comma, rest)
  | some '"' => (readPieces rest).map fun (pieces, rest) => (.string (textOfPieces? pieces), rest)
  | some 'n' => word ['u', 'l', 'l'] .null
  | some 't' => word ['r', 'u', 'e'] (.bool true)
  | some 'f' => word ['a', 'l', 's', 'e'] (.bool false)
  | some '-' => readNumber rest
  | s => if isDigit s then readNumber (s :: rest) else .error .malformed

/-- The first token of a text. -/
def nextToken (text : List Symbol) : Except Fault (Token × List Symbol) :=
  match text.dropWhile isSpace with
  | [] => .error .malformed
  | s :: rest => readToken s rest

/-- Whether only spaces are left. -/
def atEnd (text : List Symbol) : Bool := text.all isSpace

theorem map_eq_ok_rest {α β : Type} {x : Except Fault (α × List Symbol)}
    {f : α × List Symbol → β × List Symbol} {b : β} {rest : List Symbol}
    (h : x.map f = .ok (b, rest)) (hf : ∀ r, (f r).2 = r.2) : ∃ a, x = .ok (a, rest) := by
  cases x with
  | error => simp [Except.map] at h
  | ok r =>
    obtain ⟨a, rest'⟩ := r
    simp only [Except.map, Except.ok.injEq] at h
    have := hf (a, rest')
    rw [h] at this
    exact ⟨a, by rw [show rest = rest' from this]⟩

theorem readPieces_length_lt {text rest : List Symbol} {pieces : List Piece}
    (h : readPieces text = .ok (pieces, rest)) : rest.length < text.length := by
  fun_induction readPieces text generalizing pieces rest with
  | case1 => simp at h
  | case2 => cases h; simp
  | case3 => simp at h
  | case4 _ _ _ _ _ _ _ ih =>
    obtain ⟨_, hp⟩ := map_eq_ok_rest h fun _ => rfl
    have := ih hp
    simp only [List.length_cons]
    omega
  | case5 => simp at h
  | case6 _ _ _ _ _ ih =>
    obtain ⟨_, hp⟩ := map_eq_ok_rest h fun _ => rfl
    have := ih hp
    simp only [List.length_cons]
    omega
  | case7 _ ih =>
    obtain ⟨_, hp⟩ := map_eq_ok_rest h fun _ => rfl
    have := ih hp
    simp only [List.length_cons]
    omega
  | case8 => simp at h
  | case9 _ _ _ _ _ _ ih =>
    obtain ⟨_, hp⟩ := map_eq_ok_rest h fun _ => rfl
    have := ih hp
    simp only [List.length_cons]
    omega

theorem readDigits_length_le (text : List Symbol) :
    (readDigits text).2.length ≤ text.length := (List.dropWhile_sublist _).length_le

theorem readDigits_length_lt {text rest : List Symbol} {d : Nat} {digits : List Nat}
    (h : readDigits text = (d :: digits, rest)) : rest.length < text.length := by
  unfold readDigits at h
  cases text with
  | nil => simp at h
  | cons s t =>
    by_cases hs : isDigit s
    · have := (List.dropWhile_sublist isDigit (l := t)).length_le
      simp only [List.dropWhile_cons, hs, if_true, Prod.mk.injEq] at h
      simp only [← h.2, List.length_cons]
      omega
    · simp [hs] at h

theorem readExponent_length_le {text rest : List Symbol} {e : Option (Bool × List Nat)}
    (h : readExponent text = .ok (e, rest)) : rest.length ≤ text.length := by
  have key {negative : Bool} {t : List Symbol}
      (h : (match readDigits t with
        | ([], _) => Except.error Fault.malformed
        | (digits, rest) => .ok (some (negative, digits), rest)) = .ok (e, rest)) :
      rest.length ≤ t.length := by
    have hd := readDigits_length_le t
    split at h
    · simp at h
    · rename_i hr
      rw [hr] at hd
      cases h
      exact hd
  unfold readExponent at h
  dsimp only at h
  split at h
  · split at h
    · simp only [List.length_cons]
      split at h
      · have := key h
        simp only [List.length_cons]
        omega
      · have := key h
        simp only [List.length_cons]
        omega
      · have := key h
        omega
    · cases h
      exact Nat.le_refl _
  · cases h
    exact Nat.le_refl _

theorem readFraction_length_le {text rest : List Symbol} {digits : List Nat}
    (h : readFraction text = .ok (digits, rest)) : rest.length ≤ text.length := by
  unfold readFraction at h
  split at h
  · rename_i t
    have hd := readDigits_length_le t
    split at h
    · simp at h
    · rename_i hr
      rw [hr] at hd
      cases h
      exact Nat.le_succ_of_le hd
  · cases h
    exact Nat.le_refl _

theorem readNumber_length_lt {text rest : List Symbol} {t : Token}
    (h : readNumber text = .ok (t, rest)) : rest.length < text.length := by
  unfold readNumber at h
  split at h
  · simp at h
  · simp at h
  · rename_i whole u hne _ hr
    have h₁ : u.length < text.length := by
      cases whole with
      | nil => exact (hne rfl).elim
      | cons => exact readDigits_length_lt hr
    split at h
    · simp at h
    · rename_i hf
      have h₂ := readFraction_length_le hf
      split at h
      · simp at h
      · rename_i he
        have h₃ := readExponent_length_le he
        cases h
        omega

theorem readToken_length_le {s : Symbol} {text rest : List Symbol} {t : Token}
    (h : readToken s text = .ok (t, rest)) : rest.length ≤ text.length := by
  have key {letters : List Char} {u : Token}
      (h : (if (letters.map some).isPrefixOf text then
          Except.ok (u, text.drop letters.length)
        else .error Fault.malformed) = .ok (t, rest)) : rest.length ≤ text.length := by
    split at h
    · cases h
      simp
    · simp at h
  unfold readToken at h
  dsimp only at h
  split at h
  · cases h; exact Nat.le_refl _
  · cases h; exact Nat.le_refl _
  · cases h; exact Nat.le_refl _
  · cases h; exact Nat.le_refl _
  · cases h; exact Nat.le_refl _
  · cases h; exact Nat.le_refl _
  · obtain ⟨_, hp⟩ := map_eq_ok_rest h fun _ => rfl
    exact Nat.le_of_lt (readPieces_length_lt hp)
  · exact key h
  · exact key h
  · exact key h
  · exact Nat.le_of_lt (readNumber_length_lt h)
  · split at h
    · have := readNumber_length_lt h
      rw [List.length_cons] at this
      omega
    · simp at h

theorem nextToken_length_lt {text rest : List Symbol} {t : Token}
    (h : nextToken text = .ok (t, rest)) : rest.length < text.length := by
  have hd := (List.dropWhile_sublist isSpace (l := text)).length_le
  unfold nextToken at h
  split at h
  · simp at h
  · rename_i ht
    have := readToken_length_le h
    rw [ht, List.length_cons] at hd
    omega

end ExpiringCache.Json
