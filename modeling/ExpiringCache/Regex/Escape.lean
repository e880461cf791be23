import ExpiringCache.Regex.Blank
import ExpiringCache.Regex.Expr
import ExpiringCache.Regex.Fault

/-!
# Escapes

What a backslash and the characters after it stand for: a character given by its code point or
by a letter, a class, a property, a place, or a character that would otherwise mean something.
-/

namespace ExpiringCache.Regex

/-- Whether a character is a hexadecimal digit. -/
def isHexDigit (c : Char) : Bool :=
  c.isDigit || (decide ('a' ≤ c) && decide (c ≤ 'f')) ||
    (decide ('A' ≤ c) && decide (c ≤ 'F'))

/-- The character with a code point in hexadecimal, if there are digits and it exists. -/
def charOfHex? (digits : List Char) : Option Char :=
  let n := Unicode.hexValue digits
  if h : n.isValidChar then
    if digits.isEmpty then none else some ⟨n.toUInt32, by
      have hn : n < 4294967296 := by
        rcases h with h | h
        · omega
        · omega
      simpa [UInt32.isValidChar, UInt32.toNat_ofNat', Nat.mod_eq_of_lt hn] using h⟩
  else none

/-- So many hexadecimal digits. -/
def readHexDigits (verbose : Bool) : Nat → List Char → Except Fault (List Char × List Char)
  | 0, text => .ok ([], text)
  | _ + 1, [] => .error .trailingEscape
  | n + 1, c :: rest =>
    if isHexDigit c then
      match readHexDigits verbose n (skip verbose rest) with
      | .error fault => .error fault
      | .ok (digits, rest) => .ok (c :: digits, rest)
    else .error .badCodePoint

/-- A code point, in braces or with a fixed number of digits. -/
def readCodePoint (verbose : Bool) (width : Nat) (isByte : Bool) (text : List Char) :
    Except Fault (Atom × List Char) :=
  match skip verbose text with
  | [] => .error .trailingEscape
  | '{' :: rest =>
    let (digits, rest) := collect verbose isHexDigit (skip verbose rest)
    match rest with
    | [] => .error .trailingEscape
    | '}' :: rest =>
      match charOfHex? digits with
      | none => .error .badCodePoint
      | some c => .ok (.literal c false, skip verbose rest)
    | _ :: _ => .error .badCodePoint
  | c :: rest =>
    match readHexDigits verbose width (c :: rest) with
    | .error fault => .error fault
    | .ok (digits, rest) =>
      match charOfHex? digits with
      | none => .error .badCodePoint
      | some c => .ok (.literal c isByte, rest)

/-- The parts of a text before and after the first place where a separator stands. -/
def splitAtFirst? (separator : List Char) : List Char → Option (List Char × List Char)
  | [] => none
  | c :: rest =>
    if separator.isPrefixOf (c :: rest) then
      some ([], (c :: rest).drop separator.length)
    else (splitAtFirst? separator rest).map fun (before, after) => (c :: before, after)

/-- The property that a text in braces asks for. -/
def propertyOfText (negated : Bool) (text : List Char) : Atom :=
  match splitAtFirst? ['!', '='] text with
  | some (name, value) => .property (! negated) (.valued name value)
  | none =>
    match (splitAtFirst? [':'] text).or (splitAtFirst? ['='] text) with
    | some (name, value) => .property negated (.valued name value)
    | none => .property negated (.named text)

/-- A property, of one letter or in braces. -/
def readProperty (verbose negated : Bool) (text : List Char) :
    Except Fault (Atom × List Char) :=
  match skip verbose text with
  | [] => .error .trailingEscape
  | '{' :: rest =>
    let (name, rest) := collect verbose (· != '}') (skip verbose rest)
    match rest with
    | [] => .error .trailingEscape
    | _ :: rest => .ok (propertyOfText negated name, rest)
  | '\\' :: _ => .error .badPropertyName
  | c :: rest => .ok (.property negated (.named [c]), rest)

/-- The edges of words with names of their own. -/
def wordEdge? (name : List Char) : Option Place :=
  if name = "start".toList then some .wordStart
  else if name = "end".toList then some .wordEnd
  else if name = "start-half".toList then some .wordStartHalf
  else if name = "end-half".toList then some .wordEndHalf
  else none

/-- Whether a character can stand in the name of an edge. -/
def isEdgeNameChar (c : Char) : Bool := c.isAlpha || c == '-'

/-- The edge of a word, with its name in braces or any edge. Braces around anything else than
letters count repetitions and are left alone. -/
def readWordEdge (verbose : Bool) (text : List Char) : Except Fault (Atom × List Char) :=
  match text with
  | '{' :: rest =>
    match skip verbose rest with
    | [] => .error .badWordBoundary
    | c :: rest' =>
      if isEdgeNameChar c then
        let (name, after) := collect verbose isEdgeNameChar (c :: rest')
        match after with
        | '}' :: after =>
          match wordEdge? name with
          | none => .error .badWordBoundary
          | some p => .ok (.place p, after)
        | _ => .error .badWordBoundary
      else .ok (.place .wordBoundary, text)
  | _ => .ok (.place .wordBoundary, text)

/-- Whether a character stands for itself after a backslash. -/
def isQuotable (c : Char) : Bool :=
  decide (c.toNat < 128) && ! c.isAlphanum && c != '<' && c != '>'

/-- The character or place that a letter stands for after a backslash. -/
def letterEscape? (c : Char) : Option Atom :=
  if c = 'a' then some (.literal '\x07' false)
  else if c = 'f' then some (.literal '\x0c' false)
  else if c = 't' then some (.literal '\t' false)
  else if c = 'n' then some (.literal '\n' false)
  else if c = 'r' then some (.literal '\r' false)
  else if c = 'v' then some (.literal '\x0b' false)
  else if c = 'A' then some (.place .textStart)
  else if c = 'z' then some (.place .textEnd)
  else if c = 'B' then some (.place .notWordBoundary)
  else if c = '<' then some (.place .wordStart)
  else if c = '>' then some (.place .wordEnd)
  else if c = 'd' then some (.short false .digit)
  else if c = 'D' then some (.short true .digit)
  else if c = 's' then some (.short false .space)
  else if c = 'S' then some (.short true .space)
  else if c = 'w' then some (.short false .word)
  else if c = 'W' then some (.short true .word)
  else none

/-- What the text after a backslash starts with. -/
def readEscape (verbose : Bool) (text : List Char) : Except Fault (Atom × List Char) :=
  match text with
  | [] => .error .trailingEscape
  | c :: rest =>
    if c.isDigit then .error .backReference
    else if c = 'x' then readCodePoint verbose 2 true rest
    else if c = 'u' then readCodePoint verbose 4 false rest
    else if c = 'U' then readCodePoint verbose 8 false rest
    else if c = 'p' then readProperty verbose false rest
    else if c = 'P' then readProperty verbose true rest
    else if c = 'b' then readWordEdge verbose rest
    else if isQuotable c then .ok (.literal c false, rest)
    else
      match letterEscape? c with
      | none => .error .unknownEscape
      | some a => .ok (a, rest)

theorem readHexDigits_length_le {verbose : Bool} {n : Nat} {text digits rest : List Char}
    (h : readHexDigits verbose n text = .ok (digits, rest)) : rest.length ≤ text.length := by
  induction n generalizing text digits rest with
  | zero =>
    rw [readHexDigits] at h
    cases h
    exact Nat.le_refl _
  | succ n ih =>
    cases text with
    | nil => simp [readHexDigits] at h
    | cons c text =>
      unfold readHexDigits at h
      split at h
      · split at h
        · simp at h
        · rename_i hr
          have h₁ := ih hr
          have h₂ := skip_length_le verbose text
          cases h
          simp only [List.length_cons]
          omega
      · simp at h

theorem readCodePoint_length_le {verbose isByte : Bool} {width : Nat} {text rest : List Char}
    {a : Atom} (h : readCodePoint verbose width isByte text = .ok (a, rest)) :
    rest.length ≤ text.length := by
  have hs := skip_length_le verbose text
  unfold readCodePoint at h
  split at h
  · simp at h
  · rename_i t ht
    have h₁ := skip_length_le verbose t
    have h₂ := collect_length_le verbose isHexDigit (skip verbose t)
    rw [ht, List.length_cons] at hs
    rcases hc : collect verbose isHexDigit (skip verbose t) with ⟨digits, after⟩
    rw [hc] at h h₂
    dsimp only at h h₂
    split at h
    · simp at h
    · rename_i u
      have h₃ := skip_length_le verbose u
      rw [List.length_cons] at h₂
      split at h
      · simp at h
      · cases h
        omega
    · simp at h
  · rename_i ht
    rw [ht] at hs
    split at h
    · simp at h
    · rename_i hr
      have h₁ := readHexDigits_length_le hr
      split at h
      · simp at h
      · cases h
        omega

theorem readProperty_length_le {verbose negated : Bool} {text rest : List Char} {a : Atom}
    (h : readProperty verbose negated text = .ok (a, rest)) : rest.length ≤ text.length := by
  have hs := skip_length_le verbose text
  unfold readProperty at h
  split at h
  · simp at h
  · rename_i t ht
    have h₁ := skip_length_le verbose t
    have h₂ := collect_length_le verbose (· != '}') (skip verbose t)
    rw [ht, List.length_cons] at hs
    rcases hc : collect verbose (· != '}') (skip verbose t) with ⟨name, after⟩
    rw [hc] at h h₂
    dsimp only at h h₂
    split at h
    · simp at h
    · rw [List.length_cons] at h₂
      cases h
      omega
  · simp at h
  · rename_i ht
    rw [ht, List.length_cons] at hs
    cases h
    omega

theorem readWordEdge_length_le {verbose : Bool} {text rest : List Char} {a : Atom}
    (h : readWordEdge verbose text = .ok (a, rest)) : rest.length ≤ text.length := by
  unfold readWordEdge at h
  split at h
  · rename_i t
    have hs := skip_length_le verbose t
    split at h
    · simp at h
    · rename_i c u hu
      split at h
      · have h₁ := collect_length_le verbose isEdgeNameChar (c :: u)
        rcases hc : collect verbose isEdgeNameChar (c :: u) with ⟨name, after⟩
        rw [hc] at h h₁
        dsimp only at h h₁
        rw [hu] at hs
        split at h
        · rw [List.length_cons] at h₁
          split at h
          · simp at h
          · cases h
            rw [List.length_cons]
            omega
        · simp at h
      · cases h
        exact Nat.le_refl _
  · cases h
    exact Nat.le_refl _

/-- An escape takes at least one character off the text. -/
theorem readEscape_length_lt {verbose : Bool} {text rest : List Char} {a : Atom}
    (h : readEscape verbose text = .ok (a, rest)) : rest.length < text.length := by
  unfold readEscape at h
  split at h
  · simp at h
  · rw [List.length_cons, Nat.lt_succ_iff]
    repeat' split at h
    all_goals first
      | exact readCodePoint_length_le h
      | exact readProperty_length_le h
      | exact readWordEdge_length_le h
      | (cases h; exact Nat.le_refl _)
      | simp at h

end ExpiringCache.Regex
