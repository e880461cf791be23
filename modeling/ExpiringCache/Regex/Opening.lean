import ExpiringCache.Regex.Blank
import ExpiringCache.Regex.Expr
import ExpiringCache.Regex.Fault
import ExpiringCache.Unicode.Alphanumeric

/-!
# The openings of groups

What follows an opening parenthesis: nothing special for a group that is captured, a name,
switches up to a colon for a group that is not, or switches up to a closing parenthesis, which
hold for the rest of the group around them.
-/

namespace ExpiringCache.Regex

/-- What a parenthesis opens. -/
inductive Opening where
  | capture
  | named (name : List Char)
  | plain (changes : FlagChanges)
  | directive (changes : FlagChanges)
  deriving DecidableEq, Repr

/-- The switch that a letter stands for. -/
def flag? (c : Char) : Option Flag :=
  if c = 'i' then some .ignoreCase
  else if c = 'm' then some .multiLine
  else if c = 's' then some .dotAll
  else if c = 'U' then some .swapGreed
  else if c = 'u' then some .unicode
  else if c = 'R' then some .crlf
  else if c = 'x' then some .verbose
  else none

/-- Switches up to a colon or a closing parenthesis. Each may be named once; those after the one
hyphen are cleared, and there must be some. -/
def readFlags (changes : FlagChanges) (clearing atHyphen : Bool) :
    List Char → Except Fault (Opening × List Char)
  | [] => .error .unclosedGroup
  | c :: rest =>
    if c = ':' then
      if atHyphen then .error .badFlags else .ok (.plain changes, rest)
    else if c = ')' then
      if atHyphen then .error .badFlags
      else if changes.isEmpty then .error .missingOperand
      else .ok (.directive changes, rest)
    else if c = '-' then
      if clearing then .error .badFlags else readFlags changes true true rest
    else
      match flag? c with
      | none => .error .badFlags
      | some flag =>
        if (changes.state? flag).isSome then .error .badFlags
        else readFlags (changes ++ [(flag, ! clearing)]) clearing false rest

/-- Whether a text can name a group. -/
def isGroupName : List Char → Bool
  | [] => false
  | c :: rest =>
    (c == '_' || Unicode.isAlphabetic c) &&
      rest.all fun c => c == '_' || c == '.' || c == '[' || c == ']' || Unicode.isAlphanumeric c

/-- The name of a group after its opening angle bracket. -/
def readGroupName (text : List Char) : Except Fault (Opening × List Char) :=
  match text.dropWhile (· != '>') with
  | [] => .error .badGroupName
  | _ :: rest =>
    if isGroupName (text.takeWhile (· != '>')) then
      .ok (.named (text.takeWhile (· != '>')), rest)
    else .error .badGroupName

/-- What follows an opening parenthesis. -/
def readOpening (verbose : Bool) (text : List Char) : Except Fault (Opening × List Char) :=
  match skip verbose text with
  | '?' :: '=' :: _ => .error .lookAround
  | '?' :: '!' :: _ => .error .lookAround
  | '?' :: '<' :: '=' :: _ => .error .lookAround
  | '?' :: '<' :: '!' :: _ => .error .lookAround
  | '?' :: 'P' :: '<' :: rest => readGroupName rest
  | '?' :: '<' :: rest => readGroupName rest
  | '?' :: rest => readFlags [] false false rest
  | rest => .ok (.capture, rest)

theorem readFlags_length_le {changes : FlagChanges} {clearing atHyphen : Bool}
    {text rest : List Char} {o : Opening}
    (h : readFlags changes clearing atHyphen text = .ok (o, rest)) :
    rest.length ≤ text.length := by
  induction text generalizing changes clearing atHyphen with
  | nil => simp [readFlags] at h
  | cons c text ih =>
    unfold readFlags at h
    repeat' split at h
    all_goals first
      | (cases h; exact Nat.le_succ _)
      | exact Nat.le_succ_of_le (ih h)
      | simp at h

theorem readGroupName_length_le {text rest : List Char} {o : Opening}
    (h : readGroupName text = .ok (o, rest)) : rest.length ≤ text.length := by
  have hd := (List.dropWhile_sublist (· != '>') (l := text)).length_le
  unfold readGroupName at h
  split at h
  · simp at h
  · rename_i ht
    rw [ht, List.length_cons] at hd
    split at h
    · cases h
      omega
    · simp at h

theorem readOpening_length_le {verbose : Bool} {text rest : List Char} {o : Opening}
    (h : readOpening verbose text = .ok (o, rest)) : rest.length ≤ text.length := by
  have hs := skip_length_le verbose text
  refine Nat.le_trans ?_ hs
  unfold readOpening at h
  split at h
  · simp at h
  · simp at h
  · simp at h
  · simp at h
  · rename_i ht
    have := readGroupName_length_le h
    simp only [ht, List.length_cons]
    omega
  · rename_i ht
    have := readGroupName_length_le h
    simp only [ht, List.length_cons]
    omega
  · rename_i ht
    have := readFlags_length_le h
    simp only [ht, List.length_cons]
    omega
  · cases h
    exact Nat.le_refl _

end ExpiringCache.Regex
