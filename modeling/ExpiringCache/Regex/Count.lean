import ExpiringCache.Regex.Blank
import ExpiringCache.Regex.Expr
import ExpiringCache.Regex.Fault

/-!
# Counts of repetitions

The counts in braces after an expression: a number, a number and a comma, or two numbers. Numbers
are below 2^32 and may stand between blanks.
-/

namespace ExpiringCache.Regex

/-- A decimal number, if there is one and it is small enough, and the text after it. -/
def readDecimal (verbose : Bool) (text : List Char) : Option Nat × List Char :=
  let (digits, rest) := collect verbose Char.isDigit (text.dropWhile Unicode.isBlank)
  let n := digits.foldl (fun n c => n * 10 + (c.toNat - '0'.toNat)) 0
  (if digits.isEmpty || decide (4294967296 ≤ n) then none else some n,
    (collect verbose Unicode.isBlank rest).2)

/-- Whether no question mark stands at the front of a text, and the text after it. -/
def readGreed : List Char → Bool × List Char
  | '?' :: rest => (false, rest)
  | rest => (true, rest)

/-- The closing brace of a count, and a question mark that may follow it. -/
def finishCount (verbose : Bool) (min : Nat) (max : Option Nat) (text : List Char) :
    Except Fault (Count × List Char) :=
  match text with
  | '}' :: rest =>
    if max.any (· < min) then .error .badCount
    else
      let (greedy, rest) := readGreed (skip verbose rest)
      .ok (⟨min, max, greedy⟩, rest)
  | _ => .error .unclosedCount

/-- What follows the comma of a count. -/
def readUpperCount (verbose : Bool) (min : Nat) (text : List Char) :
    Except Fault (Count × List Char) :=
  match skip verbose text with
  | '}' :: rest => finishCount verbose min none ('}' :: rest)
  | text =>
    match readDecimal verbose text with
    | (none, _) => .error .badCount
    | (some most, rest) => finishCount verbose min (some most) rest

/-- The counts after an opening brace. -/
def readCount (verbose : Bool) (text : List Char) : Except Fault (Count × List Char) :=
  match readDecimal verbose (skip verbose text) with
  | (none, _) => .error .badCount
  | (some min, ',' :: rest) => readUpperCount verbose min rest
  | (some min, rest) => finishCount verbose min (some min) rest

theorem readDecimal_length_le (verbose : Bool) (text : List Char) :
    (readDecimal verbose text).2.length ≤ text.length :=
  Nat.le_trans (collect_length_le verbose _ _)
    (Nat.le_trans (collect_length_le verbose _ _) (List.dropWhile_sublist _).length_le)

theorem readGreed_length_le (text : List Char) :
    (readGreed text).2.length ≤ text.length := by
  unfold readGreed
  split
  · exact Nat.le_succ _
  · exact Nat.le_refl _

theorem finishCount_length_le {verbose : Bool} {min : Nat} {max : Option Nat}
    {text rest : List Char} {r : Count}
    (h : finishCount verbose min max text = .ok (r, rest)) : rest.length ≤ text.length := by
  unfold finishCount at h
  split at h
  · rename_i t
    have hs := skip_length_le verbose t
    have hq := readGreed_length_le (skip verbose t)
    rcases hg : readGreed (skip verbose t) with ⟨greedy, u⟩
    rw [hg] at h hq
    dsimp only at hq
    split at h
    · simp at h
    · cases h
      rw [List.length_cons]
      omega
  · simp at h

theorem readUpperCount_length_le {verbose : Bool} {min : Nat} {text rest : List Char}
    {r : Count} (h : readUpperCount verbose min text = .ok (r, rest)) :
    rest.length ≤ text.length := by
  have hs := skip_length_le verbose text
  unfold readUpperCount at h
  split at h
  · rename_i ht
    rw [ht] at hs
    exact Nat.le_trans (finishCount_length_le h) hs
  · have hd := readDecimal_length_le verbose (skip verbose text)
    split at h
    · simp at h
    · rename_i hr
      rw [hr] at hd
      exact Nat.le_trans (finishCount_length_le h) (Nat.le_trans hd hs)

theorem readCount_length_le {verbose : Bool} {text rest : List Char} {r : Count}
    (h : readCount verbose text = .ok (r, rest)) : rest.length ≤ text.length := by
  have hs := skip_length_le verbose text
  have hd := readDecimal_length_le verbose (skip verbose text)
  unfold readCount at h
  split at h
  · simp at h
  · rename_i hr
    rw [hr] at hd
    have := readUpperCount_length_le h
    simp only [List.length_cons] at hd
    omega
  · rename_i hr
    rw [hr] at hd
    have := finishCount_length_le h
    dsimp only at hd
    omega

end ExpiringCache.Regex
