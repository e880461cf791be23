import ExpiringCache.Unicode.Property

/-!
# Blanks between the parts of an expression

In a verbose expression blanks do not count, nor does what stands between a number sign and the
end of its line. `skip` drops them, and `collect` takes characters of one kind with blanks
between them.
-/

namespace ExpiringCache.Regex

/-- The text without the blanks and comments at its front. -/
def dropBlanks (inComment : Bool) : List Char → List Char
  | [] => []
  | c :: rest =>
    if inComment then dropBlanks (c != '\n') rest
    else if Unicode.isBlank c then dropBlanks false rest
    else if c = '#' then dropBlanks true rest
    else c :: rest

/-- The text from its next part on. -/
def skip (verbose : Bool) (text : List Char) : List Char :=
  if verbose then dropBlanks false text else text

theorem dropBlanks_length_le (inComment : Bool) (text : List Char) :
    (dropBlanks inComment text).length ≤ text.length := by
  induction text generalizing inComment with
  | nil => simp [dropBlanks]
  | cons c rest ih =>
    unfold dropBlanks
    repeat' split
    all_goals first | exact Nat.le_succ_of_le (ih _) | exact Nat.le_refl _

theorem skip_length_le (verbose : Bool) (text : List Char) :
    (skip verbose text).length ≤ text.length := by
  unfold skip
  split
  · exact dropBlanks_length_le false text
  · exact Nat.le_refl _

/-- The longest run of characters of one kind, and the text from what follows it on. -/
def collect (verbose : Bool) (kind : Char → Bool) (text : List Char) : List Char × List Char :=
  match text with
  | [] => ([], [])
  | c :: rest =>
    if kind c then
      let (run, after) := collect verbose kind (skip verbose rest)
      (c :: run, after)
    else ([], c :: rest)
termination_by text.length
decreasing_by
  have := skip_length_le verbose rest
  simp only [List.length_cons]
  omega

theorem collect_length_le (verbose : Bool) (kind : Char → Bool) (text : List Char) :
    (collect verbose kind text).2.length ≤ text.length := by
  fun_induction collect verbose kind text with
  | case1 => simp
  | case2 c rest _ run after hrun ih =>
    have := skip_length_le verbose rest
    simp only [hrun] at ih
    simp only [List.length_cons]
    omega
  | case3 => simp

end ExpiringCache.Regex
