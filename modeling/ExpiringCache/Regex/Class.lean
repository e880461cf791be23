import ExpiringCache.Regex.Escape

/-!
# Classes in brackets

A class lists characters, ranges and other classes, and may combine what is before an operator
with what is after it. The operators have one rank and group to the left. Reading keeps the
innermost open class apart from those around it; `readClass_length_lt` says that a class takes at
least its closing bracket off the text.
-/

namespace ExpiringCache.Regex

/-- The named classes with their names. -/
def namedClasses : List (String × NamedClass) :=
  [("alnum", .alnum), ("alpha", .alpha), ("ascii", .ascii), ("blank", .blank),
    ("cntrl", .cntrl), ("digit", .digit), ("graph", .graph), ("lower", .lower),
    ("print", .print), ("punct", .punct), ("space", .space), ("upper", .upper),
    ("word", .word), ("xdigit", .xdigit)]

/-- Whether a caret stands in front of a text, and what follows it. -/
def splitCaret (verbose : Bool) : List Char → Bool × List Char
  | '^' :: rest => (true, skip verbose rest)
  | rest => (false, rest)

theorem splitCaret_length_le (verbose : Bool) (text : List Char) :
    (splitCaret verbose text).2.length ≤ text.length := by
  unfold splitCaret
  split
  · exact Nat.le_succ_of_le (skip_length_le verbose _)
  · exact Nat.le_refl _

/-- The named class in the text after a bracket, such as `:alpha:]`; a caret negates it. Anything
else opens a class of its own. -/
def readNamedClass? (text : List Char) : Option (ClassSet × List Char) :=
  match text with
  | ':' :: rest =>
    let (negated, rest) := splitCaret false rest
    let name := rest.takeWhile (· != ':')
    match rest.dropWhile (· != ':') with
    | ':' :: ']' :: after =>
      (namedClasses.find? (·.1.toList == name)).map fun (_, n) => (.named negated n, after)
    | _ => none
  | _ => none

/-- A class whose closing bracket has not come yet: the operand and operator before the items
read so far, and these items, the latest first. -/
structure OpenClass where
  negated : Bool
  pending : Option (SetOperator × ClassSet)
  items : List ClassSet

namespace OpenClass

/-- What the class holds if it ends here. -/
def content (c : OpenClass) : ClassSet :=
  let last := ClassSet.ofItems c.items.reverse
  match c.pending with
  | none => last
  | some (op, before) => .combined op before last

/-- The class with an item more. -/
def add (c : OpenClass) (item : ClassSet) : OpenClass := { c with items := item :: c.items }

/-- The class after an operator. -/
def combine (c : OpenClass) (op : SetOperator) : OpenClass :=
  { c with pending := some (op, c.content), items := [] }

end OpenClass

/-- The start of a class after its bracket and caret: hyphens that stand for themselves, or a
closing bracket that does. -/
def readFirstItems (verbose negated : Bool) (text : List Char) :
    Except Fault (OpenClass × List Char) :=
  let (hyphens, text) := collect verbose (· == '-') text
  match text with
  | [] => .error .unclosedClass
  | c :: rest =>
    if hyphens.isEmpty && c == ']' then
      .ok (⟨negated, none, [.literal c false]⟩, skip verbose rest)
    else .ok (⟨negated, none, hyphens.map (.literal · false)⟩, c :: rest)

/-- The start of a class after its bracket. -/
def readClassOpening (verbose : Bool) (text : List Char) :
    Except Fault (OpenClass × List Char) :=
  let (negated, text) := splitCaret verbose (skip verbose text)
  readFirstItems verbose negated text

/-- One character or escape in a class. -/
def readClassAtom (verbose : Bool) (text : List Char) : Except Fault (Atom × List Char) :=
  match text with
  | [] => .error .unclosedClass
  | c :: rest => if c = '\\' then readEscape verbose rest else .ok (.literal c false, rest)

/-- What an escape adds to a class. -/
def Atom.classItem : Atom → Except Fault ClassSet
  | .literal c isByte => .ok (.literal c isByte)
  | .short negated s => .ok (.short negated s)
  | .property negated q => .ok (.property negated q)
  | .dot => .error .badClassItem
  | .place _ => .error .badClassItem

/-- The range between two characters. -/
def rangeOf : Atom → Atom → Except Fault ClassSet
  | .literal lo loIsByte, .literal hi hiIsByte =>
    if lo ≤ hi then .ok (.range lo loIsByte hi hiIsByte) else .error .reversedRange
  | _, _ => .error .badClassItem

/-- The next character past blanks and one number sign. -/
def peekPast (inComment : Bool) : List Char → Option Char
  | [] => none
  | c :: rest =>
    if Unicode.isBlank c then peekPast inComment rest
    else if c == '#' && ! inComment then peekPast true rest
    else some c

/-- Whether a hyphen before a text is not the middle of a range. -/
def endsBeforeHyphen (verbose : Bool) (rest : List Char) : Bool :=
  let next := if verbose then peekPast false rest else rest.head?
  next == some ']' || next == some '-'

/-- A character, a range or an escape in a class. -/
def readClassItem (verbose : Bool) (text : List Char) : Except Fault (ClassSet × List Char) :=
  match readClassAtom verbose text with
  | .error fault => .error fault
  | .ok (first, rest) =>
    match skip verbose rest with
    | [] => .error .unclosedClass
    | c :: rest =>
      if c != '-' || endsBeforeHyphen verbose rest then
        match first.classItem with
        | .error fault => .error fault
        | .ok item => .ok (item, c :: rest)
      else
        match readClassAtom verbose (skip verbose rest) with
        | .error fault => .error fault
        | .ok (last, rest) =>
          match rangeOf first last with
          | .error fault => .error fault
          | .ok item => .ok (item, rest)

theorem readNamedClass?_length_lt {text rest : List Char} {item : ClassSet}
    (h : readNamedClass? text = some (item, rest)) : rest.length < text.length := by
  unfold readNamedClass? at h
  split at h
  · rename_i t
    have hs := splitCaret_length_le false t
    rcases hc : splitCaret false t with ⟨negated, u⟩
    rw [hc] at h hs
    dsimp only at h hs
    have hd := (List.dropWhile_sublist (· != ':') (l := u)).length_le
    split at h
    · rename_i after hu
      rw [hu] at hd
      obtain ⟨_, -, hr⟩ := Option.map_eq_some_iff.1 h
      cases hr
      simp only [List.length_cons] at hd ⊢
      omega
    · simp at h
  · simp at h

theorem readFirstItems_length_le {verbose negated : Bool} {text rest : List Char}
    {c : OpenClass} (h : readFirstItems verbose negated text = .ok (c, rest)) :
    rest.length ≤ text.length := by
  have hcol := collect_length_le verbose (· == '-') text
  unfold readFirstItems at h
  rcases hc : collect verbose (· == '-') text with ⟨hyphens, after⟩
  rw [hc] at h hcol
  dsimp only at h hcol
  split at h
  · simp at h
  · rename_i d v
    have := skip_length_le verbose v
    rw [List.length_cons] at hcol
    split at h
    · cases h
      omega
    · cases h
      rw [List.length_cons]
      omega

theorem readClassOpening_length_le {verbose : Bool} {text rest : List Char} {c : OpenClass}
    (h : readClassOpening verbose text = .ok (c, rest)) : rest.length ≤ text.length :=
  Nat.le_trans (readFirstItems_length_le h)
    (Nat.le_trans (splitCaret_length_le verbose _) (skip_length_le verbose text))

theorem readClassAtom_length_lt {verbose : Bool} {text rest : List Char} {a : Atom}
    (h : readClassAtom verbose text = .ok (a, rest)) : rest.length < text.length := by
  unfold readClassAtom at h
  split at h
  · simp at h
  · split at h
    · exact Nat.lt_succ_of_lt (readEscape_length_lt h)
    · cases h
      exact Nat.lt_succ_self _

theorem readClassItem_length_lt {verbose : Bool} {text rest : List Char} {item : ClassSet}
    (h : readClassItem verbose text = .ok (item, rest)) : rest.length < text.length := by
  unfold readClassItem at h
  split at h
  · simp at h
  · rename_i first t hfirst
    have h₁ := readClassAtom_length_lt hfirst
    have h₂ := skip_length_le verbose t
    split at h
    · simp at h
    · rename_i c u hu
      rw [hu, List.length_cons] at h₂
      split at h
      · split at h
        · simp at h
        · cases h
          rw [List.length_cons]
          omega
      · split at h
        · simp at h
        · rename_i last v hlast
          have h₃ := readClassAtom_length_lt hlast
          have h₄ := skip_length_le verbose u
          split at h
          · simp at h
          · cases h
            omega

/-- The rest of a class whose bracket is open, with the open classes around it, innermost first,
up to the closing bracket of the outermost. -/
def readClassRest (verbose : Bool) (current : OpenClass) (outer : List OpenClass)
    (text : List Char) : Except Fault ((Bool × ClassSet) × List Char) :=
  match _h : skip verbose text with
  | [] => .error .unclosedClass
  | '[' :: rest =>
    match _hn : readNamedClass? rest with
    | some (item, rest') => readClassRest verbose (current.add item) outer rest'
    | none =>
      match _ho : readClassOpening verbose rest with
      | .error fault => .error fault
      | .ok (inner, rest') => readClassRest verbose inner (current :: outer) rest'
  | ']' :: rest =>
    match outer with
    | [] => .ok ((current.negated, current.content), rest)
    | around :: outer =>
      readClassRest verbose (around.add (.bracketed current.negated current.content)) outer rest
  | '&' :: '&' :: rest => readClassRest verbose (current.combine .intersection) outer rest
  | '-' :: '-' :: rest => readClassRest verbose (current.combine .difference) outer rest
  | '~' :: '~' :: rest => readClassRest verbose (current.combine .symmetricDifference) outer rest
  | c :: rest =>
    match _hi : readClassItem verbose (c :: rest) with
    | .error fault => .error fault
    | .ok (item, rest') => readClassRest verbose (current.add item) outer rest'
termination_by text.length
decreasing_by
  all_goals
    have hs := skip_length_le verbose text
    simp only [_h, List.length_cons] at hs
  · have := readNamedClass?_length_lt _hn
    omega
  · have := readClassOpening_length_le _ho
    omega
  · omega
  · omega
  · omega
  · omega
  · have := readClassItem_length_lt _hi
    rw [List.length_cons] at this
    omega

/-- A class after its opening bracket: whether it is negated, and what it holds. -/
def readClass (verbose : Bool) (text : List Char) :
    Except Fault ((Bool × ClassSet) × List Char) :=
  match readClassOpening verbose text with
  | .error fault => .error fault
  | .ok (c, rest) => readClassRest verbose c [] rest

/-- What the rest of a class is, by its next character. -/
theorem readClassRest_eq (verbose : Bool) (current : OpenClass) (outer : List OpenClass)
    (text : List Char) :
    readClassRest verbose current outer text =
      match skip verbose text with
      | [] => .error .unclosedClass
      | '[' :: rest =>
        match readNamedClass? rest with
        | some (item, rest') => readClassRest verbose (current.add item) outer rest'
        | none =>
          match readClassOpening verbose rest with
          | .error fault => .error fault
          | .ok (inner, rest') => readClassRest verbose inner (current :: outer) rest'
      | ']' :: rest =>
        match outer with
        | [] => .ok ((current.negated, current.content), rest)
        | around :: outer =>
          readClassRest verbose (around.add (.bracketed current.negated current.content)) outer rest
      | '&' :: '&' :: rest => readClassRest verbose (current.combine .intersection) outer rest
      | '-' :: '-' :: rest => readClassRest verbose (current.combine .difference) outer rest
      | '~' :: '~' :: rest =>
        readClassRest verbose (current.combine .symmetricDifference) outer rest
      | c :: rest =>
        match readClassItem verbose (c :: rest) with
        | .error fault => .error fault
        | .ok (item, rest') => readClassRest verbose (current.add item) outer rest' := by
  conv => lhs; unfold readClassRest
  split
  · simp only [*]
  · simp only [*]
    split
    · simp only [*]
    · simp only [*]
      split <;> simp only [*]
  · rename_i hclose
    rw [hclose]
    cases outer <;> rfl
  · simp only [*]
  · simp only [*]
  · simp only [*]
  · simp only [*]
    split <;> simp only [*]

theorem readClassRest_length_lt {verbose : Bool} {current : OpenClass} {outer : List OpenClass}
    {text rest : List Char} {r : Bool × ClassSet}
    (h : readClassRest verbose current outer text = .ok (r, rest)) :
    rest.length < text.length := by
  have hs := skip_length_le verbose text
  fun_induction readClassRest verbose current outer text with
  | case1 => simp at h
  | case2 current outer text t ht item u hn ih =>
    have h₁ := readNamedClass?_length_lt hn
    have h₂ := ih h (skip_length_le verbose u)
    rw [ht, List.length_cons] at hs
    omega
  | case3 => simp at h
  | case4 current outer text t ht hn inner u ho ih =>
    have h₁ := readClassOpening_length_le ho
    have h₂ := ih h (skip_length_le verbose u)
    rw [ht, List.length_cons] at hs
    omega
  | case5 current text t ht =>
    cases h
    rw [ht, List.length_cons] at hs
    omega
  | case6 current text t ht around outer ih =>
    have h₂ := ih h (skip_length_le verbose t)
    rw [ht, List.length_cons] at hs
    omega
  | case7 current outer text t ht ih =>
    have h₂ := ih h (skip_length_le verbose t)
    simp only [ht, List.length_cons] at hs
    omega
  | case8 current outer text t ht ih =>
    have h₂ := ih h (skip_length_le verbose t)
    simp only [ht, List.length_cons] at hs
    omega
  | case9 current outer text t ht ih =>
    have h₂ := ih h (skip_length_le verbose t)
    simp only [ht, List.length_cons] at hs
    omega
  | case10 => simp at h
  | case11 current outer text c t _ _ _ _ _ ht item u hi ih =>
    have h₁ := readClassItem_length_lt hi
    have h₂ := ih h (skip_length_le verbose u)
    simp only [ht, List.length_cons] at hs h₁
    omega

theorem readClass_length_lt {verbose : Bool} {text rest : List Char} {r : Bool × ClassSet}
    (h : readClass verbose text = .ok (r, rest)) : rest.length < text.length := by
  unfold readClass at h
  split at h
  · simp at h
  · rename_i ho
    exact Nat.lt_of_lt_of_le (readClassRest_length_lt h) (readClassOpening_length_le ho)

end ExpiringCache.Regex
