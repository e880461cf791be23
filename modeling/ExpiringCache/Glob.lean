/-!
# Globs

A glob is a sequence of items: `*` for any run of characters, `?` for any one character, a class
in brackets, and characters that stand for themselves, if need be after a backslash. `ofText`
reads a glob and names the leftmost fault of a text that is none, `regexText` writes the regular
expression with the same meaning, and `Accepts` is that meaning.
-/

namespace ExpiringCache

namespace Glob

/-- What a class lists: a character, or all from one to another. -/
inductive Member where
  | single (c : Char)
  | range (lo hi : Char)
  deriving DecidableEq, Repr

/-- One part of a glob. -/
inductive Item where
  | anyRun
  | anyOne
  | literal (c : Char)
  | oneOf (negated : Bool) (members : List Member)
  deriving DecidableEq, Repr

/-- What is wrong with a text that is no glob. -/
inductive Fault where
  | trailingEscape
  | unterminatedClass
  | emptyClass
  | badClass
  | incompleteRange
  | reversedRange
  deriving DecidableEq, Repr

/-- The words for a fault. -/
def Fault.reason : Fault → String
  | trailingEscape => "trailing escape"
  | unterminatedClass => "unterminated character class"
  | emptyClass => "empty character class"
  | badClass => "bad character class"
  | incompleteRange => "incomplete range"
  | reversedRange => "reversed range"

/-- The class character that starts with a given one, and the text after it. A backslash takes
the next character as it is; a bare hyphen or closing bracket is no class character. -/
def classChar? (c : Char) (rest : List Char) : Option (Char × List Char) :=
  if c = '\\' then
    match rest with
    | [] => none
    | d :: rest => some (d, rest)
  else if c = '-' ∨ c = ']' then none
  else some (c, rest)

/-- The second end of a range, whose first end has been read. -/
def readRangeEnd (lo : Char) (text : List Char) : Except Fault (Member × List Char) :=
  match text with
  | [] => .error .incompleteRange
  | c :: rest =>
    match classChar? c rest with
    | none => .error .incompleteRange
    | some (hi, rest) => if hi < lo then .error .reversedRange else .ok (.range lo hi, rest)

/-- The member of a class that starts with a given character. -/
def readMember (c : Char) (rest : List Char) : Except Fault (Member × List Char) :=
  match classChar? c rest with
  | none => .error .badClass
  | some (lo, '-' :: rest) => readRangeEnd lo rest
  | some (lo, rest) => .ok (.single lo, rest)

theorem classChar?_length_le {c d : Char} {text rest : List Char}
    (h : classChar? c text = some (d, rest)) : rest.length ≤ text.length := by
  unfold classChar? at h
  split at h
  · split at h
    · simp at h
    · simp only [Option.some.injEq, Prod.mk.injEq] at h
      simp [← h.2]
  · split at h
    · simp at h
    · simp only [Option.some.injEq, Prod.mk.injEq] at h
      simp [← h.2]

theorem readRangeEnd_length_le {lo : Char} {text rest : List Char} {m : Member}
    (h : readRangeEnd lo text = .ok (m, rest)) : rest.length ≤ text.length := by
  unfold readRangeEnd at h
  split at h
  · simp at h
  · split at h
    · simp at h
    · rename_i hc
      have := classChar?_length_le hc
      split at h
      · simp at h
      · simp only [Except.ok.injEq, Prod.mk.injEq] at h
        simp only [List.length_cons, ← h.2]
        omega

theorem readMember_length_le {c : Char} {text rest : List Char} {m : Member}
    (h : readMember c text = .ok (m, rest)) : rest.length ≤ text.length := by
  unfold readMember at h
  split at h
  · simp at h
  · rename_i hc
    have h₁ := classChar?_length_le hc
    have h₂ := readRangeEnd_length_le h
    simp only [List.length_cons] at h₁
    omega
  · rename_i hc
    have := classChar?_length_le hc
    simp only [Except.ok.injEq, Prod.mk.injEq] at h
    simpa [← h.2] using this

/-- The members of a class up to its closing bracket, after those already read. -/
def readMembers (found : List Member) (text : List Char) :
    Except Fault (List Member × List Char) :=
  match text with
  | [] => .error .unterminatedClass
  | c :: rest =>
    if c = ']' then
      if found.isEmpty then .error .emptyClass else .ok (found, rest)
    else
      match _h : readMember c rest with
      | .error fault => .error fault
      | .ok (m, rest') => readMembers (found ++ [m]) rest'
termination_by text.length
decreasing_by
  have := readMember_length_le _h
  simp only [List.length_cons]
  omega

theorem readMembers_length_lt {found members : List Member} {text rest : List Char}
    (h : readMembers found text = .ok (members, rest)) : rest.length < text.length := by
  fun_induction readMembers found text with
  | case1 => simp at h
  | case2 => simp at h
  | case3 =>
    simp only [Except.ok.injEq, Prod.mk.injEq] at h
    simp [← h.2]
  | case4 => simp at h
  | case5 found c rest' hc m rest'' hm ih =>
    have h₁ := readMember_length_le hm
    have h₂ := ih h
    simp only [List.length_cons]
    omega

/-- The class after its opening bracket. A caret right there negates it. -/
def readClass (text : List Char) : Except Fault (Item × List Char) :=
  match text with
  | '^' :: rest => (readMembers [] rest).map fun (members, rest) => (.oneOf true members, rest)
  | rest => (readMembers [] rest).map fun (members, rest) => (.oneOf false members, rest)

theorem readClass_length_lt {text rest : List Char} {item : Item}
    (h : readClass text = .ok (item, rest)) : rest.length < text.length := by
  unfold readClass at h
  split at h
  · rename_i t
    cases hm : readMembers [] t with
    | error => simp [hm, Except.map] at h
    | ok r =>
      have := readMembers_length_lt hm
      simp only [hm, Except.map, Except.ok.injEq, Prod.mk.injEq] at h
      simp only [← h.2, List.length_cons]
      omega
  · cases hm : readMembers [] text with
    | error => simp [hm, Except.map] at h
    | ok r =>
      have := readMembers_length_lt hm
      simp only [hm, Except.map, Except.ok.injEq, Prod.mk.injEq] at h
      simp only [← h.2]
      exact this

/-- The item at the front of a text that starts with a given character. -/
def readItem (c : Char) (rest : List Char) : Except Fault (Item × List Char) :=
  if c = '*' then .ok (.anyRun, rest)
  else if c = '?' then .ok (.anyOne, rest)
  else if c = '\\' then
    match rest with
    | [] => .error .trailingEscape
    | d :: rest => .ok (.literal d, rest)
  else if c = '[' then readClass rest
  else .ok (.literal c, rest)

theorem readItem_length_le {c : Char} {text rest : List Char} {item : Item}
    (h : readItem c text = .ok (item, rest)) : rest.length ≤ text.length := by
  unfold readItem at h
  split at h
  · simp only [Except.ok.injEq, Prod.mk.injEq] at h
    simp [← h.2]
  split at h
  · simp only [Except.ok.injEq, Prod.mk.injEq] at h
    simp [← h.2]
  split at h
  · split at h
    · simp at h
    · simp only [Except.ok.injEq, Prod.mk.injEq] at h
      simp [← h.2]
  split at h
  · exact Nat.le_of_lt (readClass_length_lt h)
  · simp only [Except.ok.injEq, Prod.mk.injEq] at h
    simp [← h.2]

/-- Reads a glob; of a text that is none, gives the leftmost fault. -/
def ofText (text : List Char) : Except Fault (List Item) :=
  match text with
  | [] => .ok []
  | c :: rest =>
    match _h : readItem c rest with
    | .error fault => .error fault
    | .ok (item, rest') =>
      match ofText rest' with
      | .error fault => .error fault
      | .ok items => .ok (item :: items)
termination_by text.length
decreasing_by
  have := readItem_length_le _h
  simp only [List.length_cons]
  omega

/-- The characters that mean something of their own in a regular expression. -/
def regexMeta : List Char := "\\.+*?()|[]\x7b\x7d^$#&-~".toList

/-- The characters that mean something of their own in a class of a regular expression. -/
def classMeta : List Char := "\\[]^-&~".toList

/-- A character after a backslash, if it is among those that need one. -/
def quoteAmong (special : List Char) (c : Char) : List Char :=
  if c ∈ special then ['\\', c] else [c]

/-- A member as it stands in a class of a regular expression. -/
def Member.regexText : Member → List Char
  | single c => quoteAmong classMeta c
  | range lo hi => quoteAmong classMeta lo ++ '-' :: quoteAmong classMeta hi

/-- An item as a regular expression. -/
def Item.regexText : Item → List Char
  | anyRun => ['.', '*']
  | anyOne => ['.']
  | literal c => quoteAmong regexMeta c
  | oneOf negated members =>
    '[' :: ((if negated then ['^'] else []) ++ members.flatMap Member.regexText ++ [']'])

/-- The regular expression that accepts what a glob accepts, bound to both ends of the key. -/
def regexText (items : List Item) : List Char :=
  "^(?s:".toList ++ items.flatMap Item.regexText ++ ")$".toList

/-- Whether a member covers a character. -/
def Member.covers : Member → Char → Prop
  | single c, d => d = c
  | range lo hi, d => lo ≤ d ∧ d ≤ hi

/-- Whether a class accepts a character. -/
def classAccepts (negated : Bool) (members : List Member) (c : Char) : Prop :=
  if negated then ¬ ∃ m ∈ members, m.covers c else ∃ m ∈ members, m.covers c

/-- The strings that an item stands for. -/
def Item.Accepts : Item → List Char → Prop
  | anyRun, _ => True
  | anyOne, s => ∃ c, s = [c]
  | literal c, s => s = [c]
  | oneOf negated members, s => ∃ c, s = [c] ∧ classAccepts negated members c

/-- The strings that a glob accepts: those that fall into one string for each item. -/
def Accepts : List Item → List Char → Prop
  | [], s => s = []
  | item :: items, s => ∃ s₁ s₂, s = s₁ ++ s₂ ∧ item.Accepts s₁ ∧ Accepts items s₂

/-- The literal of a pattern that is a literal followed by one star. -/
def literalPrefix? (text : List Char) : Option (List Char) :=
  match text.getLast? with
  | some '*' =>
    let start := text.dropLast
    if start.any (· ∈ ['*', '?', '[', '\\']) then none else some start
  | _ => none

end Glob

end ExpiringCache
