import ExpiringCache.Regex.Class
import ExpiringCache.Regex.Count
import ExpiringCache.Regex.Opening

/-!
# Reading regular expressions

An expression is read part by part. The innermost open group is kept apart from those around it;
the whole expression is the outermost group, which no parenthesis opened. `ofText` also holds an
expression to the depth that is allowed.
-/

namespace ExpiringCache.Regex

/-- What becomes of a group when it is closed. -/
inductive GroupKind where
  | capture
  | plain (changes : FlagChanges)
  deriving DecidableEq, Repr

/-- A group that is being read: what to make of it, whether the text around it is verbose, and
its finished branches and the items of the current one, the latest first. -/
structure OpenGroup where
  kind : GroupKind
  verboseAround : Bool
  branches : List Expr
  items : List Expr
  deriving DecidableEq, Repr

namespace OpenGroup

/-- A group of which nothing has been read. -/
def start (kind : GroupKind) (verboseAround : Bool) : OpenGroup := ⟨kind, verboseAround, [], []⟩

/-- The group with an item more. -/
def add (g : OpenGroup) (e : Expr) : OpenGroup := { g with items := e :: g.items }

/-- The group after a bar. -/
def nextBranch (g : OpenGroup) : OpenGroup :=
  { g with branches := Expr.ofItems g.items.reverse :: g.branches, items := [] }

/-- What is between the parentheses if the group ends here. -/
def content (g : OpenGroup) : Expr :=
  Expr.ofBranches (Expr.ofItems g.items.reverse :: g.branches).reverse

/-- The group as an expression. -/
def close (g : OpenGroup) : Expr :=
  match g.kind with
  | .capture => .capture g.content
  | .plain changes => .group changes g.content

/-- The group with its last item repeated. A directive cannot be repeated. -/
def repeatLast (g : OpenGroup) (count : Count) : Except Fault OpenGroup :=
  match g.items with
  | [] => .error .missingOperand
  | .flags _ :: _ => .error .missingOperand
  | e :: rest => .ok { g with items := .repeated e count :: rest }

end OpenGroup

/-- How far an expression has been read: the innermost group, those around it, whether the text
is verbose, and the names given to groups. -/
structure Progress where
  current : OpenGroup
  around : List OpenGroup
  verbose : Bool
  names : List (List Char)
  deriving DecidableEq, Repr

namespace Progress

/-- Nothing has been read. -/
def start : Progress := ⟨.start (.plain []) false, [], false, []⟩

/-- An item more in the current group. -/
def add (p : Progress) (e : Expr) : Progress := { p with current := p.current.add e }

/-- A group opened inside the current one. -/
def openGroup (p : Progress) (kind : GroupKind) (verbose : Bool) : Progress :=
  { p with current := .start kind p.verbose, around := p.current :: p.around, verbose }

/-- What a parenthesis does. -/
def enter (p : Progress) : Opening → Except Fault Progress
  | .capture => .ok (p.openGroup .capture p.verbose)
  | .named name =>
    if name ∈ p.names then .error .repeatedGroupName
    else .ok { p.openGroup .capture p.verbose with names := name :: p.names }
  | .plain changes =>
    .ok (p.openGroup (.plain changes) ((changes.state? .verbose).getD p.verbose))
  | .directive changes =>
    .ok { p.add (.flags changes) with verbose := (changes.state? .verbose).getD p.verbose }

/-- The current group closed. -/
def leave (p : Progress) : Except Fault Progress :=
  match p.around with
  | [] => .error .unopenedGroup
  | outer :: around =>
    .ok { p with
      current := outer.add p.current.close, around, verbose := p.current.verboseAround }

/-- The last item repeated. -/
def repeatLast (p : Progress) (count : Count) : Except Fault Progress :=
  match p.current.repeatLast count with
  | .error fault => .error fault
  | .ok current => .ok { p with current }

/-- The expression, if no group is open. -/
def finish (p : Progress) : Except Fault Expr :=
  match p.around with
  | [] => .ok p.current.content
  | _ :: _ => .error .unclosedGroup

end Progress

/-- The character or escape at the front of a text. -/
def readAtom (verbose : Bool) (c : Char) (rest : List Char) :
    Except Fault (Atom × List Char) :=
  if c = '\\' then readEscape verbose rest
  else if c = '.' then .ok (.dot, rest)
  else if c = '^' then .ok (.place .lineStart, rest)
  else if c = '$' then .ok (.place .lineEnd, rest)
  else .ok (.literal c false, rest)

/-- One part of an expression, which starts with a given character. -/
def step (p : Progress) (c : Char) (rest : List Char) : Except Fault (Progress × List Char) :=
  if c = '(' then
    match readOpening p.verbose rest with
    | .error fault => .error fault
    | .ok (opening, rest) => (p.enter opening).map (·, rest)
  else if c = ')' then p.leave.map (·, rest)
  else if c = '|' then .ok ({ p with current := p.current.nextBranch }, rest)
  else if c = '[' then
    match readClass p.verbose rest with
    | .error fault => .error fault
    | .ok ((negated, set), rest) => .ok (p.add (.bracketed negated set), rest)
  else if c = '?' then
    let (greedy, rest) := readGreed rest
    (p.repeatLast ⟨0, some 1, greedy⟩).map (·, rest)
  else if c = '*' then
    let (greedy, rest) := readGreed rest
    (p.repeatLast ⟨0, none, greedy⟩).map (·, rest)
  else if c = '+' then
    let (greedy, rest) := readGreed rest
    (p.repeatLast ⟨1, none, greedy⟩).map (·, rest)
  else if c = '\x7b' then
    match readCount p.verbose rest with
    | .error fault => .error fault
    | .ok (count, rest) => (p.repeatLast count).map (·, rest)
  else
    match readAtom p.verbose c rest with
    | .error fault => .error fault
    | .ok (a, rest) => .ok (p.add (.atom a), rest)

theorem readAtom_length_le {verbose : Bool} {c : Char} {text rest : List Char} {a : Atom}
    (h : readAtom verbose c text = .ok (a, rest)) : rest.length ≤ text.length := by
  unfold readAtom at h
  repeat' split at h
  all_goals first
    | exact Nat.le_of_lt (readEscape_length_lt h)
    | (cases h; exact Nat.le_refl _)

theorem map_pair_eq_ok_iff {α β ε : Type} {x : Except ε α} {b b' : β} {a : α} :
    x.map (·, b) = .ok (a, b') ↔ x = .ok a ∧ b = b' := by
  cases x <;> simp [Except.map]

theorem step_length_le {p q : Progress} {c : Char} {text rest : List Char}
    (h : step p c text = .ok (q, rest)) : rest.length ≤ text.length := by
  have hq := readGreed_length_le text
  unfold step at h
  repeat' split at h
  all_goals first
    | (rename_i hr; exact (map_pair_eq_ok_iff.1 h).2 ▸ readOpening_length_le hr)
    | (rename_i hr; exact (map_pair_eq_ok_iff.1 h).2 ▸ readCount_length_le hr)
    | (rename_i hr; rw [hr] at hq; exact (map_pair_eq_ok_iff.1 h).2 ▸ hq)
    | exact (map_pair_eq_ok_iff.1 h).2 ▸ Nat.le_refl text.length
    | (rename_i hr; cases h; exact Nat.le_of_lt (readClass_length_lt hr))
    | (rename_i hr; cases h; exact readAtom_length_le hr)
    | (cases h; exact Nat.le_refl _)
    | simp at h

/-- The rest of an expression. -/
def readRest (p : Progress) (text : List Char) : Except Fault Expr :=
  match _h : skip p.verbose text with
  | [] => p.finish
  | c :: rest =>
    match _hs : step p c rest with
    | .error fault => .error fault
    | .ok (q, rest') => readRest q rest'
termination_by text.length
decreasing_by
  have h₁ := skip_length_le p.verbose text
  have h₂ := step_length_le _hs
  rw [_h, List.length_cons] at h₁
  omega

/-- What the rest of an expression is, by its next step. -/
theorem readRest_eq (p : Progress) (text : List Char) :
    readRest p text =
      match skip p.verbose text with
      | [] => p.finish
      | c :: rest =>
        match step p c rest with
        | .error fault => .error fault
        | .ok (q, rest') => readRest q rest' := by
  conv => lhs; unfold readRest
  split
  · simp only [*]
  · simp only [*]
    split <;> simp only [*]

/-- Reads a regular expression. -/
def Expr.ofText (text : List Char) : Except Fault Expr :=
  match readRest .start text with
  | .error fault => .error fault
  | .ok e => if e.depth ≤ maxDepth then .ok e else .error .tooDeep

end ExpiringCache.Regex
