import ExpiringCache.Keyspace.Operations
import ExpiringCache.Proofs.LiteralPrefix

/-!
# The leftmost fault of a glob

A text that is no glob has a longest part that can still be continued to one (`Viable`). What is
due there, an item, a member of a class or the end of a range, and what stands there instead say
what is wrong with the text (`Violation`). Reading finds the fault at this place
(`ofText_eq_error_iff`), and each text is refused for one fault at most. The regular expression of
a text that is a glob is refused for nothing but its size (`wildcard_mode_accepts_globs`).
-/

namespace ExpiringCache

namespace Glob

/-- Whether a text can be continued to a glob. -/
def Viable (text : List Char) : Prop := ∃ more items, Spells (text ++ more) items

/-- The members that a text lists from its start to its end. -/
inductive Lists : List Char → List Member → Prop where
  | nil : Lists [] []
  | cons {m : Member} {members : List Member} {text rest : List Char} (hm : IsMember text m rest)
    (hmembers : Lists rest members) : Lists text (m :: members)

/-- What marks a class as negated, with the text after it. A caret that comes first is no
member. -/
def IsMark (mark text : List Char) : Prop := mark = ['^'] ∨ mark = [] ∧ text.head? ≠ some '^'

/-- Whether a text ends inside a class: items, an opening bracket, members, and a part that is
none so far. -/
def InClass (text : List Char) (members : List Member) (pending : List Char) : Prop :=
  ∃ before items mark inner, text = before ++ '[' :: (mark ++ (inner ++ pending)) ∧
    Spells before items ∧ IsMark mark (inner ++ pending) ∧ Lists inner members

/-- Whether a hyphen at the start of a text would make a range of the member before it. -/
def ExtendsLast (members : List Member) (text : List Char) : Prop :=
  text.head? = some '-' ∧ ∃ c, members.getLast? = some (.single c)

/-- What is wrong between the part of a text that has been read and the rest of it. -/
inductive Violation : List Char → List Char → Fault → Prop where
  /-- An item is due, and the text ends after a backslash. -/
  | trailingEscape {before : List Char} {items : List Item} (h : Spells before items) :
    Violation (before ++ ['\\']) [] .trailingEscape
  /-- A member or the closing bracket is due, and the text ends. -/
  | unterminated {before : List Char} {members : List Member} (h : InClass before members []) :
    Violation before [] .unterminatedClass
  /-- The first member is due, and the class is closed. -/
  | empty {before rest : List Char} (h : InClass before [] []) :
    Violation before (']' :: rest) .emptyClass
  /-- A member is due, and a hyphen stands there. -/
  | hyphen {before rest : List Char} {members : List Member} (h : InClass before members [])
    (hlast : ¬ ExtendsLast members ['-']) : Violation before ('-' :: rest) .badClass
  /-- A member is due, and the text ends after a backslash. -/
  | danglingMember {before : List Char} {members : List Member}
    (h : InClass before members ['\\']) : Violation before [] .badClass
  /-- The end of a range is due, and the text ends, if need be after a backslash. -/
  | cutRange {before first escape : List Char} {members : List Member} {lo : Char}
    (h : InClass before members (first ++ '-' :: escape)) (hlo : ClassChar first lo [])
    (hescape : escape = [] ∨ escape = ['\\']) : Violation before [] .incompleteRange
  /-- The end of a range is due, and a hyphen or a closing bracket stands there. -/
  | openRange {before first rest : List Char} {members : List Member} {lo c : Char}
    (h : InClass before members (first ++ ['-'])) (hlo : ClassChar first lo [])
    (hc : c = '-' ∨ c = ']') : Violation before (c :: rest) .incompleteRange
  /-- The end of a range stands there and is below its start. -/
  | reversed {before first escape rest : List Char} {members : List Member} {lo hi c : Char}
    (h : InClass before members (first ++ '-' :: escape)) (hlo : ClassChar first lo [])
    (hhi : ClassChar (escape ++ [c]) hi []) (hlt : hi < lo) :
    Violation before (c :: rest) .reversedRange

/-- What is wrong with a text at its leftmost fault: what stands before this place can be
continued to a glob, but not with the character that stands there. -/
def LeftmostFault (text : List Char) (fault : Fault) : Prop :=
  ∃ before rest, text = before ++ rest ∧ Viable before ∧
    (∀ c after, rest = c :: after → ¬ Viable (before ++ [c])) ∧ Violation before rest fault

section Append

variable {text rest : List Char} {c : Char} {m : Member} {members : List Member} {item : Item}

theorem ClassChar.append (h : ClassChar text c rest) (tail : List Char) :
    ClassChar (text ++ tail) c (rest ++ tail) := by
  cases h with
  | escaped => exact .escaped
  | plain hescape hhyphen hbracket => exact .plain hescape hhyphen hbracket

theorem IsMember.append (h : IsMember text m rest) (tail : List Char) :
    IsMember (text ++ tail) m (rest ++ tail) := by
  cases h with
  | single hc => exact .single (hc.append tail)
  | range hlo hhi hle => exact .range (hlo.append tail) (hhi.append tail) hle

theorem AreMembers.append (h : AreMembers text members rest) (tail : List Char) :
    AreMembers (text ++ tail) members (rest ++ tail) := by
  induction h with
  | last hm => exact .last (hm.append tail)
  | cons hm _ ih => exact .cons (hm.append tail) ih

theorem AreMembers.exists_cons (h : AreMembers text members rest) :
    ∃ a after, text = a :: after := by
  have hm : ∃ m after, IsMember text m after := by
    cases h with
    | last hm => exact ⟨_, _, hm⟩
    | cons hm => exact ⟨_, _, hm⟩
  obtain ⟨m, after, hm⟩ := hm
  obtain ⟨a, after, rfl, -⟩ := hm.exists_cons
  exact ⟨a, after, rfl⟩

theorem IsItem.append (h : IsItem text item rest) (tail : List Char) :
    IsItem (text ++ tail) item (rest ++ tail) := by
  cases h with
  | anyRun => exact .anyRun
  | anyOne => exact .anyOne
  | escaped => exact .escaped
  | plain hc => exact .plain hc
  | oneOf hcaret hmembers =>
    obtain ⟨a, after, rfl⟩ := hmembers.exists_cons
    exact .oneOf hcaret (hmembers.append tail)
  | noneOf hmembers => exact .noneOf (hmembers.append tail)

theorem Spells.append {items items' : List Item} {text' : List Char} (h : Spells text items)
    (h' : Spells text' items') : Spells (text ++ text') (items ++ items') := by
  induction h with
  | nil => exact h'
  | cons hitem _ ih => exact .cons (hitem.append text') ih

theorem Lists.snoc {front : List Char} (h : Lists text members) (hm : IsMember front m []) :
    Lists (text ++ front) (members ++ [m]) := by
  induction h with
  | nil => exact .cons hm .nil
  | cons hfirst _ ih => exact .cons (hfirst.append front) ih

theorem Lists.areMembers {inner : List Char} (h : Lists inner members)
    (hm : IsMember text m (']' :: rest)) : AreMembers (inner ++ text) (members ++ [m]) rest := by
  induction h with
  | nil => exact .last hm
  | cons hfirst _ ih => exact .cons (hfirst.append text) ih

end Append

section Front

variable {text rest : List Char} {c : Char} {m : Member} {members : List Member} {item : Item}

theorem ClassChar.exists_front (h : ClassChar text c rest) :
    ∃ front, text = front ++ rest ∧ ClassChar front c [] := by
  cases h with
  | escaped => exact ⟨['\\', c], rfl, .escaped⟩
  | plain hescape hhyphen hbracket => exact ⟨[c], rfl, .plain hescape hhyphen hbracket⟩

theorem IsMember.exists_front (h : IsMember text m rest) :
    ∃ front, text = front ++ rest ∧ IsMember front m [] := by
  cases h with
  | single hc =>
    obtain ⟨front, rfl, hfront⟩ := hc.exists_front
    exact ⟨front, rfl, .single hfront⟩
  | range hlo hhi hle =>
    obtain ⟨last, rfl, hlast⟩ := hhi.exists_front
    obtain ⟨first, rfl, hfirst⟩ := hlo.exists_front
    exact ⟨first ++ '-' :: last, by simp, .range (hfirst.append ('-' :: last)) hlast hle⟩

theorem AreMembers.exists_front (h : AreMembers text members rest) :
    ∃ front, text = front ++ rest ∧ AreMembers front members [] := by
  induction h with
  | last hm =>
    obtain ⟨front, rfl, hfront⟩ := hm.exists_front
    exact ⟨front ++ [']'], by simp, .last (hfront.append [']'])⟩
  | cons hm _ ih =>
    obtain ⟨last, rfl, hlast⟩ := ih
    obtain ⟨first, rfl, hfirst⟩ := hm.exists_front
    exact ⟨first ++ last, by simp, .cons (hfirst.append last) hlast⟩

theorem IsItem.exists_front (h : IsItem text item rest) :
    ∃ front, text = front ++ rest ∧ IsItem front item [] := by
  cases h with
  | anyRun => exact ⟨['*'], rfl, .anyRun⟩
  | anyOne => exact ⟨['?'], rfl, .anyOne⟩
  | escaped => exact ⟨['\\', _], rfl, .escaped⟩
  | plain hc => exact ⟨[_], rfl, .plain hc⟩
  | oneOf hcaret hmembers =>
    obtain ⟨front, rfl, hfront⟩ := hmembers.exists_front
    obtain ⟨a, after, rfl⟩ := hfront.exists_cons
    exact ⟨'[' :: a :: after, rfl, .oneOf hcaret hfront⟩
  | noneOf hmembers =>
    obtain ⟨front, rfl, hfront⟩ := hmembers.exists_front
    exact ⟨'[' :: '^' :: front, rfl, .noneOf hfront⟩

end Front

section Classes

variable {text pending rest : List Char} {members : List Member} {m : Member}

theorem IsMark.extend {mark inner : List Char} (h : IsMark mark (inner ++ pending))
    (hrest : pending = [] → rest.head? ≠ some '^') :
    IsMark mark (inner ++ (pending ++ rest)) := by
  rcases h with h | ⟨h, hhead⟩
  · exact .inl h
  · refine .inr ⟨h, ?_⟩
    cases inner with
    | nil =>
      cases pending with
      | nil => exact hrest rfl
      | cons => exact hhead
    | cons => exact hhead

theorem IsMark.cut {mark inner : List Char} (h : IsMark mark (inner ++ (pending ++ rest))) :
    IsMark mark (inner ++ pending) := by
  rcases h with h | ⟨h, hhead⟩
  · exact .inl h
  · refine .inr ⟨h, ?_⟩
    cases inner with
    | nil =>
      cases pending with
      | nil => simp
      | cons => exact hhead
    | cons => exact hhead

theorem InClass.extend (h : InClass text members pending) (rest : List Char)
    (hrest : pending = [] → rest.head? ≠ some '^') :
    InClass (text ++ rest) members (pending ++ rest) := by
  obtain ⟨before, items, mark, inner, rfl, hbefore, hmark, hinner⟩ := h
  exact ⟨before, items, mark, inner, by simp, hbefore, hmark.extend hrest, hinner⟩

theorem InClass.cut (pending : List Char) (h : InClass text members (pending ++ rest)) :
    ∃ front, text = front ++ rest ∧ InClass front members pending := by
  obtain ⟨before, items, mark, inner, rfl, hbefore, hmark, hinner⟩ := h
  exact ⟨before ++ '[' :: (mark ++ (inner ++ pending)), by simp, before, items, mark, inner, rfl,
    hbefore, hmark.cut, hinner⟩

/-- A member read is a member more. -/
theorem InClass.next (h : InClass text members pending) (hm : IsMember pending m rest) :
    InClass text (members ++ [m]) rest := by
  obtain ⟨before, items, mark, inner, rfl, hbefore, hmark, hinner⟩ := h
  obtain ⟨front, rfl, hfront⟩ := hm.exists_front
  rw [← List.append_assoc inner] at hmark ⊢
  exact ⟨before, items, mark, inner ++ front, rfl, hbefore, hmark, hinner.snoc hfront⟩

/-- Inside a class a text can be continued if what is pending can be continued to a member. -/
theorem InClass.viable (h : InClass text members pending) (more : List Char)
    (hmore : pending = [] → more.head? ≠ some '^') (hm : IsMember (pending ++ more) m [']']) :
    Viable text := by
  obtain ⟨before, items, mark, inner, htext, hbefore, hmark, hinner⟩ := h.extend more hmore
  have hmembers := hinner.areMembers hm
  refine ⟨more, ?_⟩
  rw [htext]
  rcases hmark with rfl | ⟨rfl, hhead⟩
  · exact ⟨_, hbefore.append (.cons (.noneOf hmembers) .nil)⟩
  · exact ⟨_, hbefore.append (.cons (.oneOf hhead hmembers) .nil)⟩

theorem Lists.head?_ne (h : Lists text (m :: members)) (tail : List Char) :
    (text ++ tail).head? ≠ some '-' := by
  cases h with
  | cons hm _ =>
    obtain ⟨a, after, rfl, ha, -⟩ := hm.exists_cons
    simpa using ha

/-- Members are read one after another, unless a hyphen after the last one makes a range of
it. -/
theorem Lists.readMembers {inner : List Char} (h : Lists inner members)
    (hlast : ¬ ExtendsLast members text) (found : List Member) :
    Glob.readMembers found (inner ++ text) = Glob.readMembers (found ++ members) text := by
  induction h generalizing found with
  | nil => rw [List.append_nil, List.nil_append]
  | @cons m members front rest hm hmembers ih =>
    have hnext : ∀ d, m = .single d → (rest ++ text).head? ≠ some '-' := by
      rintro d rfl hhead
      cases hmembers with
      | nil => exact hlast ⟨hhead, d, rfl⟩
      | cons hm' hmembers' => exact (Lists.cons hm' hmembers').head?_ne text hhead
    have hrest : ¬ ExtendsLast members text := by
      rintro ⟨hhead, d, hd⟩
      exact hlast ⟨hhead, d, by rw [List.getLast?_cons, hd]; rfl⟩
    rw [readMembers_isMember found (hm.append text) hnext, ih hrest, List.append_assoc]
    rfl

theorem readMembers_of_readMember {found : List Member} {c : Char} {fault : Fault} (hc : c ≠ ']')
    (h : readMember c rest = .error fault) :
    Glob.readMembers found (c :: rest) = .error fault := by
  rw [Glob.readMembers, if_neg hc]
  split
  · rename_i hread
    rw [h, Except.error.injEq] at hread
    rw [hread]
  · rename_i hread
    rw [h] at hread
    simp at hread

theorem map_eq_error_iff {α β ε : Type} {x : Except ε α} {f : α → β} {e : ε} :
    x.map f = .error e ↔ x = .error e := by
  cases x <;> simp [Except.map]

theorem Spells.ofText_append {before : List Char} {items : List Item} (h : Spells before items)
    (text : List Char) : ofText (before ++ text) = (ofText text).map (items ++ ·) := by
  induction h with
  | nil =>
    rw [List.nil_append]
    cases ofText text <;> rfl
  | @cons item items front rest hitem _ ih =>
    obtain ⟨c, after, rfl⟩ := hitem.exists_cons
    have hread : readItem c (after ++ text) = .ok (item, rest ++ text) :=
      readItem_eq_ok_iff.2 (hitem.append text)
    rw [List.cons_append, ofText]
    split
    · rename_i hitem'
      rw [hread] at hitem'
      simp at hitem'
    · rename_i hitem'
      rw [hread, Except.ok.injEq, Prod.mk.injEq] at hitem'
      rw [← hitem'.1, ← hitem'.2, ih]
      cases ofText text <;> rfl

theorem ofText_of_readItem {c : Char} {fault : Fault} (h : readItem c rest = .error fault) :
    ofText (c :: rest) = .error fault := by
  rw [ofText]
  split
  · rename_i hread
    rw [h, Except.error.injEq] at hread
    rw [hread]
  · rename_i hread
    rw [h] at hread
    simp at hread

/-- A text is refused for what is wrong where its members end. -/
theorem InClass.ofText {fault : Fault} (h : InClass text members pending)
    (hlast : ¬ ExtendsLast members pending)
    (hread : Glob.readMembers members pending = .error fault) :
    Glob.ofText text = .error fault := by
  obtain ⟨before, items, mark, inner, rfl, hbefore, hmark, hinner⟩ := h
  have hmembers : Glob.readMembers [] (inner ++ pending) = .error fault := by
    rw [hinner.readMembers hlast, List.nil_append, hread]
  have hclass : readClass (mark ++ (inner ++ pending)) = .error fault := by
    rcases hmark with rfl | ⟨rfl, hhead⟩
    · exact map_eq_error_iff.2 hmembers
    · rw [List.nil_append]
      unfold readClass
      split
      · rename_i heq
        rw [heq] at hhead
        exact absurd rfl hhead
      · exact map_eq_error_iff.2 hmembers
  rw [hbefore.ofText_append]
  exact map_eq_error_iff.2 (ofText_of_readItem hclass)

end Classes

section Faults

variable {before text rest first : List Char} {members : List Member} {lo c : Char} {fault : Fault}

theorem classChar?_eq_none_iff :
    classChar? c rest = none ↔ c = '-' ∨ c = ']' ∨ c = '\\' ∧ rest = [] := by
  unfold classChar?
  split_ifs with hescape hmark
  · cases rest <;> simp [hescape]
  · simpa using hmark.imp id .inl
  · simp only [false_iff]
    rintro (h | h | h)
    · exact hmark (.inl h)
    · exact hmark (.inr h)
    · exact hescape h.1

theorem not_extendsLast_of_head?_ne (h : text.head? ≠ some '-') : ¬ ExtendsLast members text :=
  fun hextends => h hextends.1

theorem not_extendsLast_of_classChar {tail : List Char} (hlo : ClassChar first lo []) :
    ¬ ExtendsLast members (first ++ tail) := by
  obtain ⟨a, after, rfl, ha, -⟩ := hlo.exists_cons
  exact not_extendsLast_of_head?_ne (by simpa using ha)

/-- After the hyphen of a range its end is read. -/
theorem readMembers_range (hlo : ClassChar first lo []) {tail : List Char}
    (h : readRangeEnd lo tail = .error fault) :
    readMembers members (first ++ '-' :: tail) = .error fault := by
  obtain ⟨a, after, rfl, -, ha⟩ := hlo.exists_cons
  show readMembers members (a :: (after ++ '-' :: tail)) = _
  refine readMembers_of_readMember ha ?_
  have hchar : classChar? a (after ++ '-' :: tail) = some (lo, '-' :: tail) :=
    classChar?_eq_some_iff.2 (hlo.append ('-' :: tail))
  unfold readMember
  rw [hchar]
  exact h

theorem readRangeEnd_of_none (h : classChar? c rest = none) :
    readRangeEnd lo (c :: rest) = .error .incompleteRange := by
  simp only [readRangeEnd, h]

theorem readRangeEnd_of_lt {hi : Char} (h : ClassChar (c :: text) hi rest) (hlt : hi < lo) :
    readRangeEnd lo (c :: text) = .error .reversedRange := by
  simp only [readRangeEnd, classChar?_eq_some_iff.2 h, if_pos hlt]

/-- What is wrong with a text is what it is refused for. -/
theorem Violation.ofText (h : Violation before rest fault) :
    Glob.ofText (before ++ rest) = .error fault := by
  cases h with
  | trailingEscape h =>
    rw [List.append_nil, h.ofText_append]
    exact map_eq_error_iff.2 (ofText_of_readItem rfl)
  | unterminated h =>
    rw [List.append_nil]
    exact h.ofText (not_extendsLast_of_head?_ne (by simp)) (by rw [readMembers])
  | empty h =>
    refine (h.extend _ (by simp)).ofText (not_extendsLast_of_head?_ne (by simp)) ?_
    rw [List.nil_append, readMembers]
    rfl
  | hyphen h hlast =>
    exact (h.extend _ (by simp)).ofText (fun hextends => hlast ⟨rfl, hextends.2⟩)
      (readMembers_of_readMember (by decide) rfl)
  | danglingMember h =>
    rw [List.append_nil]
    exact h.ofText (not_extendsLast_of_head?_ne (by simp))
      (readMembers_of_readMember (by decide) rfl)
  | cutRange h hlo hescape =>
    rw [List.append_nil]
    refine h.ofText (not_extendsLast_of_classChar hlo) (readMembers_range hlo ?_)
    rcases hescape with rfl | rfl <;> rfl
  | @openRange _ _ tail _ _ c h hlo hc =>
    have hwhole := h.extend (c :: tail) fun hnil => by simp at hnil
    rw [List.append_assoc] at hwhole
    refine hwhole.ofText (not_extendsLast_of_classChar hlo) (readMembers_range hlo ?_)
    exact readRangeEnd_of_none (classChar?_eq_none_iff.2 (hc.imp id .inl))
  | @reversed _ _ escape tail _ _ hi c h hlo hhi hlt =>
    have hwhole := h.extend (c :: tail) fun hnil => by simp at hnil
    rw [List.append_assoc, List.cons_append] at hwhole
    refine hwhole.ofText (not_extendsLast_of_classChar hlo) (readMembers_range hlo ?_)
    have hend := hhi.append tail
    rw [List.append_assoc, List.cons_append, List.nil_append] at hend
    obtain ⟨a, after, ha, -, -⟩ := hend.exists_cons
    rw [ha] at hend ⊢
    exact readRangeEnd_of_lt hend hlt

/-- What is wrong does not depend on what follows the place where it is. -/
theorem Violation.congr (h : Violation before (c :: rest) fault) (after : List Char) :
    Violation before (c :: after) fault := by
  cases h with
  | empty h => exact .empty h
  | hyphen h hlast => exact .hyphen h hlast
  | openRange h hlo hc => exact .openRange h hlo hc
  | reversed h hlo hhi hlt => exact .reversed h hlo hhi hlt

theorem Violation.not_viable (h : Violation before (c :: rest) fault) :
    ¬ Viable (before ++ [c]) := by
  rintro ⟨more, items, hspells⟩
  have hread := ofText_eq_ok_iff.2 hspells
  rw [List.append_assoc, List.singleton_append, (h.congr more).ofText] at hread
  simp at hread

theorem isMember_letter (rest : List Char) : IsMember ('a' :: rest) (.single 'a') rest :=
  .single (.plain (by decide) (by decide) (by decide))

/-- In a range that has no end yet, its start can be its end. -/
theorem InClass.viable_of_range {escape : List Char} (hlo : ClassChar first lo [])
    (h : InClass text members (first ++ '-' :: escape)) (hescape : escape = [] ∨ escape = ['\\']) :
    Viable text := by
  have hrange : ∀ tail, ClassChar tail lo [']'] →
      IsMember (first ++ '-' :: tail) (.range lo lo) [']'] := fun tail htail =>
    .range (hlo.append ('-' :: tail)) htail (Char.le_refl lo)
  have hpending : first ++ '-' :: escape = [] → ∀ more : List Char, more.head? ≠ some '^' := by
    intro hnil
    simp at hnil
  rcases hescape with rfl | rfl
  · refine h.viable (m := .range lo lo) ['\\', lo, ']'] (fun hnil => hpending hnil _) ?_
    simpa using hrange _ .escaped
  · refine h.viable (m := .range lo lo) [lo, ']'] (fun hnil => hpending hnil _) ?_
    simpa using hrange _ .escaped

theorem Violation.viable (h : Violation before rest fault) : Viable before := by
  cases h with
  | @trailingEscape before items h =>
    refine ⟨['a'], items ++ [.literal 'a'], ?_⟩
    rw [List.append_assoc]
    exact h.append (.cons .escaped .nil)
  | unterminated h | empty h | hyphen h _ =>
    exact h.viable ['a', ']'] (by simp) (isMember_letter [']'])
  | danglingMember h =>
    exact h.viable ['a', ']'] (by simp) (.single .escaped)
  | cutRange h hlo hescape => exact h.viable_of_range hlo hescape
  | openRange h hlo _ => exact h.viable_of_range hlo (.inl rfl)
  | @reversed _ _ escape _ _ _ hi c h hlo hhi _ =>
    refine h.viable_of_range hlo ?_
    generalize hend : escape ++ [c] = tail at hhi
    cases hhi with
    | escaped =>
      cases escape with
      | nil => simp at hend
      | cons a escape =>
        obtain ⟨rfl, hescape⟩ := List.cons.inj hend
        cases escape with
        | nil => exact .inr rfl
        | cons b escape => simp at hescape
    | plain =>
      cases escape with
      | nil => exact .inl rfl
      | cons a escape => simp at hend

/-- What is wrong where the end of a range cannot be read. -/
theorem violation_of_readRangeEnd {tail : List Char}
    (hclass : InClass text members (first ++ '-' :: tail)) (hlo : ClassChar first lo [])
    (h : readRangeEnd lo tail = .error fault) :
    ∃ before after, text = before ++ after ∧ Violation before after fault := by
  unfold readRangeEnd at h
  split at h
  · cases h
    exact ⟨text, [], by simp, .cutRange hclass hlo (.inl rfl)⟩
  · rename_i d tail
    have hcut : InClass text members ((first ++ ['-']) ++ d :: tail) := by simpa using hclass
    split at h
    · rename_i hend
      cases h
      have hopen : d = '-' ∨ d = ']' →
          ∃ before after, text = before ++ after ∧ Violation before after .incompleteRange := by
        intro hd
        obtain ⟨front, rfl, hfront⟩ := hcut.cut _
        exact ⟨front, _, rfl, .openRange hfront hlo hd⟩
      rcases classChar?_eq_none_iff.1 hend with hd | hd | ⟨rfl, rfl⟩
      · exact hopen (.inl hd)
      · exact hopen (.inr hd)
      · exact ⟨text, [], by simp, .cutRange hclass hlo (.inr rfl)⟩
    · rename_i hi rest hend
      split_ifs at h with hlt
      cases h
      have hend := classChar?_eq_some_iff.1 hend
      generalize hwhole : d :: tail = whole at hend hcut
      cases hend with
      | escaped =>
        have hescape : InClass text members ((first ++ '-' :: ['\\']) ++ hi :: rest) := by
          simpa using hcut
        obtain ⟨front, rfl, hfront⟩ := hescape.cut _
        exact ⟨front, _, rfl, .reversed hfront hlo .escaped hlt⟩
      | plain hescape hhyphen hbracket =>
        obtain ⟨front, rfl, hfront⟩ := hcut.cut _
        exact ⟨front, _, rfl, .reversed hfront hlo (.plain hescape hhyphen hbracket) hlt⟩

/-- What is wrong where a member cannot be read. -/
theorem violation_of_readMember (hclass : InClass text members (c :: rest)) (hc : c ≠ ']')
    (hlast : ¬ ExtendsLast members (c :: rest)) (h : readMember c rest = .error fault) :
    ∃ before after, text = before ++ after ∧ Violation before after fault := by
  unfold readMember at h
  split at h
  · rename_i hchar
    cases h
    rcases classChar?_eq_none_iff.1 hchar with rfl | rfl | ⟨rfl, rfl⟩
    · obtain ⟨front, rfl, hfront⟩ := hclass.cut []
      exact ⟨front, _, rfl, .hyphen hfront fun hextends => hlast ⟨rfl, hextends.2⟩⟩
    · exact absurd rfl hc
    · exact ⟨text, [], by simp, .danglingMember hclass⟩
  · rename_i lo after hchar
    obtain ⟨first, hfirst, hlo⟩ := (classChar?_eq_some_iff.1 hchar).exists_front
    rw [hfirst] at hclass
    exact violation_of_readRangeEnd hclass hlo h
  · simp at h

theorem head?_ne_of_readMember {d : Char} (h : readMember c text = .ok (.single d, rest)) :
    rest.head? ≠ some '-' := by
  unfold readMember at h
  split at h
  · simp at h
  · unfold readRangeEnd at h
    split at h
    · simp at h
    · split at h
      · simp at h
      · split_ifs at h
        simp at h
  · rename_i hnot hchar
    simp only [Except.ok.injEq, Prod.mk.injEq] at h
    obtain ⟨-, rfl⟩ := h
    intro hhead
    obtain ⟨after, rfl⟩ := List.head?_eq_some_iff.1 hhead
    exact hnot after rfl

/-- What is wrong where the members of a class cannot be read. -/
theorem violation_of_readMembers (hclass : InClass text members rest)
    (hlast : ¬ ExtendsLast members rest) (h : readMembers members rest = .error fault) :
    ∃ before after, text = before ++ after ∧ Violation before after fault := by
  fun_induction readMembers members rest with
  | case1 members =>
    cases h
    exact ⟨text, [], by simp, .unterminated hclass⟩
  | case2 members rest hempty =>
    cases h
    rw [List.isEmpty_iff.1 hempty] at hclass
    obtain ⟨front, rfl, hfront⟩ := hclass.cut []
    exact ⟨front, _, rfl, .empty hfront⟩
  | case3 => simp at h
  | case4 members c rest hc fault' hread =>
    cases h
    exact violation_of_readMember hclass hc hlast hread
  | case5 members c rest hc m after hread ih =>
    refine ih (hclass.next (isMember_of_readMember hread)) ?_ h
    rintro ⟨hhead, d, hd⟩
    rw [List.getLast?_concat, Option.some.injEq] at hd
    exact head?_ne_of_readMember (hd ▸ hread) hhead

/-- A text is refused at an item that cannot be read, after items that can. -/
theorem exists_of_ofText_error (h : ofText text = .error fault) :
    ∃ before items c rest, text = before ++ c :: rest ∧ Spells before items ∧
      readItem c rest = .error fault := by
  fun_induction ofText text with
  | case1 => simp at h
  | case2 c rest fault' hread =>
    cases h
    exact ⟨[], [], c, rest, rfl, .nil, hread⟩
  | case3 c rest item after hread fault' hmore ih =>
    cases h
    obtain ⟨before, items, d, tail, rfl, hbefore, hitem⟩ := ih hmore
    obtain ⟨front, hfront, hspells⟩ := (readItem_eq_ok_iff.1 hread).exists_front
    refine ⟨front ++ before, item :: items, d, tail, ?_, .cons (hspells.append before) hbefore,
      hitem⟩
    rw [hfront, List.append_assoc]
  | case4 => simp at h

/-- A class is refused for its members, after the mark of a negated one. -/
theorem exists_of_readClass_error (h : readClass text = .error fault) :
    ∃ mark inner, text = mark ++ inner ∧ IsMark mark inner ∧
      readMembers [] inner = .error fault := by
  unfold readClass at h
  split at h
  · exact ⟨['^'], _, rfl, .inl rfl, map_eq_error_iff.1 h⟩
  · rename_i hcaret
    refine ⟨[], text, rfl, .inr ⟨rfl, fun hhead => ?_⟩, map_eq_error_iff.1 h⟩
    obtain ⟨after, rfl⟩ := List.head?_eq_some_iff.1 hhead
    exact hcaret after rfl

theorem exists_violation (h : ofText text = .error fault) :
    ∃ before rest, text = before ++ rest ∧ Violation before rest fault := by
  obtain ⟨before, items, c, rest, rfl, hbefore, hread⟩ := exists_of_ofText_error h
  unfold readItem at hread
  split_ifs at hread with hrun hone hescape hbracket
  · subst hescape
    split at hread
    · cases hread
      exact ⟨before ++ ['\\'], [], by simp, .trailingEscape hbefore⟩
    · simp at hread
  · subst hbracket
    obtain ⟨mark, inner, rfl, hmark, hmembers⟩ := exists_of_readClass_error hread
    refine violation_of_readMembers ⟨before, items, mark, [], rfl, hbefore, hmark, .nil⟩ ?_ hmembers
    rintro ⟨-, d, hd⟩
    simp at hd

theorem Violation.leftmostFault (h : Violation before rest fault) :
    LeftmostFault (before ++ rest) fault := by
  refine ⟨before, rest, rfl, h.viable, ?_, h⟩
  rintro c after rfl
  exact h.not_viable

/-- A text is refused for its leftmost fault. -/
theorem ofText_eq_error_iff : ofText text = .error fault ↔ LeftmostFault text fault := by
  constructor
  · intro h
    obtain ⟨before, rest, rfl, hviolation⟩ := exists_violation h
    exact hviolation.leftmostFault
  · rintro ⟨before, rest, rfl, -, -, hviolation⟩
    exact hviolation.ofText

end Faults

end Glob

namespace Matcher

variable {pattern : String}

theorem compile_of_spells {items : List Glob.Item} (h : Glob.Spells pattern.toList items) :
    (∃ m, compile pattern .wildcard = .ok m) ∨
      compile pattern .wildcard = .error (.regex .tooLarge) ∧
        (Glob.regex items).isSmallEnough = false := by
  show (∃ m, ofGlob pattern.toList = .ok m) ∨ ofGlob pattern.toList = _ ∧ _
  unfold ofGlob
  split
  · exact .inl ⟨_, rfl⟩
  · rw [Glob.ofText_eq_ok_iff.2 h]
    dsimp only
    rw [ofRegexText_of_spells h]
    cases (Glob.regex items).isSmallEnough with
    | true => exact .inl ⟨_, rfl⟩
    | false => exact .inr ⟨rfl, rfl⟩

theorem compile_eq_error_glob_iff {fault : Glob.Fault} :
    compile pattern .wildcard = .error (.glob fault) ↔
      Glob.LeftmostFault pattern.toList fault := by
  rw [← Glob.ofText_eq_error_iff]
  constructor
  · intro h
    cases hread : Glob.ofText pattern.toList with
    | ok items =>
      rcases compile_of_spells (Glob.ofText_eq_ok_iff.1 hread) with ⟨m, hm⟩ | ⟨hlarge, -⟩
      · rw [h] at hm
        simp at hm
      · rw [h] at hlarge
        simp at hlarge
    | error fault' =>
      change ofGlob pattern.toList = _ at h
      unfold ofGlob at h
      split at h
      · simp at h
      · rw [hread] at h
        cases h
        rfl
  · intro h
    show ofGlob pattern.toList = _
    unfold ofGlob
    split
    · -- A literal and a final star are a glob.
      rename_i hprefix
      obtain ⟨htext, hplain⟩ := Glob.literalPrefix?_eq_some_iff.1 hprefix
      rw [htext, Glob.ofText_eq_ok_iff.2 (Glob.spells_literalStar hplain)] at h
      simp at h
    · rw [h]

/-- A pattern is accepted in wildcard mode if and only if it spells a glob, unless its regular
expression grows too large, which is all that this can be refused for. A pattern that spells none
is refused for its leftmost fault, which is the only one it has, and the error gives the pattern
and the words for the fault. -/
theorem wildcard_mode_accepts_globs (pattern : String) :
    ((∃ m, compile pattern .wildcard = .ok m) ∨
        compile pattern .wildcard = .error (.regex .tooLarge) ↔
      ∃ items, Glob.Spells pattern.toList items) ∧
    (∀ fault, compile pattern .wildcard = .error (.regex fault) → fault = .tooLarge ∧
      ∃ items, Glob.Spells pattern.toList items ∧ (Glob.regex items).isSmallEnough = false) ∧
    (∀ fault, compile pattern .wildcard = .error (.glob fault) ↔
      Glob.LeftmostFault pattern.toList fault) ∧
    ((∀ items, ¬ Glob.Spells pattern.toList items) →
      ∃ fault, Glob.LeftmostFault pattern.toList fault ∧
        (∀ other, Glob.LeftmostFault pattern.toList other → other = fault) ∧
        ∀ (ks : Keyspace) now, (ks.searchFor pattern .wildcard now).answer =
          .error (.invalidPattern (pattern ++ ": " ++ fault.reason))) := by
  have hspelled : ∀ {result}, compile pattern .wildcard = result →
      (∀ fault, result ≠ .error (.glob fault)) → ∃ items, Glob.Spells pattern.toList items := by
    intro result hresult hne
    cases hread : Glob.ofText pattern.toList with
    | ok items => exact ⟨items, Glob.ofText_eq_ok_iff.1 hread⟩
    | error fault =>
      have hfault := compile_eq_error_glob_iff.2 (Glob.ofText_eq_error_iff.1 hread)
      exact absurd (hresult.symm.trans hfault) (hne fault)
  refine ⟨⟨?_, ?_⟩, fun fault h => ?_, fun fault => compile_eq_error_glob_iff, fun hnone => ?_⟩
  · rintro (⟨m, hm⟩ | hlarge)
    · exact hspelled hm (by simp)
    · exact hspelled hlarge (by simp)
  · rintro ⟨items, hitems⟩
    exact (compile_of_spells hitems).imp id And.left
  · obtain ⟨items, hitems⟩ := hspelled h (by simp)
    rcases compile_of_spells hitems with ⟨m, hm⟩ | ⟨hlarge, hsmall⟩
    · rw [h] at hm
      simp at hm
    · rw [h] at hlarge
      cases hlarge
      exact ⟨rfl, items, hitems, hsmall⟩
  · cases hread : Glob.ofText pattern.toList with
    | ok items => exact absurd (Glob.ofText_eq_ok_iff.1 hread) (hnone items)
    | error fault =>
      have hfault := Glob.ofText_eq_error_iff.1 hread
      refine ⟨fault, hfault, fun other hother => ?_, fun ks now => ?_⟩
      · have hsame := hread.symm.trans (Glob.ofText_eq_error_iff.2 hother)
        rw [Except.error.injEq] at hsame
        exact hsame.symm
      · unfold Keyspace.searchFor
        rw [compile_eq_error_glob_iff.2 hfault]
        rfl

/-- A range in a negated class that goes backwards, after an escaped star and a range that does
not. -/
theorem wildcard_mode_accepts_globs_reversed :
    (∀ items, ¬ Glob.Spells "a\\*[^!-/z-\\a]".toList items) ∧
      Glob.LeftmostFault "a\\*[^!-/z-\\a]".toList .reversedRange ∧
      (Keyspace.empty.searchFor "a\\*[^!-/z-\\a]" .wildcard .origin).answer =
        .error (.invalidPattern "a\\*[^!-/z-\\a]: reversed range") := by
  have hinside : Glob.InClass "a\\*[^!-/z-\\".toList [.range '!' '/']
      (['z'] ++ '-' :: ['\\']) := by
    refine ⟨['a', '\\', '*'], [.literal 'a', .literal '*'], ['^'], ['!', '-', '/'], rfl,
      .cons (.plain (by decide)) (.cons .escaped .nil), .inl rfl, .cons ?_ .nil⟩
    exact .range (.plain (by decide) (by decide) (by decide))
      (.plain (by decide) (by decide) (by decide)) (by decide)
  have hviolation : Glob.Violation "a\\*[^!-/z-\\".toList ['a', ']'] .reversedRange :=
    .reversed hinside (.plain (by decide) (by decide) (by decide))
      (.escaped : Glob.ClassChar (['\\'] ++ ['a']) 'a' []) (by decide)
  have hfault : Glob.LeftmostFault "a\\*[^!-/z-\\a]".toList .reversedRange :=
    hviolation.leftmostFault
  obtain ⟨haccepts, -, hfaults, hnone⟩ := wildcard_mode_accepts_globs "a\\*[^!-/z-\\a]"
  have hspells : ∀ items, ¬ Glob.Spells "a\\*[^!-/z-\\a]".toList items := by
    intro items hitems
    have hrefused := (hfaults _).2 hfault
    rcases haccepts.2 ⟨items, hitems⟩ with ⟨m, hm⟩ | hlarge
    · rw [hrefused] at hm
      simp at hm
    · rw [hrefused] at hlarge
      simp at hlarge
  obtain ⟨fault, -, honly, hanswer⟩ := hnone hspells
  refine ⟨hspells, hfault, ?_⟩
  rw [hanswer, ← honly _ hfault]
  rfl

end Matcher

end ExpiringCache
