import ExpiringCache.Glob

/-!
# The grammar of globs

Which items a text spells, said without reading it from the left: an item at the front of a text
leaves a rest, and a glob is items one after another to the end. `ofText` reads a text if and
only if it spells items, and reads these (`ofText_eq_ok_iff`); so no text spells two globs, and
the strings that a text stands for (`Language`) are those that its items accept.
-/

namespace ExpiringCache.Glob

/-- A class character at the front of a text: any character after a backslash, or any but a
backslash, a hyphen and a closing bracket. -/
inductive ClassChar : List Char → Char → List Char → Prop where
  | escaped {c : Char} {rest : List Char} : ClassChar ('\\' :: c :: rest) c rest
  | plain {c : Char} {rest : List Char} (hescape : c ≠ '\\') (hhyphen : c ≠ '-')
    (hbracket : c ≠ ']') : ClassChar (c :: rest) c rest

/-- A member of a class at the front of a text. -/
inductive IsMember : List Char → Member → List Char → Prop where
  | single {c : Char} {text rest : List Char} (hc : ClassChar text c rest) :
    IsMember text (.single c) rest
  | range {lo hi : Char} {text after rest : List Char} (hlo : ClassChar text lo ('-' :: after))
    (hhi : ClassChar after hi rest) (hle : lo ≤ hi) : IsMember text (.range lo hi) rest

/-- One or more members at the front of a text, with the closing bracket after them. -/
inductive AreMembers : List Char → List Member → List Char → Prop where
  | last {m : Member} {text rest : List Char} (hm : IsMember text m (']' :: rest)) :
    AreMembers text [m] rest
  | cons {m : Member} {members : List Member} {text after rest : List Char}
    (hm : IsMember text m after) (hmembers : AreMembers after members rest) :
    AreMembers text (m :: members) rest

/-- An item at the front of a text. A caret right after an opening bracket is no member. -/
inductive IsItem : List Char → Item → List Char → Prop where
  | anyRun {rest : List Char} : IsItem ('*' :: rest) .anyRun rest
  | anyOne {rest : List Char} : IsItem ('?' :: rest) .anyOne rest
  | escaped {c : Char} {rest : List Char} : IsItem ('\\' :: c :: rest) (.literal c) rest
  | plain {c : Char} {rest : List Char} (hc : c ∉ ['*', '?', '\\', '[']) :
    IsItem (c :: rest) (.literal c) rest
  | oneOf {members : List Member} {text rest : List Char} (hcaret : text.head? ≠ some '^')
    (hmembers : AreMembers text members rest) : IsItem ('[' :: text) (.oneOf false members) rest
  | noneOf {members : List Member} {text rest : List Char}
    (hmembers : AreMembers text members rest) :
    IsItem ('[' :: '^' :: text) (.oneOf true members) rest

/-- The items that a text spells. -/
inductive Spells : List Char → List Item → Prop where
  | nil : Spells [] []
  | cons {item : Item} {items : List Item} {text rest : List Char} (hitem : IsItem text item rest)
    (hitems : Spells rest items) : Spells text (item :: items)

/-- The strings that a text stands for. -/
def Language (text s : List Char) : Prop := ∃ items, Spells text items ∧ Accepts items s

section Members

variable {c d : Char} {m : Member} {text rest : List Char}

theorem classChar?_eq_some_iff :
    classChar? c text = some (d, rest) ↔ ClassChar (c :: text) d rest := by
  constructor
  · intro h
    unfold classChar? at h
    split at h
    · rename_i hc
      subst hc
      split at h
      · simp at h
      · simp only [Option.some.injEq, Prod.mk.injEq] at h
        obtain ⟨rfl, rfl⟩ := h
        exact .escaped
    · rename_i hc
      split at h
      · simp at h
      · rename_i hor
        simp only [Option.some.injEq, Prod.mk.injEq] at h
        obtain ⟨rfl, rfl⟩ := h
        exact .plain hc (fun h => hor (.inl h)) fun h => hor (.inr h)
  · intro h
    cases h with
    | escaped => rfl
    | plain hescape hhyphen hbracket =>
      unfold classChar?
      rw [if_neg hescape, if_neg]
      rintro (h | h)
      · exact hhyphen h
      · exact hbracket h

theorem ClassChar.exists_cons (h : ClassChar text c rest) :
    ∃ a after, text = a :: after ∧ a ≠ '-' ∧ a ≠ ']' := by
  cases h with
  | escaped => exact ⟨_, _, rfl, by decide, by decide⟩
  | plain _ hhyphen hbracket => exact ⟨_, _, rfl, hhyphen, hbracket⟩

theorem IsMember.exists_cons (h : IsMember text m rest) :
    ∃ a after, text = a :: after ∧ a ≠ '-' ∧ a ≠ ']' := by
  cases h with
  | single hc => exact hc.exists_cons
  | range hlo => exact hlo.exists_cons

theorem AreMembers.head?_ne {members : List Member} (h : AreMembers text members rest) :
    text.head? ≠ some '-' := by
  have hm : ∃ a after, text = a :: after ∧ a ≠ '-' ∧ a ≠ ']' := by
    cases h with
    | last hm => exact hm.exists_cons
    | cons hm => exact hm.exists_cons
  obtain ⟨a, after, rfl, ha, -⟩ := hm
  simpa using ha

theorem isMember_of_readMember (h : readMember c text = .ok (m, rest)) :
    IsMember (c :: text) m rest := by
  unfold readMember at h
  split at h
  · simp at h
  · rename_i lo after hlo
    unfold readRangeEnd at h
    split at h
    · simp at h
    · split at h
      · simp at h
      · rename_i hhi
        split at h
        · simp at h
        · rename_i hle
          simp only [Except.ok.injEq, Prod.mk.injEq] at h
          obtain ⟨rfl, rfl⟩ := h
          exact .range (classChar?_eq_some_iff.1 hlo) (classChar?_eq_some_iff.1 hhi)
            (Char.not_lt.1 hle)
  · rename_i hlo
    simp only [Except.ok.injEq, Prod.mk.injEq] at h
    obtain ⟨rfl, rfl⟩ := h
    exact .single (classChar?_eq_some_iff.1 hlo)

/-- A member is read if no hyphen follows, which would make a range of a single character. -/
theorem IsMember.readMember (h : IsMember (c :: text) m rest)
    (hrest : ∀ d, m = .single d → rest.head? ≠ some '-') :
    Glob.readMember c text = .ok (m, rest) := by
  unfold Glob.readMember
  cases h with
  | single hc =>
    rw [classChar?_eq_some_iff.2 hc]
    split
    · rename_i h
      simp at h
    · rename_i h
      simp only [Option.some.injEq, Prod.mk.injEq] at h
      exact absurd (congrArg List.head? h.2) (hrest _ rfl)
    · rename_i h
      simp only [Option.some.injEq, Prod.mk.injEq] at h
      obtain ⟨rfl, rfl⟩ := h
      rfl
  | range hlo hhi hle =>
    obtain ⟨a, after, rfl, -, -⟩ := hhi.exists_cons
    rw [classChar?_eq_some_iff.2 hlo]
    simp only [readRangeEnd, classChar?_eq_some_iff.2 hhi]
    rw [if_neg (Char.not_lt.2 hle)]

theorem readMembers_eq_ok {found members : List Member} {text rest : List Char}
    (h : readMembers found text = .ok (members, rest)) :
    (members = found ∧ text = ']' :: rest) ∨
      ∃ more, members = found ++ more ∧ AreMembers text more rest := by
  fun_induction readMembers found text with
  | case1 => simp at h
  | case2 => simp at h
  | case3 found text =>
    simp only [Except.ok.injEq, Prod.mk.injEq] at h
    obtain ⟨rfl, rfl⟩ := h
    exact .inl ⟨rfl, rfl⟩
  | case4 => simp at h
  | case5 found c text _ m after hm ih =>
    have hmember := isMember_of_readMember hm
    rcases ih h with ⟨rfl, rfl⟩ | ⟨more, rfl, hmore⟩
    · exact .inr ⟨[m], rfl, .last hmember⟩
    · exact .inr ⟨m :: more, List.append_assoc .., .cons hmember hmore⟩

theorem readMembers_isMember (found : List Member) {m : Member} {text rest : List Char}
    (h : IsMember text m rest) (hrest : ∀ d, m = .single d → rest.head? ≠ some '-') :
    readMembers found text = readMembers (found ++ [m]) rest := by
  obtain ⟨a, after, rfl, -, ha⟩ := h.exists_cons
  conv => lhs; unfold readMembers
  rw [if_neg ha]
  split
  · rename_i hread
    rw [h.readMember hrest] at hread
    simp at hread
  · rename_i hread
    rw [h.readMember hrest] at hread
    simp only [Except.ok.injEq, Prod.mk.injEq] at hread
    rw [hread.1, hread.2]

theorem AreMembers.readMembers {members : List Member} {text rest : List Char}
    (h : AreMembers text members rest) (found : List Member) :
    Glob.readMembers found text = .ok (found ++ members, rest) := by
  induction h generalizing found with
  | last hm =>
    rw [readMembers_isMember found hm (by simp), Glob.readMembers, if_pos rfl, if_neg]
    simp
  | cons hm hmembers ih =>
    rw [readMembers_isMember found hm fun _ _ => hmembers.head?_ne, ih, List.append_assoc]
    rfl

theorem readMembers_nil_eq_ok_iff {members : List Member} {text rest : List Char} :
    readMembers [] text = .ok (members, rest) ↔ AreMembers text members rest := by
  constructor
  · intro h
    rcases readMembers_eq_ok h with ⟨rfl, rfl⟩ | ⟨more, rfl, hmore⟩
    · simp [readMembers] at h
    · exact hmore
  · intro h
    exact h.readMembers []

end Members

section Items

theorem map_ok_eq_iff {α β ε : Type} {x : Except ε α} {f : α → β} {b : β} :
    x.map f = .ok b ↔ ∃ a, x = .ok a ∧ f a = b := by
  cases x <;> simp [Except.map]

theorem readClass_eq_ok_iff {text rest : List Char} {item : Item} :
    readClass text = .ok (item, rest) ↔ IsItem ('[' :: text) item rest := by
  unfold readClass
  split
  · rename_i after
    rw [map_ok_eq_iff]
    constructor
    · rintro ⟨⟨members, rest'⟩, hread, h⟩
      simp only [Prod.mk.injEq] at h
      obtain ⟨rfl, rfl⟩ := h
      exact .noneOf (readMembers_nil_eq_ok_iff.1 hread)
    · intro h
      cases h with
      | plain hc => simp at hc
      | oneOf hcaret => simp at hcaret
      | noneOf hmembers => exact ⟨_, readMembers_nil_eq_ok_iff.2 hmembers, rfl⟩
  · rename_i hcaret
    rw [map_ok_eq_iff]
    constructor
    · rintro ⟨⟨members, rest'⟩, hread, h⟩
      simp only [Prod.mk.injEq] at h
      obtain ⟨rfl, rfl⟩ := h
      refine .oneOf (fun hhead => ?_) (readMembers_nil_eq_ok_iff.1 hread)
      obtain ⟨after, rfl⟩ := List.head?_eq_some_iff.1 hhead
      exact hcaret after rfl
    · intro h
      cases h with
      | plain hc => simp at hc
      | oneOf _ hmembers => exact ⟨_, readMembers_nil_eq_ok_iff.2 hmembers, rfl⟩
      | noneOf _ => exact absurd rfl (hcaret _)

theorem isItem_of_readItem {c : Char} {text rest : List Char} {item : Item}
    (h : readItem c text = .ok (item, rest)) : IsItem (c :: text) item rest := by
  unfold readItem at h
  split at h
  · rename_i hc
    simp only [Except.ok.injEq, Prod.mk.injEq] at h
    obtain ⟨rfl, rfl⟩ := h
    exact hc ▸ .anyRun
  split at h
  · rename_i hc
    simp only [Except.ok.injEq, Prod.mk.injEq] at h
    obtain ⟨rfl, rfl⟩ := h
    exact hc ▸ .anyOne
  split at h
  · rename_i hc
    split at h
    · simp at h
    · simp only [Except.ok.injEq, Prod.mk.injEq] at h
      obtain ⟨rfl, rfl⟩ := h
      exact hc ▸ .escaped
  split at h
  · rename_i hc
    exact hc ▸ readClass_eq_ok_iff.1 h
  · rename_i hrun hone hescape hclass
    simp only [Except.ok.injEq, Prod.mk.injEq] at h
    obtain ⟨rfl, rfl⟩ := h
    exact .plain (by simp [hrun, hone, hescape, hclass])

theorem readItem_eq_ok_iff {c : Char} {text rest : List Char} {item : Item} :
    readItem c text = .ok (item, rest) ↔ IsItem (c :: text) item rest := by
  refine ⟨isItem_of_readItem, fun h => ?_⟩
  cases h with
  | anyRun => rfl
  | anyOne => rfl
  | escaped => rfl
  | plain hc =>
    simp only [List.mem_cons, List.not_mem_nil, or_false, not_or] at hc
    obtain ⟨hrun, hone, hescape, hclass⟩ := hc
    unfold readItem
    rw [if_neg hrun, if_neg hone, if_neg hescape, if_neg hclass]
  | oneOf hcaret hmembers => exact readClass_eq_ok_iff.2 (.oneOf hcaret hmembers)
  | noneOf hmembers => exact readClass_eq_ok_iff.2 (.noneOf hmembers)

theorem IsItem.exists_cons {text rest : List Char} {item : Item} (h : IsItem text item rest) :
    ∃ c after, text = c :: after := by
  cases h <;> exact ⟨_, _, rfl⟩

theorem spells_of_ofText {text : List Char} {items : List Item} (h : ofText text = .ok items) :
    Spells text items := by
  fun_induction ofText text generalizing items with
  | case1 =>
    simp only [Except.ok.injEq] at h
    exact h ▸ .nil
  | case2 => simp at h
  | case3 => simp at h
  | case4 c text item rest hitem more hmore ih =>
    simp only [Except.ok.injEq] at h
    exact h ▸ .cons (readItem_eq_ok_iff.1 hitem) (ih hmore)

/-- A text is read as the items that it spells. -/
theorem ofText_eq_ok_iff {text : List Char} {items : List Item} :
    ofText text = .ok items ↔ Spells text items := by
  refine ⟨spells_of_ofText, fun h => ?_⟩
  induction h with
  | nil => rw [ofText]
  | cons hitem _ ih =>
    obtain ⟨c, after, rfl⟩ := hitem.exists_cons
    rw [ofText]
    split
    · rename_i hread
      rw [readItem_eq_ok_iff.2 hitem] at hread
      simp at hread
    · rename_i hread
      rw [readItem_eq_ok_iff.2 hitem] at hread
      simp only [Except.ok.injEq, Prod.mk.injEq] at hread
      rw [← hread.1, ← hread.2, ih]

theorem language_iff {text s : List Char} {items : List Item} (h : Spells text items) :
    Language text s ↔ Accepts items s := by
  constructor
  · rintro ⟨items', h', hs⟩
    have hsame := (ofText_eq_ok_iff.2 h).symm.trans (ofText_eq_ok_iff.2 h')
    simp only [Except.ok.injEq] at hsame
    exact hsame ▸ hs
  · intro hs
    exact ⟨items, h, hs⟩

end Items

end ExpiringCache.Glob
