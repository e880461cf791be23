import ExpiringCache.Proofs.GlobGrammar
import ExpiringCache.Regex.Reading
import Mathlib.Tactic.SplitIfs

/-!
# Reading the regular expression of a glob

The text that a glob is translated to is read back as an expression with one part for each item
(`ofText_regexText`). A quoted character is read as itself outside classes and in them, and no
member of a class starts with what would end the class, negate it, open another or combine it
with one.
-/

namespace ExpiringCache

namespace Regex

theorem skip_false (text : List Char) : skip false text = text := rfl

section Quoted

variable {c : Char}

/-- A character that can be quoted is read as itself after a backslash. -/
theorem readEscape_of_isQuotable (h : isQuotable c = true) (rest : List Char) :
    readEscape false (c :: rest) = .ok (.literal c false, rest) := by
  have hletter : ∀ d : Char, isQuotable d = false → c ≠ d := by
    rintro d hd rfl
    rw [h] at hd
    simp at hd
  have hdigit : c.isDigit = false := by
    unfold isQuotable Char.isAlphanum at h
    simp only [Bool.and_eq_true, Bool.not_eq_true', Bool.or_eq_false_iff] at h
    exact h.1.1.2.2
  unfold readEscape
  simp only [hdigit, Bool.false_eq_true, if_false]
  rw [if_neg (hletter 'x' (by decide)), if_neg (hletter 'u' (by decide)),
    if_neg (hletter 'U' (by decide)), if_neg (hletter 'p' (by decide)),
    if_neg (hletter 'P' (by decide)), if_neg (hletter 'b' (by decide)), if_pos h]

theorem isQuotable_of_mem_regexMeta (h : c ∈ Glob.regexMeta) : isQuotable c = true := by
  have hall : Glob.regexMeta.all isQuotable = true := by decide
  exact List.all_eq_true.1 hall c h

theorem isQuotable_of_mem_classMeta (h : c ∈ Glob.classMeta) : isQuotable c = true := by
  have hall : Glob.classMeta.all isQuotable = true := by decide
  exact List.all_eq_true.1 hall c h

end Quoted

section Rest

variable {p q : Progress} {c : Char} {text rest : List Char}

/-- One step of reading where blanks count. -/
theorem readRest_cons (hp : p.verbose = false) (h : step p c text = .ok (q, rest)) :
    readRest p (c :: text) = readRest q rest := by
  rw [readRest_eq, hp, skip_false]
  dsimp only
  rw [h]

theorem readRest_nil (hp : p.verbose = false) : readRest p [] = p.finish := by
  rw [readRest_eq, hp, skip_false]

theorem readRest_quoteAmong (hp : p.verbose = false) (c : Char) (rest : List Char) :
    readRest p (Glob.quoteAmong Glob.regexMeta c ++ rest) =
      readRest (p.add (.atom (.literal c false))) rest := by
  unfold Glob.quoteAmong
  split_ifs with hc
  · refine readRest_cons hp ?_
    have hread := readEscape_of_isQuotable (isQuotable_of_mem_regexMeta hc) rest
    simp [step, readAtom, hp, hread]
  · refine readRest_cons hp ?_
    have hne : ∀ d ∈ Glob.regexMeta, c ≠ d := by
      rintro d hd rfl
      exact hc hd
    unfold step readAtom
    rw [if_neg (hne '(' (by decide)), if_neg (hne ')' (by decide)), if_neg (hne '|' (by decide)),
      if_neg (hne '[' (by decide)), if_neg (hne '?' (by decide)), if_neg (hne '*' (by decide)),
      if_neg (hne '+' (by decide)), if_neg (hne '\x7b' (by decide)),
      if_neg (hne '\\' (by decide)), if_neg (hne '.' (by decide)), if_neg (hne '^' (by decide)),
      if_neg (hne '$' (by decide))]
    rfl

end Rest

end Regex

namespace Glob

/-- Whether a range does not go backwards. -/
def Member.WellFormed : Member → Prop
  | single _ => True
  | range lo hi => lo ≤ hi

/-- Whether a class has members, all of them well-formed. -/
def Item.WellFormed : Item → Prop
  | oneOf _ members => members ≠ [] ∧ ∀ m ∈ members, m.WellFormed
  | _ => True

/-- A member as part of a class. -/
def Member.classSet : Member → Regex.ClassSet
  | single c => .literal c false
  | range lo hi => .range lo false hi false

/-- An item as part of an expression. -/
def Item.expr : Item → Regex.Expr
  | anyRun => .repeated (.atom .dot) ⟨0, none, true⟩
  | anyOne => .atom .dot
  | literal c => .atom (.literal c false)
  | oneOf negated members => .bracketed negated (.ofItems (members.map Member.classSet))

/-- The expression that a glob is translated to. -/
def expr (items : List Item) : Regex.Expr :=
  .seq (.atom (.place .lineStart))
    (.seq (.group [(.dotAll, true)] (.ofItems (items.map Item.expr))) (.atom (.place .lineEnd)))

section Grammar

variable {text rest : List Char}

theorem IsMember.wellFormed {m : Member} (h : IsMember text m rest) : m.WellFormed := by
  cases h with
  | single _ => trivial
  | range _ _ hle => exact hle

theorem AreMembers.wellFormed {members : List Member} (h : AreMembers text members rest) :
    members ≠ [] ∧ ∀ m ∈ members, m.WellFormed := by
  induction h with
  | last hm => simpa using hm.wellFormed
  | cons hm _ ih => simpa using ⟨hm.wellFormed, ih.2⟩

theorem IsItem.wellFormed {item : Item} (h : IsItem text item rest) : item.WellFormed := by
  cases h with
  | oneOf _ hmembers => exact hmembers.wellFormed
  | noneOf hmembers => exact hmembers.wellFormed
  | _ => trivial

theorem Spells.wellFormed {items : List Item} (h : Spells text items) :
    ∀ item ∈ items, item.WellFormed := by
  induction h with
  | nil => simp
  | cons hitem _ ih => simpa using ⟨hitem.wellFormed, ih⟩

end Grammar

end Glob

namespace Regex

section Class

open Glob (quoteAmong classMeta)

variable {current : OpenClass} {outer : List OpenClass}

theorem readClassAtom_quoteAmong (c : Char) (rest : List Char) :
    readClassAtom false (quoteAmong classMeta c ++ rest) = .ok (.literal c false, rest) := by
  unfold quoteAmong
  split_ifs with hc
  · show readEscape false (c :: rest) = _
    exact readEscape_of_isQuotable (isQuotable_of_mem_classMeta hc) rest
  · refine if_neg ?_
    rintro rfl
    exact hc (by decide)

/-- The characters that mean something at the start of a part of a class. -/
def classSigns : List Char := ['[', ']', '^', '-', '&', '~']

theorem exists_quoteAmong_cons (c : Char) : ∃ a after, quoteAmong classMeta c = a :: after ∧
    a ∉ classSigns := by
  have hall : classSigns.all (classMeta.contains ·) = true := by decide
  unfold quoteAmong
  split_ifs with hc
  · exact ⟨'\\', [c], rfl, by decide⟩
  · exact ⟨c, [], rfl, fun hmem => hc (List.contains_iff_mem.1 (List.all_eq_true.1 hall c hmem))⟩

theorem exists_regexText_cons (m : Glob.Member) : ∃ a after, m.regexText = a :: after ∧
    a ∉ classSigns := by
  cases m with
  | single c => exact exists_quoteAmong_cons c
  | range lo hi =>
    obtain ⟨a, after, h, ha⟩ := exists_quoteAmong_cons lo
    exact ⟨a, after ++ '-' :: quoteAmong classMeta hi, by rw [Glob.Member.regexText, h]; rfl, ha⟩

theorem readClassItem_regexText {m : Glob.Member} (hm : m.WellFormed) {a : Char} (ha : a ≠ '-')
    (rest : List Char) :
    readClassItem false (m.regexText ++ a :: rest) = .ok (m.classSet, a :: rest) := by
  unfold readClassItem
  cases m with
  | single c =>
    rw [Glob.Member.regexText, readClassAtom_quoteAmong]
    simp [skip, ha, Atom.classItem, Glob.Member.classSet]
  | range lo hi =>
    obtain ⟨b, after, hb, hmeta⟩ := exists_quoteAmong_cons hi
    simp only [classSigns, List.mem_cons, List.not_mem_nil, or_false, not_or] at hmeta
    have hread := readClassAtom_quoteAmong hi (a :: rest)
    rw [hb, List.cons_append] at hread
    rw [Glob.Member.regexText, List.append_assoc, readClassAtom_quoteAmong, hb]
    simp only [Glob.Member.WellFormed] at hm
    simp [skip, endsBeforeHyphen, hmeta, hread, rangeOf, hm, Glob.Member.classSet]

/-- A part of a class that starts with nothing that means something there is an item. -/
theorem readClassRest_item {b : Char} {text rest : List Char} {item : ClassSet}
    (hb : b ∉ classSigns)
    (hitem : readClassItem false (b :: text) = .ok (item, rest)) :
    readClassRest false current outer (b :: text) =
      readClassRest false (current.add item) outer rest := by
  simp only [classSigns, List.mem_cons, List.not_mem_nil, or_false, not_or] at hb
  obtain ⟨hopen, hclose, -, hhyphen, hand, htilde⟩ := hb
  conv => lhs; unfold readClassRest
  split
  · rename_i h
    simp [skip_false] at h
  · rename_i h
    exact absurd (List.cons.inj h).1 hopen
  · rename_i h
    exact absurd (List.cons.inj h).1 hclose
  · rename_i h
    exact absurd (List.cons.inj h).1 hand
  · rename_i h
    exact absurd (List.cons.inj h).1 hhyphen
  · rename_i h
    exact absurd (List.cons.inj h).1 htilde
  · rename_i h
    rw [skip_false, List.cons.injEq] at h
    obtain ⟨rfl, rfl⟩ := h
    split
    · rename_i hi
      rw [hitem] at hi
      simp at hi
    · rename_i hi
      rw [hitem] at hi
      simp only [Except.ok.injEq, Prod.mk.injEq] at hi
      rw [hi.1, hi.2]

theorem readClassRest_regexText {m : Glob.Member} (hm : m.WellFormed) {a : Char}
    {rest : List Char} (ha : a ≠ '-') :
    readClassRest false current outer (m.regexText ++ a :: rest) =
      readClassRest false (current.add m.classSet) outer (a :: rest) := by
  have hitem := readClassItem_regexText hm ha rest
  obtain ⟨b, after, hb, hmeta⟩ := exists_regexText_cons m
  rw [hb, List.cons_append] at hitem ⊢
  exact readClassRest_item hmeta hitem

theorem readClassRest_close (current : OpenClass) (rest : List Char) :
    readClassRest false current [] (']' :: rest) =
      .ok ((current.negated, current.content), rest) := by
  unfold readClassRest
  rfl

theorem exists_members_cons (members : List Glob.Member) (rest : List Char) :
    ∃ a after, members.flatMap Glob.Member.regexText ++ ']' :: rest = a :: after ∧
      a ≠ '^' ∧ a ≠ '-' ∧ (members ≠ [] → a ≠ ']') := by
  cases members with
  | nil => exact ⟨']', rest, rfl, by decide, by decide, by simp⟩
  | cons m members =>
    obtain ⟨b, after, hb, hmeta⟩ := exists_regexText_cons m
    simp only [classSigns, List.mem_cons, List.not_mem_nil, or_false, not_or] at hmeta
    refine ⟨b, after ++ (members.flatMap Glob.Member.regexText ++ ']' :: rest), ?_,
      hmeta.2.2.1, hmeta.2.2.2.1, fun _ => hmeta.2.1⟩
    rw [List.flatMap_cons, hb, List.append_assoc, List.cons_append]

theorem readClassRest_members : ∀ {members : List Glob.Member} {current : OpenClass}
    (rest : List Char), (∀ m ∈ members, m.WellFormed) →
    readClassRest false current [] (members.flatMap Glob.Member.regexText ++ ']' :: rest) =
      .ok ((current.negated, { current with
        items := (members.map Glob.Member.classSet).reverse ++ current.items }.content), rest)
  | [], current, rest, _ => readClassRest_close current rest
  | m :: members, current, rest, h => by
    obtain ⟨a, after, hnext, -, ha, -⟩ := exists_members_cons members rest
    rw [List.flatMap_cons, List.append_assoc, hnext,
      readClassRest_regexText (h m List.mem_cons_self) ha, ← hnext,
      readClassRest_members rest fun m hm => h m (List.mem_cons_of_mem _ hm)]
    simp [OpenClass.add]

theorem splitCaret_ite (negated : Bool) {a : Char} (after : List Char) (ha : a ≠ '^') :
    splitCaret false ((if negated then ['^'] else []) ++ a :: after) = (negated, a :: after) := by
  cases negated with
  | true => rfl
  | false =>
    unfold splitCaret
    split
    · rename_i h
      exact absurd (List.cons.inj h).1 ha
    · rfl

theorem readFirstItems_cons (negated : Bool) {a : Char} (after : List Char) (hhyphen : a ≠ '-')
    (hbracket : a ≠ ']') :
    readFirstItems false negated (a :: after) = .ok (⟨negated, none, []⟩, a :: after) := by
  have hcollect : collect false (· == '-') (a :: after) = ([], a :: after) := by
    rw [collect, if_neg (by simpa using hhyphen)]
  unfold readFirstItems
  simp [hcollect, hbracket]

/-- A class is read as its members. -/
theorem readClass_regexText {members : List Glob.Member} (hne : members ≠ [])
    (h : ∀ m ∈ members, m.WellFormed) (negated : Bool) (rest : List Char) :
    readClass false ((if negated then ['^'] else []) ++
        (members.flatMap Glob.Member.regexText ++ ']' :: rest)) =
      .ok ((negated, .ofItems (members.map Glob.Member.classSet)), rest) := by
  obtain ⟨a, after, hnext, hcaret, hhyphen, hbracket⟩ := exists_members_cons members rest
  have hopening : readClassOpening false ((if negated then ['^'] else []) ++ a :: after) =
      .ok (⟨negated, none, []⟩, a :: after) := by
    unfold readClassOpening
    rw [skip_false, splitCaret_ite negated after hcaret]
    exact readFirstItems_cons negated after hhyphen (hbracket hne)
  unfold readClass
  rw [hnext, hopening, ← hnext]
  simp only
  rw [readClassRest_members rest h]
  simp [OpenClass.content]

end Class

section Items

variable {p : Progress}

theorem exists_item_cons (item : Glob.Item) :
    ∃ a after, item.regexText = a :: after ∧ a ≠ '?' := by
  cases item with
  | anyRun => exact ⟨'.', ['*'], rfl, by decide⟩
  | anyOne => exact ⟨'.', [], rfl, by decide⟩
  | literal c =>
    show ∃ a after, Glob.quoteAmong Glob.regexMeta c = a :: after ∧ a ≠ '?'
    unfold Glob.quoteAmong
    split_ifs with hc
    · exact ⟨'\\', [c], rfl, by decide⟩
    · refine ⟨c, [], rfl, ?_⟩
      rintro rfl
      exact hc (by decide)
  | oneOf negated members => exact ⟨'[', _, rfl, by decide⟩

theorem exists_items_cons (items : List Glob.Item) (rest : List Char) :
    ∃ a after, items.flatMap Glob.Item.regexText ++ ')' :: rest = a :: after ∧ a ≠ '?' := by
  cases items with
  | nil => exact ⟨')', rest, rfl, by decide⟩
  | cons item items =>
    obtain ⟨b, after, hb, hne⟩ := exists_item_cons item
    refine ⟨b, after ++ (items.flatMap Glob.Item.regexText ++ ')' :: rest), ?_, hne⟩
    rw [List.flatMap_cons, hb, List.append_assoc, List.cons_append]

theorem readGreed_of_ne {a : Char} {rest : List Char} (ha : a ≠ '?') :
    readGreed (a :: rest) = (true, a :: rest) := by
  unfold readGreed
  split
  · rename_i h
    exact absurd (List.cons.inj h).1 ha
  · rfl

/-- An item is read as one part of an expression. -/
theorem readRest_item (hp : p.verbose = false) {item : Glob.Item} (hitem : item.WellFormed)
    {a : Char} {rest : List Char} (ha : a ≠ '?') :
    readRest p (item.regexText ++ a :: rest) = readRest (p.add item.expr) (a :: rest) := by
  cases item with
  | anyRun =>
    have hdot : step p '.' ('*' :: a :: rest) = .ok (p.add (.atom .dot), '*' :: a :: rest) := rfl
    have hstar : step (p.add (.atom .dot)) '*' (a :: rest) =
        .ok (p.add (.repeated (.atom .dot) ⟨0, none, true⟩), a :: rest) := by
      simp only [step, Char.reduceEq, if_false, if_true, readGreed_of_ne ha]
      rfl
    exact (readRest_cons hp hdot).trans (readRest_cons hp hstar)
  | anyOne => exact readRest_cons hp rfl
  | literal c => exact readRest_quoteAmong hp c _
  | oneOf negated members =>
    have htext : (Glob.Item.oneOf negated members).regexText ++ a :: rest =
        '[' :: ((if negated then ['^'] else []) ++
          (members.flatMap Glob.Member.regexText ++ ']' :: a :: rest)) := by
      simp [Glob.Item.regexText]
    have hread := readClass_regexText hitem.1 hitem.2 negated (a :: rest)
    rw [htext]
    refine readRest_cons hp ?_
    simp only [step, Char.reduceEq, if_false, if_true, hp, hread]
    rfl

theorem readRest_items : ∀ {items : List Glob.Item} {p : Progress} (rest : List Char),
    p.verbose = false → (∀ item ∈ items, item.WellFormed) →
    readRest p (items.flatMap Glob.Item.regexText ++ ')' :: rest) =
      readRest { p with current := { p.current with
        items := (items.map Glob.Item.expr).reverse ++ p.current.items } } (')' :: rest)
  | [], _, _, _, _ => rfl
  | item :: items, p, rest, hp, h => by
    obtain ⟨a, after, hnext, ha⟩ := exists_items_cons items rest
    rw [List.flatMap_cons, List.append_assoc, hnext,
      readRest_item hp (h item List.mem_cons_self) ha, ← hnext,
      readRest_items rest (by exact hp) fun item hitem => h item (List.mem_cons_of_mem _ hitem)]
    simp [Progress.add, OpenGroup.add]

theorem readRest_regexText {items : List Glob.Item} (h : ∀ item ∈ items, item.WellFormed) :
    readRest .start (Glob.regexText items) = .ok (Glob.expr items) := by
  have htext : Glob.regexText items = '^' :: '(' :: '?' :: 's' :: ':' ::
      (items.flatMap Glob.Item.regexText ++ [')', '$']) := by
    show "^(?s:".toList ++ items.flatMap Glob.Item.regexText ++ ")$".toList = _
    rw [show "^(?s:".toList = ['^', '(', '?', 's', ':'] from rfl,
      show ")$".toList = [')', '$'] from rfl, List.append_assoc]
    rfl
  let before : Progress := Progress.start.add (.atom (.place .lineStart))
  have hopen : step before '(' ('?' :: 's' :: ':' :: (items.flatMap Glob.Item.regexText ++
      [')', '$'])) = .ok (before.openGroup (.plain [(.dotAll, true)]) false,
        items.flatMap Glob.Item.regexText ++ [')', '$']) := rfl
  rw [htext, readRest_cons rfl (q := before) rfl, readRest_cons rfl hopen,
    readRest_items ['$'] rfl h, readRest_cons rfl rfl, readRest_cons rfl rfl, readRest_nil rfl]
  show Except.ok (Expr.seq _ (.seq (.group _ (.ofBranches [.ofItems (List.reverse (_ ++ []))])) _))
    = _
  rw [List.append_nil, List.reverse_reverse]
  rfl

end Items

section Depth

theorem ClassSet.depth_ofItems_le {d : Nat} : ∀ {items : List ClassSet},
    (∀ s ∈ items, s.depth ≤ d) → (ofItems items).depth ≤ d + 1
  | [], _ => Nat.zero_le _
  | [s], h => Nat.le_succ_of_le (h s List.mem_cons_self)
  | s :: t :: rest, h => by
    have hs := h s List.mem_cons_self
    have hrest := depth_ofItems_le fun u hu => h u (List.mem_cons_of_mem s hu)
    show (union s (ofItems (t :: rest))).depth ≤ d + 1
    unfold depth
    split_ifs with hunion
    · omega
    · cases rest with
      | nil =>
        have ht := h t (List.mem_cons_of_mem s List.mem_cons_self)
        simp only [ofItems]
        omega
      | cons u rest => exact absurd rfl hunion

theorem Expr.depth_ofItems_le {d : Nat} : ∀ {items : List Expr},
    (∀ e ∈ items, e.depth ≤ d) → (ofItems items).depth ≤ d + 1
  | [], _ => Nat.zero_le _
  | [e], h => Nat.le_succ_of_le (h e List.mem_cons_self)
  | e :: f :: rest, h => by
    have he := h e List.mem_cons_self
    have hrest := depth_ofItems_le fun g hg => h g (List.mem_cons_of_mem e hg)
    show (seq e (ofItems (f :: rest))).depth ≤ d + 1
    unfold depth
    split_ifs with hseq
    · omega
    · cases rest with
      | nil =>
        have hf := h f (List.mem_cons_of_mem e List.mem_cons_self)
        simp only [ofItems]
        omega
      | cons g rest => exact absurd rfl hseq

theorem depth_item_le (item : Glob.Item) : item.expr.depth ≤ 2 := by
  cases item with
  | oneOf negated members =>
    have hmembers : (ClassSet.ofItems (members.map Glob.Member.classSet)).depth ≤ 0 + 1 := by
      refine ClassSet.depth_ofItems_le fun s hs => ?_
      obtain ⟨m, -, rfl⟩ := List.mem_map.1 hs
      cases m <;> exact Nat.le_refl 0
    exact Nat.succ_le_succ hmembers
  | anyRun => decide
  | anyOne => decide
  | literal c => exact Nat.zero_le 2

theorem depth_expr_le (items : List Glob.Item) : (Glob.expr items).depth ≤ maxDepth := by
  have hitems : (Expr.ofItems (items.map Glob.Item.expr)).depth ≤ 2 + 1 := by
    refine Expr.depth_ofItems_le fun e he => ?_
    obtain ⟨item, -, rfl⟩ := List.mem_map.1 he
    exact depth_item_le item
  simp only [Glob.expr, Expr.depth, Expr.isSeq, if_true, Bool.false_eq_true, if_false, maxDepth]
  omega

/-- The regular expression of a glob is read as one part for each item. -/
theorem ofText_regexText {items : List Glob.Item} (h : ∀ item ∈ items, item.WellFormed) :
    Expr.ofText (Glob.regexText items) = .ok (Glob.expr items) := by
  unfold Expr.ofText
  rw [readRest_regexText h]
  exact if_pos (depth_expr_le items)

end Depth

end Regex

end ExpiringCache
