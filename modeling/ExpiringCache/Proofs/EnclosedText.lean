import ExpiringCache.Regex.Reading
import Mathlib.Tactic.SplitIfs

/-!
# Readers of a text that is enclosed

A text that is followed by the end of a group is read as it is read on its own, as far as it
goes: each reader of a part of an expression that takes the part from the text also takes it from
the enclosed text, and leaves there what it left, again followed by the end of the group
(`ReadsOn`). The one way for the end to be lost is a comment that runs to the end of the text
(`OpenComment`), which goes on over it.
-/

namespace ExpiringCache.Regex

/-- Whether there is a mark in the text that would begin a comment which no line end closes. -/
def OpenComment (text : List Char) : Prop :=
  ∃ comment, '#' :: comment <:+ text ∧ '\n' ∉ comment

/-- Whether a text with the end of a group after it is what a reader of the whole text has before
it where it has another text alone. A comment at the end of the text takes the end of the group
with it. -/
inductive Enclosed (whole : List Char) : List Char → List Char → Prop
  | before {s : List Char} (h : s <:+ whole) : Enclosed whole s (s ++ [')', '$'])
  | lost (h : OpenComment whole) : Enclosed whole [] []

/-- Whether a reader takes the same from an enclosed text as from the text alone. -/
def ReadsOn {α : Type} (whole : List Char)
    (read : List Char → Except Fault (α × List Char)) : Prop :=
  ∀ s s' a rest, Enclosed whole s s' → read s = .ok (a, rest) →
    ∃ rest', read s' = .ok (a, rest') ∧ Enclosed whole rest rest'

variable {whole s s' : List Char} {c : Char} {verbose : Bool}

theorem Enclosed.suffix (h : Enclosed whole s s') : s <:+ whole := by
  cases h with
  | before h => exact h
  | lost => exact List.nil_suffix

theorem Enclosed.refl (whole : List Char) : Enclosed whole whole (whole ++ [')', '$']) :=
  .before List.suffix_rfl

/-- The end of the group is there as long as anything is left of the text. -/
theorem Enclosed.of_cons (h : Enclosed whole (c :: s) s') :
    s' = c :: (s ++ [')', '$']) ∧ Enclosed whole s (s ++ [')', '$']) := by
  cases h with
  | before h => exact ⟨rfl, .before ((List.suffix_cons c s).trans h)⟩

theorem Enclosed.eq_cons {t : List Char} (h : Enclosed whole s s') (hs : s = c :: t) :
    s' = c :: (t ++ [')', '$']) ∧ Enclosed whole t (t ++ [')', '$']) := by
  subst hs
  exact h.of_cons

/-- What does not start with a character other than the closing bracket does not do so with the
end of the group after it. -/
theorem Enclosed.ne_cons {d : Char} (hs : Enclosed whole s s') (hd : d ≠ ')')
    (h : ∀ t, s = d :: t → False) : ∀ t, s' = d :: t → False := by
  intro t ht
  cases s with
  | nil =>
    cases hs with
    | before => exact hd (List.cons.inj ht).1.symm
    | lost => simp at ht
  | cons e u =>
    rw [hs.of_cons.1] at ht
    exact h u (by rw [(List.cons.inj ht).1])

/-- A closing parenthesis is no blank. -/
theorem isBlank_closing : Unicode.isBlank ')' = false := by decide +kernel

/-- Blanks and comments end before the end of the group or, in a comment that is still open
there, after it. What has been read of that comment starts with its mark. -/
theorem dropBlanks_enclosed (inComment : Bool) : ∀ (s : List Char), s <:+ whole →
    (inComment = true → ∃ comment, '#' :: (comment ++ s) <:+ whole ∧ '\n' ∉ comment) →
    Enclosed whole (dropBlanks inComment s) (dropBlanks inComment (s ++ [')', '$']))
  | [], hs, hcomment => by
    cases inComment with
    | false =>
      rw [List.nil_append, dropBlanks, dropBlanks, if_neg (by simp), isBlank_closing]
      exact .before hs
    | true =>
      obtain ⟨comment, hmark, hline⟩ := hcomment rfl
      rw [List.append_nil] at hmark
      exact .lost ⟨comment, hmark, hline⟩
  | c :: s, hs, hcomment => by
    have hrest : s <:+ whole := (List.suffix_cons c s).trans hs
    rw [List.cons_append]
    unfold dropBlanks
    split_ifs with hopen hblank hmark
    · refine dropBlanks_enclosed _ s hrest fun hc => ?_
      obtain ⟨comment, hmark, hline⟩ := hcomment hopen
      have hne : '\n' ≠ c := (bne_iff_ne.1 hc).symm
      exact ⟨comment ++ [c], by rwa [List.append_assoc], by simp [hline, hne]⟩
    · exact dropBlanks_enclosed _ s hrest (by simp)
    · exact dropBlanks_enclosed _ s hrest fun _ => ⟨[], hmark ▸ hs, by simp⟩
    · exact .before hs

theorem Enclosed.skip (h : Enclosed whole s s') (verbose : Bool) :
    Enclosed whole (skip verbose s) (skip verbose s') := by
  cases verbose with
  | false => exact h
  | true =>
    cases h with
    | before h => exact dropBlanks_enclosed false s h (by simp)
    | lost h => exact .lost h

theorem Enclosed.collect (verbose : Bool) {kind : Char → Bool} (hkind : kind ')' = false)
    (h : Enclosed whole s s') :
    (collect verbose kind s').1 = (collect verbose kind s).1 ∧
      Enclosed whole (collect verbose kind s).2 (collect verbose kind s').2 := by
  fun_induction Regex.collect verbose kind s generalizing s' with
  | case1 =>
    cases h with
    | before h =>
      rw [List.nil_append, Regex.collect, if_neg (by simp [hkind])]
      exact ⟨rfl, .before h⟩
    | lost h =>
      rw [Regex.collect]
      exact ⟨rfl, .lost h⟩
  | case2 c rest hc run after hrun ih =>
    obtain ⟨rfl, hrest⟩ := h.of_cons
    obtain ⟨hfst, hsnd⟩ := ih (hrest.skip verbose)
    rw [Regex.collect, if_pos hc]
    rw [hrun] at hfst hsnd
    exact ⟨congrArg (c :: ·) hfst, hsnd⟩
  | case3 c rest hc =>
    obtain ⟨rfl, -⟩ := h.of_cons
    rw [Regex.collect, if_neg hc]
    exact ⟨rfl, h⟩

/-- A run that something follows ends there in the enclosed text too. -/
theorem Enclosed.collect_of_cons {kind : Char → Bool} {run rest : List Char} {d : Char}
    (hs : Enclosed whole s s') (h : Regex.collect verbose kind s = (run, d :: rest)) :
    Regex.collect verbose kind s' = (run, d :: (rest ++ [')', '$'])) ∧
      Enclosed whole (d :: rest) (d :: (rest ++ [')', '$'])) := by
  fun_induction Regex.collect verbose kind s generalizing s' run with
  | case1 => simp at h
  | case2 c rest' hc run' after hrun ih =>
    obtain ⟨rfl, hrest⟩ := hs.of_cons
    simp only [Prod.mk.injEq] at h
    obtain ⟨rfl, rfl⟩ := h
    obtain ⟨hcollect, hafter⟩ := ih (hrest.skip verbose) hrun
    rw [Regex.collect, if_pos hc, hcollect]
    exact ⟨rfl, hafter⟩
  | case3 c rest' hc =>
    obtain ⟨rfl, -⟩ := hs.of_cons
    simp only [Prod.mk.injEq, List.cons.injEq] at h
    obtain ⟨rfl, rfl, rfl⟩ := h
    rw [Regex.collect, if_neg hc]
    exact ⟨rfl, hs⟩

theorem readsOn_readHexDigits (verbose : Bool) : ∀ n, ReadsOn whole (readHexDigits verbose n)
  | 0 => by
    intro s s' a rest hs h
    rw [readHexDigits] at h
    cases h
    exact ⟨s', by rw [readHexDigits], hs⟩
  | n + 1 => by
    intro s s' a rest hs h
    cases s with
    | nil => simp [readHexDigits] at h
    | cons c s =>
      obtain ⟨rfl, hrest⟩ := hs.of_cons
      unfold readHexDigits at h ⊢
      split_ifs at h ⊢ with hc
      split at h
      · simp at h
      · rename_i hr
        cases h
        obtain ⟨after, hafter, hrest⟩ :=
          readsOn_readHexDigits verbose n _ _ _ _ (hrest.skip verbose) hr
        exact ⟨after, by rw [hafter], hrest⟩

theorem readsOn_readCodePoint (verbose : Bool) (width : Nat) (isByte : Bool) :
    ReadsOn whole (readCodePoint verbose width isByte) := by
  intro s s' a rest hs h
  have hskip := hs.skip verbose
  unfold readCodePoint at h
  split at h
  · simp at h
  · rename_i t ht
    obtain ⟨hskip, ht⟩ := hskip.eq_cons ht
    rcases hcollect : collect verbose isHexDigit (skip verbose t) with ⟨digits, after⟩
    rw [hcollect] at h
    dsimp only at h
    split at h
    · simp at h
    · rename_i u
      obtain ⟨hcollect', hu⟩ := (ht.skip verbose).collect_of_cons hcollect
      split at h
      · simp at h
      · rename_i hc
        cases h
        refine ⟨_, ?_, hu.of_cons.2.skip verbose⟩
        simp only [readCodePoint, hskip, hcollect', hc]
    · simp at h
  · rename_i d t hbrace ht
    rw [ht] at hskip
    obtain ⟨hcons, -⟩ := hskip.of_cons
    rw [hcons] at hskip
    split at h
    · simp at h
    · rename_i digits after hr
      obtain ⟨after', hafter, hrest⟩ :=
        readsOn_readHexDigits verbose width _ _ _ _ hskip hr
      split at h
      · simp at h
      · rename_i hc
        cases h
        refine ⟨after', ?_, hrest⟩
        simp only [readCodePoint, hcons, hafter, hc]

theorem readsOn_readProperty (verbose negated : Bool) :
    ReadsOn whole (readProperty verbose negated) := by
  intro s s' a rest hs h
  have hskip := hs.skip verbose
  unfold readProperty at h
  split at h
  · simp at h
  · rename_i t ht
    obtain ⟨hskip, ht⟩ := hskip.eq_cons ht
    rcases hcollect : collect verbose (· != '}') (skip verbose t) with ⟨name, after⟩
    rw [hcollect] at h
    dsimp only at h
    split at h
    · simp at h
    · rename_i d u
      obtain ⟨hcollect', hu⟩ := (ht.skip verbose).collect_of_cons hcollect
      cases h
      refine ⟨_, ?_, hu.of_cons.2⟩
      simp only [readProperty, hskip, hcollect']
  · simp at h
  · rename_i d t hbrace hescape ht
    obtain ⟨hskip, ht⟩ := hskip.eq_cons ht
    cases h
    refine ⟨_, ?_, ht⟩
    simp only [readProperty, hskip]

theorem readsOn_readWordEdge (verbose : Bool) : ReadsOn whole (readWordEdge verbose) := by
  intro s s' a rest hs h
  unfold readWordEdge at h
  split at h
  · rename_i t
    obtain ⟨rfl, ht⟩ := hs.of_cons
    have hskip := ht.skip verbose
    split at h
    · simp at h
    · rename_i d u hu
      rw [hu] at hskip
      split_ifs at h with hd
      · rcases hcollect : collect verbose isEdgeNameChar (d :: u) with ⟨name, after⟩
        rw [hcollect] at h
        dsimp only at h
        split at h
        · rename_i v
          obtain ⟨hcollect', hv⟩ := hskip.collect_of_cons hcollect
          rw [hskip.of_cons.1] at hcollect'
          split at h
          · simp at h
          · rename_i p hp
            cases h
            refine ⟨_, ?_, hv.of_cons.2⟩
            simp only [readWordEdge, hskip.of_cons.1, hd, if_true, hcollect', hp]
        · simp at h
      · cases h
        refine ⟨_, ?_, hs⟩
        simp only [readWordEdge, hskip.of_cons.1, hd]
        rfl
  · rename_i hbrace
    cases h
    refine ⟨s', ?_, hs⟩
    cases s with
    | nil => cases hs <;> rfl
    | cons d t =>
      obtain ⟨rfl, -⟩ := hs.of_cons
      unfold readWordEdge
      split
      · rename_i heq
        exact absurd (congrArg (· :: t) (List.cons.inj heq).1) (hbrace t)
      · rfl

theorem readsOn_readEscape (verbose : Bool) : ReadsOn whole (readEscape verbose) := by
  intro s s' a rest hs h
  cases s with
  | nil => simp [readEscape] at h
  | cons d t =>
    obtain ⟨rfl, ht⟩ := hs.of_cons
    unfold readEscape at h ⊢
    dsimp only at h ⊢
    split_ifs at h ⊢
    · exact readsOn_readCodePoint verbose 2 true _ _ _ _ ht h
    · exact readsOn_readCodePoint verbose 4 false _ _ _ _ ht h
    · exact readsOn_readCodePoint verbose 8 false _ _ _ _ ht h
    · exact readsOn_readProperty verbose false _ _ _ _ ht h
    · exact readsOn_readProperty verbose true _ _ _ _ ht h
    · exact readsOn_readWordEdge verbose _ _ _ _ ht h
    · cases h
      exact ⟨_, rfl, ht⟩
    · split at h
      · simp at h
      · cases h
        exact ⟨_, rfl, ht⟩

section Class

theorem span_append {p : Char → Bool} {m : List Char} :
    ∀ {l : List Char}, l.dropWhile p ≠ [] →
    (l ++ m).takeWhile p = l.takeWhile p ∧ (l ++ m).dropWhile p = l.dropWhile p ++ m
  | [], h => absurd rfl h
  | c :: l, h => by
    cases hc : p c with
    | true =>
      simp only [List.dropWhile_cons, hc, if_true] at h
      simp [hc, span_append h]
    | false => simp [hc]

theorem splitCaret_of_ne {d : Char} {t : List Char} (hd : d ≠ '^') :
    splitCaret verbose (d :: t) = (false, d :: t) := by
  unfold splitCaret
  split
  · rename_i heq
    exact absurd (List.cons.inj heq).1 hd
  · rfl

theorem splitCaret_enclosed (verbose : Bool) (h : Enclosed whole s s') :
    (splitCaret verbose s').1 = (splitCaret verbose s).1 ∧
      Enclosed whole (splitCaret verbose s).2 (splitCaret verbose s').2 := by
  cases s with
  | nil => cases h <;> exact ⟨rfl, by constructor; assumption⟩
  | cons d t =>
    obtain ⟨rfl, ht⟩ := h.of_cons
    by_cases hd : d = '^'
    · subst hd
      exact ⟨rfl, ht.skip verbose⟩
    · rw [splitCaret_of_ne hd, splitCaret_of_ne hd]
      exact ⟨rfl, h⟩

theorem splitCaret_append (t : List Char) :
    splitCaret false (t ++ [')', '$']) =
      ((splitCaret false t).1, (splitCaret false t).2 ++ [')', '$']) := by
  cases t with
  | nil => rfl
  | cons d t =>
    by_cases hd : d = '^'
    · subst hd
      rfl
    · rw [List.cons_append, splitCaret_of_ne hd, splitCaret_of_ne hd]
      rfl

theorem readNamedClass?_append (t : List Char) :
    readNamedClass? (t ++ [')', '$']) =
      (readNamedClass? t).map fun (item, rest) => (item, rest ++ [')', '$']) := by
  cases t with
  | nil => rfl
  | cons d t =>
    by_cases hd : d = ':'
    · subst hd
      rcases hcaret : splitCaret false t with ⟨negated, u⟩
      have hcaret' := splitCaret_append t
      rw [hcaret] at hcaret'
      simp only [readNamedClass?, List.cons_append, hcaret, hcaret']
      cases hdrop : u.dropWhile (· != ':') with
      | nil =>
        rw [List.dropWhile_append, hdrop]
        rfl
      | cons e w =>
        obtain ⟨hname, hafter⟩ := span_append (m := [')', '$']) (by rw [hdrop]; simp)
        rw [hname, hafter, hdrop]
        split
        · rename_i after heq
          cases w with
          | nil => simp at heq
          | cons f w =>
            simp only [List.cons_append, List.cons.injEq] at heq
            obtain ⟨rfl, rfl, rfl⟩ := heq
            simp only [Option.map_map]
            rfl
        · rename_i hne
          split
          · rename_i after heq
            cases heq
            exact absurd rfl (hne (after ++ [')', '$']))
          · rfl
    · have hcolon : ∀ u, readNamedClass? (d :: u) = none := by
        intro u
        unfold readNamedClass?
        split
        · rename_i heq
          exact absurd (List.cons.inj heq).1 hd
        · rfl
      rw [List.cons_append, hcolon, hcolon]
      rfl

theorem readNamedClass?_suffix {t rest : List Char} {item : ClassSet}
    (h : readNamedClass? t = some (item, rest)) : rest <:+ t := by
  unfold readNamedClass? at h
  split at h
  · rename_i u
    have hcaret : (splitCaret false u).2 <:+ u := by
      unfold splitCaret
      split
      · exact List.suffix_cons ..
      · exact List.suffix_rfl
    have hname := List.dropWhile_suffix (l := (splitCaret false u).2) (· != ':')
    dsimp only at h
    split at h
    · rename_i after hafter
      obtain ⟨_, -, hr⟩ := Option.map_eq_some_iff.1 h
      cases hr
      rw [hafter] at hname
      have hclose : rest <:+ ':' :: ']' :: rest := ⟨[':', ']'], rfl⟩
      exact hclose.trans (hname.trans (hcaret.trans (List.suffix_cons ..)))
    · simp at h
  · simp at h

theorem readsOn_readFirstItems (verbose negated : Bool) :
    ReadsOn whole (readFirstItems verbose negated) := by
  intro s s' a rest hs h
  unfold readFirstItems at h ⊢
  rcases hcollect : collect verbose (· == '-') s with ⟨hyphens, after⟩
  rw [hcollect] at h
  dsimp only at h
  split at h
  · simp at h
  · rename_i d t
    obtain ⟨hcollect', ht⟩ := hs.collect_of_cons hcollect
    rw [hcollect']
    dsimp only
    split_ifs at h ⊢
    · cases h
      exact ⟨_, rfl, ht.of_cons.2.skip verbose⟩
    · cases h
      exact ⟨_, rfl, ht⟩

theorem readsOn_readClassOpening (verbose : Bool) : ReadsOn whole (readClassOpening verbose) := by
  intro s s' a rest hs h
  obtain ⟨hnegated, hrest⟩ := splitCaret_enclosed verbose (hs.skip verbose)
  unfold readClassOpening at h ⊢
  dsimp only at h ⊢
  rw [hnegated]
  exact readsOn_readFirstItems verbose _ _ _ _ _ hrest h

theorem readsOn_readClassAtom (verbose : Bool) : ReadsOn whole (readClassAtom verbose) := by
  intro s s' a rest hs h
  cases s with
  | nil => simp [readClassAtom] at h
  | cons d t =>
    obtain ⟨rfl, ht⟩ := hs.of_cons
    unfold readClassAtom at h ⊢
    dsimp only at h ⊢
    split_ifs at h ⊢
    · exact readsOn_readEscape verbose _ _ _ _ ht h
    · cases h
      exact ⟨_, rfl, ht⟩

theorem peekPast_append : ∀ (inComment : Bool) (t : List Char),
    peekPast inComment (t ++ [')', '$']) = (peekPast inComment t).or (some ')')
  | inComment, [] => by
    simp [peekPast, isBlank_closing]
  | inComment, c :: t => by
    rw [List.cons_append]
    unfold peekPast
    split_ifs
    · exact peekPast_append inComment t
    · exact peekPast_append true t
    · rfl

theorem endsBeforeHyphen_append (verbose : Bool) (t : List Char) :
    endsBeforeHyphen verbose (t ++ [')', '$']) = endsBeforeHyphen verbose t := by
  unfold endsBeforeHyphen
  cases verbose with
  | false => cases t <;> rfl
  | true =>
    dsimp only
    rw [if_pos rfl, if_pos rfl, peekPast_append]
    cases peekPast false t <;> rfl

theorem readsOn_readClassItem (verbose : Bool) : ReadsOn whole (readClassItem verbose) := by
  intro s s' a rest hs h
  unfold readClassItem at h ⊢
  split at h
  · simp at h
  · rename_i first t hfirst
    obtain ⟨t', hfirst', ht⟩ := readsOn_readClassAtom verbose _ _ _ _ hs hfirst
    have hskip := ht.skip verbose
    rw [hfirst']
    dsimp only
    split at h
    · simp at h
    · rename_i d u hu
      rw [hu] at hskip
      obtain ⟨hcons, hrest⟩ := hskip.of_cons
      rw [hcons] at hskip ⊢
      dsimp only
      rw [endsBeforeHyphen_append]
      split_ifs at h ⊢
      · split at h
        · simp at h
        · cases h
          exact ⟨_, rfl, hskip⟩
      · split at h
        · simp at h
        · rename_i last v hlast
          obtain ⟨v', hlast', hv⟩ :=
            readsOn_readClassAtom verbose _ _ _ _ (hrest.skip verbose) hlast
          rw [hlast']
          dsimp only
          split at h
          · simp at h
          · cases h
            exact ⟨_, rfl, hv⟩

theorem readsOn_readClassRest (verbose : Bool) (current : OpenClass) (outer : List OpenClass) :
    ReadsOn whole (readClassRest verbose current outer) := by
  intro s s' a rest hs h
  have hskip := hs.skip verbose
  fun_induction readClassRest verbose current outer s generalizing s' with
  | case1 => simp at h
  | case2 current outer s t ht item u hn ih =>
    obtain ⟨hskip, ht⟩ := hskip.eq_cons ht
    have hu := Enclosed.before ((readNamedClass?_suffix hn).trans ht.suffix)
    obtain ⟨rest', hr, hrest⟩ := ih _ hu h (hu.skip verbose)
    refine ⟨rest', ?_, hrest⟩
    rw [readClassRest_eq, hskip]
    simp only [readNamedClass?_append, hn, Option.map_some, hr]
  | case3 => simp at h
  | case4 current outer s t ht hn inner u ho ih =>
    obtain ⟨hskip, ht⟩ := hskip.eq_cons ht
    obtain ⟨u', ho', hu⟩ := readsOn_readClassOpening verbose _ _ _ _ ht ho
    obtain ⟨rest', hr, hrest⟩ := ih _ hu h (hu.skip verbose)
    refine ⟨rest', ?_, hrest⟩
    rw [readClassRest_eq, hskip]
    simp only [readNamedClass?_append, hn, Option.map_none, ho', hr]
  | case5 current s t ht =>
    obtain ⟨hskip, ht⟩ := hskip.eq_cons ht
    cases h
    refine ⟨_, ?_, ht⟩
    rw [readClassRest_eq, hskip]
    rfl
  | case6 current s t ht around outer ih =>
    obtain ⟨hskip, ht⟩ := hskip.eq_cons ht
    obtain ⟨rest', hr, hrest⟩ := ih _ ht h (ht.skip verbose)
    exact ⟨rest', by rw [readClassRest_eq, hskip]; exact hr, hrest⟩
  | case7 current outer s t ht ih | case8 current outer s t ht ih
  | case9 current outer s t ht ih =>
    obtain ⟨hskip, hmark⟩ := hskip.eq_cons ht
    have ht := hmark.of_cons.2
    obtain ⟨rest', hr, hrest⟩ := ih _ ht h (ht.skip verbose)
    exact ⟨rest', by rw [readClassRest_eq, hskip]; exact hr, hrest⟩
  | case10 => simp at h
  | case11 current outer s d t hopen hclose hand hhyphen htilde ht item u hi ih =>
    rw [ht] at hskip
    obtain ⟨hcons, htail⟩ := hskip.of_cons
    rw [hcons] at hskip
    obtain ⟨u', hi', hu⟩ := readsOn_readClassItem verbose _ _ _ _ hskip hi
    obtain ⟨rest', hr, hrest⟩ := ih _ hu h (hu.skip verbose)
    refine ⟨rest', ?_, hrest⟩
    have hne : ∀ mark, mark ≠ ')' → (∀ rest, d = mark → t = mark :: rest → False) →
        ∀ rest, d = mark → t ++ [')', '$'] = mark :: rest → False :=
      fun mark hmark h rest hd => htail.ne_cons hmark (fun u => h u hd) rest
    have hand' := hne '&' (by decide) hand
    have hhyphen' := hne '-' (by decide) hhyphen
    have htilde' := hne '~' (by decide) htilde
    rw [readClassRest_eq, hcons]
    simp only [hi', hr]

theorem readsOn_readClass (verbose : Bool) : ReadsOn whole (readClass verbose) := by
  intro s s' a rest hs h
  unfold readClass at h ⊢
  split at h
  · simp at h
  · rename_i c t ho
    obtain ⟨t', ho', ht⟩ := readsOn_readClassOpening verbose _ _ _ _ hs ho
    rw [ho']
    exact readsOn_readClassRest verbose c [] _ _ _ _ ht h

end Class

section Opening

theorem readsOn_readFlags (changes : FlagChanges) (clearing atHyphen : Bool) :
    ReadsOn whole (readFlags changes clearing atHyphen) := by
  intro s s' a rest hs h
  induction s generalizing s' changes clearing atHyphen with
  | nil => simp [readFlags] at h
  | cons d t ih =>
    obtain ⟨rfl, ht⟩ := hs.of_cons
    unfold readFlags at h ⊢
    split_ifs at h ⊢
    · cases h
      exact ⟨_, rfl, ht⟩
    · cases h
      exact ⟨_, rfl, ht⟩
    · exact ih _ _ _ _ ht h
    · split at h
      · simp at h
      · split_ifs at h ⊢
        exact ih _ _ _ _ ht h

theorem readsOn_readGroupName : ReadsOn whole readGroupName := by
  intro s s' a rest hs h
  unfold readGroupName at h
  split at h
  · simp at h
  · rename_i d t ht
    cases hs with
    | lost => simp at ht
    | before hs =>
      obtain ⟨hname, hafter⟩ := span_append (m := [')', '$']) (by rw [ht]; simp)
      have hrest := List.dropWhile_suffix (l := s) (· != '>')
      rw [ht] at hrest
      split_ifs at h with hvalid
      cases h
      refine ⟨_, ?_, .before ((List.suffix_cons d _).trans (hrest.trans hs))⟩
      simp only [readGroupName, hname, hafter, ht, List.cons_append, if_pos hvalid]

theorem readsOn_readOpening (verbose : Bool) : ReadsOn whole (readOpening verbose) := by
  intro s s' a rest hs h
  have hskip := hs.skip verbose
  unfold readOpening at h
  split at h
  · simp at h
  · simp at h
  · simp at h
  · simp at h
  · rename_i t ht
    obtain ⟨hskip, hmark⟩ := hskip.eq_cons ht
    have ht := hmark.of_cons.2.of_cons.2
    obtain ⟨rest', hr, hrest⟩ := readsOn_readGroupName _ _ _ _ ht h
    refine ⟨rest', ?_, hrest⟩
    simp only [readOpening, hskip, List.cons_append, hr]
  · rename_i t hahead hnot ht
    obtain ⟨hskip, hmark⟩ := hskip.eq_cons ht
    have ht := hmark.of_cons.2
    obtain ⟨rest', hr, hrest⟩ := readsOn_readGroupName _ _ _ _ ht h
    refine ⟨rest', ?_, hrest⟩
    have hahead' := ht.ne_cons (by decide) hahead
    have hnot' := ht.ne_cons (by decide) hnot
    simp only [readOpening, hskip, List.cons_append, hr]
  · rename_i t hahead hnot _ _ hnamed hangle ht
    obtain ⟨hskip, ht⟩ := hskip.eq_cons ht
    obtain ⟨rest', hr, hrest⟩ := readsOn_readFlags [] false false _ _ _ _ ht h
    refine ⟨rest', ?_, hrest⟩
    -- No mark of another opening starts with what is appended, also where `t` is empty.
    have hahead' := ht.ne_cons (by decide) hahead
    have hnot' := ht.ne_cons (by decide) hnot
    have hangle' := ht.ne_cons (by decide) hangle
    have hnamed' : ∀ u, t ++ [')', '$'] = 'P' :: '<' :: u → False := by
      intro u hu
      cases t with
      | nil => simp at hu
      | cons d t =>
        simp only [List.cons_append, List.cons.injEq] at hu
        obtain ⟨rfl, hu⟩ := hu
        exact ht.of_cons.2.ne_cons (by decide) (fun v hv => hnamed v (by rw [hv])) u hu
    unfold readOpening
    rw [hskip]
    split
    all_goals rename_i heq
    all_goals simp only [List.cons.injEq, true_and] at heq
    · exact (hahead' _ heq).elim
    · exact (hnot' _ heq).elim
    · exact (hangle' _ heq).elim
    · exact (hangle' _ heq).elim
    · exact (hnamed' _ heq).elim
    · exact (hangle' _ heq).elim
    · rw [← heq]
      exact hr
    · exact (heq _ rfl).elim
  · rename_i hmark
    have hmark' := hskip.ne_cons (by decide) hmark
    cases h
    refine ⟨_, ?_, hskip⟩
    unfold readOpening
    split
    all_goals first | rfl | (rename_i heq; exact (hmark' _ heq).elim)

end Opening

section Count

theorem Enclosed.dropWhile {p : Char → Bool} (hp : p ')' = false) (h : Enclosed whole s s') :
    Enclosed whole (s.dropWhile p) (s'.dropWhile p) := by
  cases h with
  | lost h => exact .lost h
  | before h =>
    have hdrop := (List.dropWhile_suffix (l := s) p).trans h
    cases hs : s.dropWhile p with
    | nil =>
      have hend : (s ++ [')', '$']).dropWhile p = [')', '$'] := by
        rw [List.dropWhile_append, hs]
        simp [hp]
      rw [hend]
      exact .before List.nil_suffix
    | cons d t =>
      rw [(span_append (by rw [hs]; simp)).2, hs]
      exact .before (hs ▸ hdrop)

theorem Enclosed.readDecimal (verbose : Bool) (h : Enclosed whole s s') :
    (readDecimal verbose s').1 = (readDecimal verbose s).1 ∧
      Enclosed whole (readDecimal verbose s).2 (readDecimal verbose s').2 := by
  obtain ⟨hdigits, hrest⟩ := (h.dropWhile isBlank_closing).collect verbose
    (show Char.isDigit ')' = false by decide)
  unfold Regex.readDecimal
  dsimp only
  rw [hdigits]
  exact ⟨rfl, (hrest.collect verbose isBlank_closing).2⟩

theorem Enclosed.readGreed (h : Enclosed whole s s') :
    (readGreed s').1 = (readGreed s).1 ∧ Enclosed whole (readGreed s).2 (readGreed s').2 := by
  cases s with
  | nil => cases h <;> exact ⟨rfl, by constructor; assumption⟩
  | cons d t =>
    obtain ⟨rfl, ht⟩ := h.of_cons
    by_cases hd : d = '?'
    · subst hd
      exact ⟨rfl, ht⟩
    · have hgreed : ∀ u, Regex.readGreed (d :: u) = (true, d :: u) := by
        intro u
        unfold Regex.readGreed
        split
        · rename_i heq
          exact absurd (List.cons.inj heq).1 hd
        · rfl
      rw [hgreed, hgreed]
      exact ⟨rfl, h⟩

theorem readsOn_finishCount (verbose : Bool) (min : Nat) (max : Option Nat) :
    ReadsOn whole (finishCount verbose min max) := by
  intro s s' a rest hs h
  unfold finishCount at h
  split at h
  · rename_i t
    obtain ⟨rfl, ht⟩ := hs.of_cons
    obtain ⟨hgreedy, hrest⟩ := (ht.skip verbose).readGreed
    rcases hg : readGreed (skip verbose t) with ⟨greedy, u⟩
    rcases hg' : readGreed (skip verbose (t ++ [')', '$'])) with ⟨greedy', u'⟩
    simp only [hg, hg'] at h hgreedy hrest
    split_ifs at h with hmax
    cases h
    refine ⟨u', ?_, hrest⟩
    simp only [finishCount, if_neg hmax, hg', hgreedy]
  · simp at h

theorem readsOn_readUpperCount (verbose : Bool) (min : Nat) :
    ReadsOn whole (readUpperCount verbose min) := by
  intro s s' a rest hs h
  have hskip := hs.skip verbose
  unfold readUpperCount at h
  split at h
  · rename_i t ht
    rw [ht] at hskip
    obtain ⟨rest', hr, hrest⟩ := readsOn_finishCount verbose min none _ _ _ _ hskip h
    refine ⟨rest', ?_, hrest⟩
    rw [hskip.of_cons.1] at hr
    simp only [readUpperCount, hskip.of_cons.1]
    exact hr
  · rename_i hbrace
    obtain ⟨hmost, hafter⟩ := hskip.readDecimal verbose
    split at h
    · simp at h
    · rename_i most after hr
      rw [hr] at hmost hafter
      dsimp only at hmost hafter
      obtain ⟨rest', hr', hrest⟩ := readsOn_finishCount verbose min (some most) _ _ _ _ hafter h
      refine ⟨rest', ?_, hrest⟩
      unfold readUpperCount
      split
      · rename_i hu
        exact (hskip.ne_cons (by decide) hbrace _ hu).elim
      · rw [← Prod.eta (readDecimal verbose (skip verbose s')), hmost]
        exact hr'

theorem readsOn_readCount (verbose : Bool) : ReadsOn whole (readCount verbose) := by
  intro s s' a rest hs h
  obtain ⟨hmin, hafter⟩ := (hs.skip verbose).readDecimal verbose
  rcases hr' : readDecimal verbose (skip verbose s') with ⟨n, after⟩
  rw [hr'] at hmin hafter
  unfold readCount at h
  split at h
  · simp at h
  · rename_i min t hr
    simp only [hr] at hmin hafter
    obtain ⟨hafter, ht⟩ := hafter.of_cons
    obtain ⟨rest', hu, hrest⟩ := readsOn_readUpperCount verbose min _ _ _ _ ht h
    exact ⟨rest', by simp only [readCount, hr', hmin, hafter, hu], hrest⟩
  · rename_i min t hcomma hr
    simp only [hr] at hmin hafter
    have hcomma' := hafter.ne_cons (by decide) hcomma
    obtain ⟨rest', hf, hrest⟩ := readsOn_finishCount verbose min (some min) _ _ _ _ hafter h
    exact ⟨rest', by simp only [readCount, hr', hmin, hf], hrest⟩

end Count

end ExpiringCache.Regex
