import ExpiringCache.Regex.Reading
import Mathlib.Tactic.SplitIfs

/-!
# Groups that are open

What holds of the groups that are open while an expression is read, however far it has been read:
no count in them has its least number above its greatest, and the outermost one is the plain one
that the reading started with (`Progress.Sound`). A step either adds an item, starts a branch,
repeats the last item, or enters or leaves a group (`step_cases`), and each of these keeps it.
-/

namespace ExpiringCache.Regex

variable {p q : Progress} {verbose : Bool} {count : Count} {text rest : List Char}

/-- Whether the least number of a count is not above its greatest. -/
def Count.Ordered (count : Count) : Prop := ∀ most, count.max = some most → count.min ≤ most

/-- Whether all counts in an expression are in order. -/
def Expr.Ordered : Expr → Prop
  | empty | flags _ | atom _ | bracketed _ _ => True
  | repeated body count => body.Ordered ∧ count.Ordered
  | group _ body | capture body => body.Ordered
  | seq a b | alt a b => a.Ordered ∧ b.Ordered

theorem finishCount_ordered {min : Nat} {max : Option Nat}
    (h : finishCount verbose min max text = .ok (count, rest)) : count.Ordered := by
  intro most hmost
  unfold finishCount at h
  split at h
  · split_ifs at h with hbad
    cases h
    dsimp only at hmost
    subst hmost
    simpa using hbad
  · simp at h

theorem readCount_ordered (h : readCount verbose text = .ok (count, rest)) : count.Ordered := by
  unfold readCount at h
  split at h
  · simp at h
  · unfold readUpperCount at h
    split at h
    · exact finishCount_ordered h
    · split at h
      · simp at h
      · exact finishCount_ordered h
  · exact finishCount_ordered h

/-- What one step does to the groups that are being read. -/
theorem step_cases {c : Char} (h : step p c text = .ok (q, rest)) :
    (∃ e, e.Ordered ∧ q = p.add e) ∨ q = { p with current := p.current.nextBranch } ∨
    (∃ count, count.Ordered ∧ p.repeatLast count = .ok q) ∨
    (∃ o, p.enter o = .ok q) ∨ p.leave = .ok q := by
  unfold step at h
  split_ifs at h
  · split at h
    · simp at h
    · exact .inr (.inr (.inr (.inl ⟨_, (map_pair_eq_ok_iff.1 h).1⟩)))
  · exact .inr (.inr (.inr (.inr (map_pair_eq_ok_iff.1 h).1)))
  · cases h
    exact .inr (.inl rfl)
  · split at h
    · simp at h
    · cases h
      exact .inl ⟨.bracketed _ _, trivial, rfl⟩
  · refine .inr (.inr (.inl ⟨_, ?_, (map_pair_eq_ok_iff.1 h).1⟩))
    rintro most ⟨⟩
    exact Nat.zero_le 1
  · exact .inr (.inr (.inl ⟨_, by simp [Count.Ordered], (map_pair_eq_ok_iff.1 h).1⟩))
  · exact .inr (.inr (.inl ⟨_, by simp [Count.Ordered], (map_pair_eq_ok_iff.1 h).1⟩))
  · split at h
    · simp at h
    · rename_i hr
      exact .inr (.inr (.inl ⟨_, readCount_ordered hr, (map_pair_eq_ok_iff.1 h).1⟩))
  · split at h
    · simp at h
    · cases h
      exact .inl ⟨.atom _, trivial, rfl⟩

theorem Expr.ordered_ofItems : ∀ {items : List Expr}, (∀ e ∈ items, e.Ordered) →
    (ofItems items).Ordered
  | [], _ => trivial
  | [e], h => h e (List.mem_singleton_self e)
  | e :: _ :: _, h =>
    ⟨h e (List.mem_cons_self ..), ordered_ofItems fun g hg => h g (List.mem_cons_of_mem e hg)⟩

theorem Expr.ordered_ofBranches : ∀ {branches : List Expr}, (∀ e ∈ branches, e.Ordered) →
    (ofBranches branches).Ordered
  | [], _ => trivial
  | [e], h => h e (List.mem_singleton_self e)
  | e :: _ :: _, h =>
    ⟨h e (List.mem_cons_self ..), ordered_ofBranches fun g hg => h g (List.mem_cons_of_mem e hg)⟩

/-- Whether the counts in all that has been read of a group are in order. -/
structure OpenGroup.Ordered (g : OpenGroup) : Prop where
  branches : ∀ e ∈ g.branches, e.Ordered
  items : ∀ e ∈ g.items, e.Ordered

namespace OpenGroup

variable {g : OpenGroup}

theorem ordered_start (kind : GroupKind) (verboseAround : Bool) :
    (start kind verboseAround).Ordered :=
  ⟨by simp [start], by simp [start]⟩

theorem Ordered.add {e : Expr} (hg : g.Ordered) (he : e.Ordered) : (g.add e).Ordered :=
  ⟨hg.branches, List.forall_mem_cons.2 ⟨he, hg.items⟩⟩

theorem Ordered.branch (hg : g.Ordered) : (Expr.ofItems g.items.reverse).Ordered :=
  Expr.ordered_ofItems fun e he => hg.items e (List.mem_reverse.1 he)

theorem Ordered.nextBranch (hg : g.Ordered) : g.nextBranch.Ordered :=
  ⟨List.forall_mem_cons.2 ⟨hg.branch, hg.branches⟩, by simp [OpenGroup.nextBranch]⟩

theorem Ordered.content (hg : g.Ordered) : g.content.Ordered := by
  refine Expr.ordered_ofBranches fun e he => ?_
  rcases List.mem_cons.1 (List.mem_reverse.1 he) with rfl | he
  · exact hg.branch
  · exact hg.branches e he

theorem Ordered.close (hg : g.Ordered) : g.close.Ordered := by
  unfold OpenGroup.close
  split <;> exact hg.content

/-- What repeating the last item does to a group. -/
theorem repeatLast_cases {g' : OpenGroup} (h : g.repeatLast count = .ok g') :
    ∃ e rest, g.items = e :: rest ∧ g' = { g with items := .repeated e count :: rest } := by
  unfold repeatLast at h
  split at h
  · simp at h
  · simp at h
  · rename_i e rest hitems _
    cases h
    exact ⟨e, rest, ‹_›, rfl⟩

end OpenGroup

/-- Whether the outermost group is a plain one in a text that is not verbose. -/
def IsRooted : OpenGroup → List OpenGroup → Prop
  | g, [] => g.kind = .plain [] ∧ g.verboseAround = false
  | _, g :: around => IsRooted g around

theorem IsRooted.congr {g g' : OpenGroup} {around : List OpenGroup} (h : IsRooted g around)
    (hkind : g'.kind = g.kind) (hverbose : g'.verboseAround = g.verboseAround) :
    IsRooted g' around := by
  cases around with
  | nil => exact ⟨hkind.trans h.1, hverbose.trans h.2⟩
  | cons => exact h

/-- What holds of the open groups however far an expression has been read. -/
structure Progress.Sound (p : Progress) : Prop where
  current : p.current.Ordered
  around : ∀ g ∈ p.around, g.Ordered
  rooted : IsRooted p.current p.around

theorem Progress.sound_start : Progress.start.Sound :=
  ⟨OpenGroup.ordered_start _ _, by simp [start], rfl, rfl⟩

theorem Progress.Sound.add {e : Expr} (hp : p.Sound) (he : e.Ordered) : (p.add e).Sound :=
  ⟨hp.current.add he, hp.around, hp.rooted.congr rfl rfl⟩

theorem Progress.Sound.nextBranch (hp : p.Sound) :
    ({ p with current := p.current.nextBranch } : Progress).Sound :=
  ⟨hp.current.nextBranch, hp.around, hp.rooted.congr rfl rfl⟩

theorem Progress.Sound.repeatLast (hp : p.Sound) (hcount : count.Ordered)
    (h : p.repeatLast count = .ok q) : q.Sound := by
  unfold Progress.repeatLast at h
  split at h
  · simp at h
  · rename_i current hcurrent
    cases h
    obtain ⟨e, rest, hitems, rfl⟩ := OpenGroup.repeatLast_cases hcurrent
    obtain ⟨he, hrest⟩ := List.forall_mem_cons.1 (hitems ▸ hp.current.items)
    exact ⟨⟨hp.current.branches, List.forall_mem_cons.2 ⟨⟨he, hcount⟩, hrest⟩⟩, hp.around,
      hp.rooted.congr rfl rfl⟩

theorem Progress.Sound.openGroup (hp : p.Sound) (kind : GroupKind) (verbose : Bool) :
    (p.openGroup kind verbose).Sound :=
  ⟨OpenGroup.ordered_start _ _, List.forall_mem_cons.2 ⟨hp.current, hp.around⟩, hp.rooted⟩

theorem Progress.Sound.enter {o : Opening} (hp : p.Sound) (h : p.enter o = .ok q) : q.Sound := by
  unfold Progress.enter at h
  split at h
  · cases h
    exact hp.openGroup _ _
  · split_ifs at h
    cases h
    obtain ⟨hcurrent, haround, hrooted⟩ := hp.openGroup .capture p.verbose
    exact ⟨hcurrent, haround, hrooted⟩
  · cases h
    exact hp.openGroup _ _
  · cases h
    obtain ⟨hcurrent, haround, hrooted⟩ := hp.add (e := .flags _) trivial
    exact ⟨hcurrent, haround, hrooted⟩

theorem Progress.Sound.leave (hp : p.Sound) (h : p.leave = .ok q) : q.Sound := by
  unfold Progress.leave at h
  split at h
  · simp at h
  · rename_i outer around haround
    cases h
    obtain ⟨houter, hrest⟩ := List.forall_mem_cons.1 (haround ▸ hp.around)
    have hrooted : IsRooted outer around := by
      have := hp.rooted
      rwa [haround] at this
    exact ⟨houter.add hp.current.close, hrest, hrooted.congr rfl rfl⟩

/-- A step keeps the open groups as they have to be. -/
theorem Progress.Sound.step {c : Char} (hp : p.Sound)
    (h : step p c text = .ok (q, rest)) : q.Sound := by
  rcases step_cases h with ⟨e, he, rfl⟩ | rfl | ⟨count, hcount, h⟩ | ⟨o, h⟩ | h
  · exact hp.add he
  · exact hp.nextBranch
  · exact hp.repeatLast hcount h
  · exact hp.enter h
  · exact hp.leave h

/-- What is read has its counts in order. -/
theorem readRest_ordered {e : Expr} (hp : p.Sound) (h : readRest p text = .ok e) :
    e.Ordered := by
  fun_induction readRest p text with
  | case1 p text ht =>
    unfold Progress.finish at h
    split at h
    · cases h
      exact hp.current.content
    · simp at h
  | case2 => simp at h
  | case3 p text c rest ht q rest' hstep ih => exact ih (hp.step hstep) h

end ExpiringCache.Regex
