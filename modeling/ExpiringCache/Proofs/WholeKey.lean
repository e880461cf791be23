import ExpiringCache.Matcher
import ExpiringCache.Proofs.EnclosedText
import ExpiringCache.Proofs.GlobLanguage
import ExpiringCache.Proofs.OpenGroups

/-!
# Matching a key as a whole

A regular expression that stands on its own is read inside the brackets that bind it to both ends
of the key just as it is read alone (`readRest_inside`): what it opens it closes, and what is set
in it ends with it. So the bound expression is the expression itself between the start and the
end of the text (`ofText_wrapped`), or it is none, where a comment that is open at the end of the
expression takes the closing bracket.
-/

namespace ExpiringCache

namespace Regex

section Inside

variable {whole s s' : List Char}

theorem readsOn_readAtom (verbose : Bool) (c : Char) : ReadsOn whole (readAtom verbose c) := by
  intro s s' a rest hs h
  unfold readAtom at h ⊢
  split_ifs at h ⊢
  · exact readsOn_readEscape verbose _ _ _ _ hs h
  all_goals
    cases h
    exact ⟨s', rfl, hs⟩

/-- The same progress inside more groups. -/
def Progress.inside (p : Progress) (outer : List OpenGroup) : Progress :=
  { p with around := p.around ++ outer }

variable {p q : Progress} {outer : List OpenGroup} {c : Char}

@[simp] theorem Progress.inside_nil : p.inside [] = p := by
  rw [inside, List.append_nil]

theorem Progress.enter_inside {o : Opening} (h : p.enter o = .ok q) :
    (p.inside outer).enter o = .ok (q.inside outer) := by
  cases o with
  | named name =>
    unfold enter at h ⊢
    dsimp only at h ⊢
    split_ifs at h with hname
    cases h
    exact if_neg hname
  | _ =>
    cases h
    rfl

theorem Progress.leave_inside (h : p.leave = .ok q) :
    (p.inside outer).leave = .ok (q.inside outer) := by
  unfold leave at h
  split at h
  · simp at h
  · rename_i around haround
    cases h
    unfold leave inside
    rw [haround]
    rfl

theorem Progress.repeatLast_inside {count : Count} (h : p.repeatLast count = .ok q) :
    (p.inside outer).repeatLast count = .ok (q.inside outer) := by
  unfold repeatLast at h ⊢
  split at h
  · simp at h
  · rename_i current hcurrent
    cases h
    have hsame : (p.inside outer).current.repeatLast count = .ok current := hcurrent
    rw [hsame]
    rfl

/-- A step does the same inside more groups, and what it leaves of the text does not depend on
them. -/
theorem step_inside (hs : Enclosed whole s s') {rest : List Char}
    (h : step p c s = .ok (q, rest)) :
    ∃ rest', Enclosed whole rest rest' ∧
      ∀ outer, step (p.inside outer) c s' = .ok (q.inside outer, rest') := by
  have hverbose : ∀ outer, (p.inside outer).verbose = p.verbose := fun _ => rfl
  obtain ⟨hgreedy, hgreed⟩ := hs.readGreed
  unfold step at h ⊢
  simp only [hverbose]
  split_ifs at h ⊢
  · split at h
    · simp at h
    · rename_i o t ho
      obtain ⟨t', ho', ht⟩ := readsOn_readOpening p.verbose _ _ _ _ hs ho
      obtain ⟨hq, rfl⟩ := map_pair_eq_ok_iff.1 h
      rw [ho']
      exact ⟨t', ht, fun _ => map_pair_eq_ok_iff.2 ⟨Progress.enter_inside hq, rfl⟩⟩
  · obtain ⟨hq, rfl⟩ := map_pair_eq_ok_iff.1 h
    exact ⟨s', hs, fun _ => map_pair_eq_ok_iff.2 ⟨Progress.leave_inside hq, rfl⟩⟩
  · cases h
    exact ⟨s', hs, fun _ => rfl⟩
  · split at h
    · simp at h
    · rename_i negated set t hr
      obtain ⟨t', hr', ht⟩ := readsOn_readClass p.verbose _ _ _ _ hs hr
      cases h
      rw [hr']
      exact ⟨t', ht, fun _ => rfl⟩
  · obtain ⟨hq, rfl⟩ := map_pair_eq_ok_iff.1 h
    exact ⟨_, hgreed, fun _ => map_pair_eq_ok_iff.2
      ⟨hgreedy ▸ Progress.repeatLast_inside hq, rfl⟩⟩
  · obtain ⟨hq, rfl⟩ := map_pair_eq_ok_iff.1 h
    exact ⟨_, hgreed, fun _ => map_pair_eq_ok_iff.2
      ⟨hgreedy ▸ Progress.repeatLast_inside hq, rfl⟩⟩
  · obtain ⟨hq, rfl⟩ := map_pair_eq_ok_iff.1 h
    exact ⟨_, hgreed, fun _ => map_pair_eq_ok_iff.2
      ⟨hgreedy ▸ Progress.repeatLast_inside hq, rfl⟩⟩
  · split at h
    · simp at h
    · rename_i count t hr
      obtain ⟨t', hr', ht⟩ := readsOn_readCount p.verbose _ _ _ _ hs hr
      obtain ⟨hq, rfl⟩ := map_pair_eq_ok_iff.1 h
      rw [hr']
      exact ⟨t', ht, fun _ => map_pair_eq_ok_iff.2 ⟨Progress.repeatLast_inside hq, rfl⟩⟩
  · split at h
    · simp at h
    · rename_i a t hr
      obtain ⟨t', hr', ht⟩ := readsOn_readAtom p.verbose c _ _ _ _ hs hr
      cases h
      rw [hr']
      exact ⟨t', ht, fun _ => rfl⟩

end Inside

section Bound

/-- An expression between the start and the end of the text. -/
def Expr.bound (e : Expr) : Expr :=
  .seq (.atom (.place .lineStart)) (.seq (.group [] e) (.atom (.place .lineEnd)))

/-- The group that is open around an expression that is being bound. -/
def boundGroup : OpenGroup := (OpenGroup.start (.plain []) false).add (.atom (.place .lineStart))

variable {p : Progress} {whole s s' : List Char} {e : Expr}

/-- The end of the group closes the group that is open around an expression, and closes nothing
where there is none. -/
theorem step_closing (hp : p.Sound) (haround : p.around = []) :
    step (p.inside [boundGroup]) ')' ['$'] =
        .ok (⟨boundGroup.add (.group [] p.current.content), [], false, p.names⟩, ['$']) ∧
      step p ')' ['$'] = .error .unopenedGroup := by
  have hrooted := hp.rooted
  rw [haround] at hrooted
  have hclose : p.current.close = .group [] p.current.content := by
    rw [OpenGroup.close, hrooted.1]
  constructor
  · simp only [step, Progress.leave, Progress.inside, haround, hclose, hrooted.2]
    rfl
  · simp only [step, Progress.leave, haround]
    rfl

/-- What can be read to its end alone meets the end of the group behind it: inside the group it is
bound there, and without the group the end is one too many. Or a comment has taken the end: then
the group stays open, and without it nothing is noticed. -/
theorem readRest_inside (hp : p.Sound) (hs : Enclosed whole s s') (h : readRest p s = .ok e) :
    readRest (p.inside [boundGroup]) s' = .ok e.bound ∧
        readRest p s' = .error .unopenedGroup ∨
      readRest (p.inside [boundGroup]) s' = .error .unclosedGroup ∧
        readRest p s' = .ok e ∧ OpenComment whole := by
  have hskip := hs.skip p.verbose
  have hverbose : (p.inside [boundGroup]).verbose = p.verbose := rfl
  rw [readRest_eq, hverbose, readRest_eq p]
  fun_induction readRest p s generalizing s' with
  | case1 p s ht =>
    rw [ht] at hskip
    have hfinish := h
    unfold Progress.finish at h
    split at h
    · rename_i haround
      cases h
      generalize skip p.verbose s' = t at hskip ⊢
      cases hskip with
      | before =>
        -- The outermost group of the text is an inner one here; the bracket after it closes it.
        obtain ⟨hbound, halone⟩ := step_closing hp haround
        dsimp only [List.nil_append]
        rw [hbound, halone]
        dsimp only
        rw [readRest_cons rfl rfl, readRest_nil rfl]
        exact .inl ⟨rfl, rfl⟩
      | lost hopen =>
        -- A comment has taken the bracket, so the group is still open at the end.
        refine .inr ⟨?_, hfinish, hopen⟩
        simp only [Progress.finish, Progress.inside, haround, List.nil_append]
    · simp at h
  | case2 => simp at h
  | case3 p s c rest ht q rest' hstep ih =>
    obtain ⟨hcons, hrest⟩ := hskip.eq_cons ht
    obtain ⟨after, hafter, hinside⟩ := step_inside hrest hstep
    have halone := hinside []
    rw [Progress.inside_nil, Progress.inside_nil] at halone
    rw [hcons]
    dsimp only
    rw [hinside, halone]
    dsimp only
    rw [readRest_eq, readRest_eq q]
    exact ih (hp.step hstep) hafter h (hafter.skip q.verbose) rfl

theorem readRest_wrapped (text : List Char) :
    readRest .start (Matcher.wrapped text) =
      readRest (Progress.start.inside [boundGroup]) (text ++ [')', '$']) := by
  change readRest .start ('^' :: '(' :: '?' :: ':' :: (text ++ [')', '$'])) = _
  rw [readRest_cons rfl rfl, readRest_cons rfl rfl]
  rfl

theorem regex_bound {r : Regex} {f : Flags} (h : e.regex .standard = .ok (r, f)) :
    e.bound.regex .standard =
      .ok (.seq (.look .textStart) (.seq (.group r) (.look .textEnd)), .standard) := by
  have hgroup : (Expr.group [] e).regex .standard = .ok (.group r, .standard) := by
    unfold Expr.regex
    have hflags : Flags.standard.apply [] = Flags.standard := rfl
    rw [hflags, h]
    rfl
  exact regex_seq rfl (regex_seq hgroup rfl)

theorem ofText_eq_ok_iff {text : List Char} {r : Regex} :
    ofText text = .ok r ↔ ∃ e f, readRest .start text = .ok e ∧ e.depth ≤ maxDepth ∧
      e.regex .standard = .ok (r, f) ∧ r.isSmallEnough = true := by
  unfold ofText Expr.ofText
  constructor
  · intro h
    split at h
    · simp at h
    · rename_i e he
      split at he
      · simp at he
      · rename_i e' hread
        split_ifs at he with hdepth
        cases he
        split at h
        · simp at h
        · rename_i r' f hr
          split_ifs at h with hsmall
          cases h
          exact ⟨e, f, hread, hdepth, hr, hsmall⟩
  · rintro ⟨e, f, hread, hdepth, hr, hsmall⟩
    simp only [hread, if_pos hdepth, hr, if_pos hsmall]

/-- An expression that can be used on its own is the same between the start and the end of the
text when it is bound, if it can be used then. -/
theorem ofText_wrapped {text : List Char} {r bound : Regex} (h : ofText text = .ok r)
    (hbound : ofText (Matcher.wrapped text) = .ok bound) :
    bound = .seq (.look .textStart) (.seq (.group r) (.look .textEnd)) := by
  obtain ⟨e, f, hread, -, hr, -⟩ := ofText_eq_ok_iff.1 h
  obtain ⟨e', f', hread', -, hr', -⟩ := ofText_eq_ok_iff.1 hbound
  rw [readRest_wrapped] at hread'
  rcases readRest_inside Progress.sound_start (.refl text) hread with ⟨hinside, -⟩ | ⟨hinside, -⟩
  · rw [hinside, Except.ok.injEq] at hread'
    rw [← hread', regex_bound hr] at hr'
    cases hr'
    rfl
  · rw [hinside] at hread'
    simp at hread'

end Bound

section Meaning

variable {e : Expr}

theorem WellFormed.repeated {r : Regex} (hr : r.WellFormed) {min : Nat} {max : Option Nat}
    (hcount : ∀ most, max = some most → min ≤ most) (greedy : Bool) :
    (r.repeated min max greedy).WellFormed := by
  have hrep : ∀ {min max}, (∀ most, max = some most → min ≤ most) →
      (if min = 0 ∧ max = some 0 then empty
        else if min = 1 ∧ max = some 1 then r else rep r min max greedy).WellFormed := by
    intro min max hcount
    split_ifs
    · trivial
    · exact hr
    · exact ⟨hr, hcount⟩
  unfold Regex.repeated
  split_ifs with hvoid
  · refine hrep ?_
    rintro most ⟨⟩
    cases max with
    | none => exact Nat.min_le_right min 1
    | some most =>
      have := hcount most rfl
      simp only [Option.getD_some]
      exact Nat.le_min.2 ⟨Nat.le_trans (Nat.min_le_left ..) this, Nat.min_le_right ..⟩
  · exact hrep hcount

theorem bind_eq_ok_iff {α β ε : Type} {x : Except ε α} {f : α → Except ε β} {b : β} :
    x >>= f = .ok b ↔ ∃ a, x = .ok a ∧ f a = .ok b := by
  cases x <;> simp [bind, Except.bind]

theorem map_oneOf_wellFormed {x : Except Fault CharSet} {unicode : Bool} {r : Regex}
    (h : x.map (oneOf unicode) = .ok r) : r.WellFormed := by
  cases x with
  | error => simp [Except.map] at h
  | ok set =>
    cases h
    trivial

theorem Atom.wellFormed_regex {a : Atom} {f : Flags} {r : Regex} (h : a.regex f = .ok r) :
    r.WellFormed := by
  cases a with
  | literal c isByte =>
    obtain ⟨_, -, h⟩ := bind_eq_ok_iff.1 h
    cases h
    trivial
  | dot =>
    unfold regex at h
    split_ifs at h
    cases h
    trivial
  | place p =>
    cases h
    trivial
  | short negated s => exact map_oneOf_wellFormed h
  | property negated q => exact map_oneOf_wellFormed h

/-- What an expression means asks for no repetition that cannot be made. -/
theorem wellFormed_regex {f g : Flags} {r : Regex} (he : e.Ordered)
    (h : e.regex f = .ok (r, g)) : r.WellFormed := by
  induction e generalizing f g r with
  | empty | flags =>
    cases h
    trivial
  | atom a =>
    obtain ⟨s, hs, h⟩ := bind_eq_ok_iff.1 h
    cases h
    exact Atom.wellFormed_regex hs
  | bracketed negated set =>
    obtain ⟨s, -, h⟩ := bind_eq_ok_iff.1 h
    obtain ⟨t, -, h⟩ := bind_eq_ok_iff.1 h
    cases h
    trivial
  | repeated body count ih =>
    obtain ⟨⟨s, g'⟩, hs, h⟩ := bind_eq_ok_iff.1 h
    cases h
    exact (ih he.1 hs).repeated he.2 _
  | group changes body ih =>
    obtain ⟨⟨s, g'⟩, hs, h⟩ := bind_eq_ok_iff.1 h
    cases h
    exact (ih he hs : s.WellFormed)
  | capture body ih =>
    obtain ⟨⟨s, g'⟩, hs, h⟩ := bind_eq_ok_iff.1 h
    cases h
    exact (ih he hs : s.WellFormed)
  | seq a b iha ihb | alt a b iha ihb =>
    obtain ⟨⟨s, g'⟩, hs, h⟩ := bind_eq_ok_iff.1 h
    obtain ⟨⟨t, g''⟩, ht, h⟩ := bind_eq_ok_iff.1 h
    cases h
    exact ⟨iha he.1 hs, ihb he.2 ht⟩

theorem wellFormed_ofText {text : List Char} {r : Regex} (h : ofText text = .ok r) :
    r.WellFormed := by
  obtain ⟨e, f, hread, -, hr, -⟩ := ofText_eq_ok_iff.1 h
  exact wellFormed_regex (readRest_ordered Progress.sound_start hread) hr

/-- Between the start and the end of the text an expression matches if it spans all of it. -/
theorem isMatch_bound_iff {r : Regex} (hr : r.WellFormed) (text : List Char) :
    (seq (.look .textStart) (.seq (.group r) (.look .textEnd))).isMatch text = true ↔
      r.Spans text 0 text.length := by
  have hwf : (seq (.look .textStart) (.seq (.group r) (.look .textEnd))).WellFormed :=
    ⟨trivial, hr, trivial⟩
  rw [isMatch_iff hwf]
  constructor
  · rintro ⟨i, j, hi, _, ⟨rfl, hstart⟩, k, hspans, rfl, hend⟩
    obtain rfl := (Glob.holdsAt_textStart_iff hi).1 hstart
    have hle := (Spans.le_length hr hspans hi).2
    obtain rfl := Nat.le_antisymm hle (Glob.holdsAt_textEnd_iff.1 hend)
    exact hspans
  · intro h
    exact ⟨0, text.length, Nat.zero_le _, 0, ⟨rfl, rfl⟩, text.length, h, rfl,
      Glob.holdsAt_textEnd_iff.2 (Nat.le_refl _)⟩

end Meaning

end Regex

namespace Matcher

/-- A pattern that can be used in regular expression mode is a regular expression on its own, and
accepts the keys that this expression spans from start to end and no others. -/
theorem regex_mode_matches_whole_key {pattern : String} {m : Matcher}
    (h : compile pattern .regex = .ok m) :
    ∃ r, Regex.ofText pattern.toList = .ok r ∧
      m = .pattern (String.ofList (wrapped pattern.toList))
        (.seq (.look .textStart) (.seq (.group r) (.look .textEnd))) ∧
      ∀ key : String, m.accepts key = true ↔ r.Spans key.toList 0 key.toList.length := by
  change ofRegex pattern.toList = .ok m at h
  unfold ofRegex at h
  split at h
  · simp at h
  · rename_i r hr
    unfold ofRegexText at h
    split at h
    · simp at h
    · rename_i bound hbound
      cases h
      obtain rfl := Regex.ofText_wrapped hr hbound
      exact ⟨r, hr, rfl, fun key => Regex.isMatch_bound_iff (Regex.wellFormed_ofText hr) _⟩

/-- Branches on the top level and switches that would bear on the outer anchors, for a key that a
later branch spans and a text whose lines match one by one. -/
theorem regex_mode_matches_whole_key_multiline :
    ∃ m r, compile "(?mU)a|ab+?$|^b" .regex = .ok m ∧
      Regex.ofText "(?mU)a|ab+?$|^b".toList = .ok r ∧ r.Spans "ab".toList 0 2 ∧
      ¬ r.Spans "b\nb".toList 0 3 := by
  have haccepts : (match compile "(?mU)a|ab+?$|^b" .regex with
      | .ok m => m.accepts "ab" && ! m.accepts "b\nb"
      | .error _ => false) = true := by decide +kernel
  cases hm : compile "(?mU)a|ab+?$|^b" .regex with
  | error fault =>
    rw [hm] at haccepts
    simp at haccepts
  | ok m =>
    rw [hm, Bool.and_eq_true, Bool.not_eq_true'] at haccepts
    obtain ⟨r, hr, -, hkeys⟩ := regex_mode_matches_whole_key hm
    refine ⟨m, r, rfl, hr, (hkeys "ab").1 haccepts.1, fun hspans => ?_⟩
    have := (hkeys "b\nb").2 hspans
    rw [haccepts.2] at this
    simp at this

end Matcher

end ExpiringCache
