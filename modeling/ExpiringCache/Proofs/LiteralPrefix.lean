import ExpiringCache.Proofs.GlobLanguage
import ExpiringCache.Proofs.PrefixWalk

/-!
# Globs that ask for a prefix

A literal and a final star spell one item for each character and then any run
(`spells_literalStar`), so they stand for the keys that start with the literal
(`language_literalStar`). Such a glob is the only kind that becomes a test for a prefix, and
the walk over the index then finds what the regular expression of the same glob would find
(`prefix_walk_agrees_with_glob`).
-/

namespace ExpiringCache

namespace Glob

/-- The characters that do not stand for themselves in a glob. -/
def special : List Char := ['*', '?', '\\', '[']

variable {text start key : List Char}

theorem literalPrefix?_eq_some_iff :
    literalPrefix? text = some start ↔ text = start ++ ['*'] ∧ ∀ c ∈ start, c ∉ special := by
  have hspecial : ∀ l : List Char,
      l.any (· ∈ ['*', '?', '[', '\\']) = false ↔ ∀ c ∈ l, c ∉ special := by
    intro l
    simp only [List.any_eq_false, decide_eq_true_eq, special]
    refine forall₂_congr fun c _ => not_congr ?_
    simp only [List.mem_cons, List.not_mem_nil, or_false]
    exact or_congr_right (or_congr_right or_comm)
  unfold literalPrefix?
  constructor
  · intro h
    split at h
    · rename_i hlast
      obtain ⟨before, rfl⟩ := List.getLast?_eq_some_iff.1 hlast
      simp only [List.dropLast_concat] at h
      split_ifs at h with hany
      cases h
      exact ⟨rfl, (hspecial start).1 (Bool.eq_false_iff.2 hany)⟩
    · simp at h
  · rintro ⟨rfl, hplain⟩
    simp only [List.getLast?_concat, List.dropLast_concat, (hspecial start).2 hplain,
      Bool.false_eq_true, if_false]

/-- The items of a literal and a final star. -/
def literalStar (start : List Char) : List Item := start.map .literal ++ [.anyRun]

theorem spells_literalStar : ∀ {start : List Char}, (∀ c ∈ start, c ∉ special) →
    Spells (start ++ ['*']) (literalStar start)
  | [], _ => .cons .anyRun .nil
  | c :: _, h =>
    .cons (.plain (h c List.mem_cons_self))
      (spells_literalStar fun d hd => h d (List.mem_cons_of_mem c hd))

theorem accepts_literalStar_iff : ∀ {start key : List Char},
    Accepts (literalStar start) key ↔ start.isPrefixOf key = true
  | [], key => by
    simp only [List.isPrefixOf_nil_left, iff_true]
    exact ⟨key, [], by simp, trivial, rfl⟩
  | c :: start, key => by
    show (∃ s₁ s₂, key = s₁ ++ s₂ ∧ s₁ = [c] ∧ Accepts (literalStar start) s₂) ↔ _
    constructor
    · rintro ⟨_, rest, rfl, rfl, hrest⟩
      simpa using accepts_literalStar_iff.1 hrest
    · intro h
      cases key with
      | nil => simp at h
      | cons d rest =>
        simp only [List.isPrefixOf_cons_cons, Bool.and_eq_true, beq_iff_eq] at h
        obtain ⟨rfl, h⟩ := h
        exact ⟨[c], rest, rfl, rfl, accepts_literalStar_iff.2 h⟩

/-- A literal and a final star stand for the keys that start with the literal. -/
theorem language_literalStar (h : ∀ c ∈ start, c ∉ special) :
    Language (start ++ ['*']) key ↔ start.isPrefixOf key = true :=
  (language_iff (spells_literalStar h)).trans accepts_literalStar_iff

theorem getLast?_of_spells {items : List Item} (h : literalPrefix? text = some start)
    (hitems : Spells text items) : items.getLast? = some .anyRun := by
  obtain ⟨rfl, hplain⟩ := literalPrefix?_eq_some_iff.1 h
  have hsame := (ofText_eq_ok_iff.2 (spells_literalStar hplain)).symm.trans
    (ofText_eq_ok_iff.2 hitems)
  simp only [Except.ok.injEq] at hsame
  rw [← hsame, literalStar, List.getLast?_concat]

end Glob

namespace Matcher

open Glob (literalPrefix?)

theorem ofRegexText_ne_startsWith (text : List Char) (start : String) :
    ofRegexText text ≠ .ok (.startsWith start) := by
  unfold ofRegexText
  split <;> simp

/-- A glob becomes a test for a prefix only if it is a literal and a final star. -/
theorem ofGlob_eq_startsWith_iff {text : List Char} {start : String} :
    ofGlob text = .ok (.startsWith start) ↔ literalPrefix? text = some start.toList := by
  unfold ofGlob
  constructor
  · intro h
    split at h
    · rename_i hstart
      simp only [Except.ok.injEq, startsWith.injEq] at h
      rw [hstart, ← h, String.toList_ofList]
    · split at h
      · simp at h
      · exact absurd h (ofRegexText_ne_startsWith _ start)
  · intro h
    rw [h]
    simp [String.ofList_toList]

/-- The regular expression of a glob is refused for nothing but its size. -/
theorem ofRegexText_of_spells {text : List Char} {items : List Glob.Item}
    (h : Glob.Spells text items) :
    ofRegexText (Glob.regexText items) =
      if (Glob.regex items).isSmallEnough then
        .ok (.pattern (String.ofList (Glob.regexText items)) (Glob.regex items))
      else .error (.regex .tooLarge) := by
  unfold ofRegexText
  rw [Regex.ofText_glob h.wellFormed]
  cases (Glob.regex items).isSmallEnough <;> rfl

variable {pattern : String} {start : List Char}

/-- A glob that is a literal and a final star has a regular expression, which accepts the keys
that start with the literal. -/
theorem exists_regex_of_literalPrefix (h : literalPrefix? pattern.toList = some start) :
    ∃ items r, Glob.ofText pattern.toList = .ok items ∧
      ofRegexText (Glob.regexText items) =
        (if r.isSmallEnough then .ok (.pattern (String.ofList (Glob.regexText items)) r)
          else .error (.regex .tooLarge)) ∧
      ∀ key, r.isMatch key.toList = (startsWith (String.ofList start)).accepts key := by
  obtain ⟨htext, hplain⟩ := Glob.literalPrefix?_eq_some_iff.1 h
  have hspells := Glob.spells_literalStar hplain
  have hitems : Glob.ofText pattern.toList = .ok (Glob.literalStar start) := by
    rw [htext]
    exact Glob.ofText_eq_ok_iff.2 hspells
  refine ⟨_, Glob.regex (Glob.literalStar start), hitems, ofRegexText_of_spells hspells,
    fun key => ?_⟩
  rw [Bool.eq_iff_iff, Glob.isMatch_regex_iff, ← Glob.language_iff hspells,
    Glob.language_literalStar hplain]
  show _ ↔ hasPrefix key (String.ofList start) = true
  rw [hasPrefix, String.toList_ofList]

end Matcher

theorem Keyspace.search_congr {m m' : Matcher} (h : ∀ key, m.accepts key = m'.accepts key)
    (ks : Keyspace) (now : Instant) : ks.search m now = ks.search m' now := by
  simp only [search_eq_filter, h]

namespace Matcher

/-- A pattern that is a literal and a final star is tested as a prefix. The same pattern is also
a glob, whose regular expression can only be refused for its size; it accepts the same keys, and
a search with it finds the same keys in the same order in any keyspace at any time. Conversely
whatever pattern is tested as a prefix is a literal and a final star, and as a glob it stands for
the keys with that prefix; so none is whose last item is anything but a star, such as an escaped
star or a class that lists one. -/
theorem prefix_walk_agrees_with_glob (pattern : String) :
    (∀ start, Glob.literalPrefix? pattern.toList = some start →
      compile pattern .wildcard = .ok (.startsWith (String.ofList start)) ∧
      ∃ items r general, Glob.ofText pattern.toList = .ok items ∧
        general = Matcher.pattern (String.ofList (Glob.regexText items)) r ∧
        ofRegexText (Glob.regexText items) =
          (if r.isSmallEnough then .ok general else .error (.regex .tooLarge)) ∧
        (∀ key, (startsWith (String.ofList start)).accepts key = general.accepts key) ∧
        ∀ (ks : Keyspace) now,
          ks.search (.startsWith (String.ofList start)) now = ks.search general now) ∧
    (∀ start, compile pattern .wildcard = .ok (.startsWith start) →
      pattern.toList = start.toList ++ ['*'] ∧ (∀ c ∈ start.toList, c ∉ Glob.special) ∧
      ∀ key, Glob.Language pattern.toList key.toList ↔ hasPrefix key start = true) ∧
    ∀ items, Glob.Spells pattern.toList items → items.getLast? ≠ some .anyRun →
      ∀ start, compile pattern .wildcard ≠ .ok (.startsWith start) := by
  refine ⟨fun start h => ⟨?_, ?_⟩, fun start h => ?_, fun items hitems hlast start h => ?_⟩
  · exact ofGlob_eq_startsWith_iff.2 (by rw [h, String.toList_ofList])
  · obtain ⟨items, r, hitems, hr, hmatch⟩ := exists_regex_of_literalPrefix h
    have haccepts : ∀ key, (startsWith (String.ofList start)).accepts key =
        (Matcher.pattern (String.ofList (Glob.regexText items)) r).accepts key :=
      fun key => (hmatch key).symm
    exact ⟨items, r, _, hitems, rfl, hr, haccepts, Keyspace.search_congr haccepts⟩
  · obtain ⟨htext, hplain⟩ := Glob.literalPrefix?_eq_some_iff.1 (ofGlob_eq_startsWith_iff.1 h)
    refine ⟨htext, hplain, fun key => ?_⟩
    rw [htext, Glob.language_literalStar hplain]
    rfl
  · exact hlast (Glob.getLast?_of_spells (ofGlob_eq_startsWith_iff.1 h) hitems)

/-- A literal full of characters that mean something in regular expressions, and a star that is
escaped. -/
theorem prefix_walk_agrees_with_glob_metacharacters :
    (∃ items r, Glob.ofText "(.]\n$*".toList = .ok items ∧
      (Matcher.pattern (String.ofList (Glob.regexText items)) r).accepts "(.]\n$\n" = true ∧
      (Matcher.pattern (String.ofList (Glob.regexText items)) r).accepts "(x]\n$\n" = false) ∧
    ∀ start, compile "a\\*" .wildcard ≠ .ok (.startsWith start) := by
  constructor
  · obtain ⟨-, items, r, _, hitems, rfl, -, haccepts, -⟩ :=
      (prefix_walk_agrees_with_glob "(.]\n$*").1 "(.]\n$".toList (by decide)
    refine ⟨items, r, hitems, ?_, ?_⟩
    · rw [← haccepts]
      decide
    · rw [← haccepts]
      decide
  · refine (prefix_walk_agrees_with_glob "a\\*").2.2 [.literal 'a', .literal '*'] ?_ (by simp)
    exact .cons (.plain (by decide)) (.cons .escaped .nil)

end Matcher

end ExpiringCache
