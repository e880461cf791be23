import ExpiringCache.Proofs.GlobReading
import ExpiringCache.Proofs.ScanSpans
import ExpiringCache.Regex.Compile

/-!
# Globs as regular expressions

The regular expression that a glob is translated to matches exactly the keys that the glob stands
for (`regexText_language`): it is read back with one part for each item, each part spans the parts
of a key that its item accepts, and the first and last places bind the whole to both ends of the
key.
-/

namespace ExpiringCache

namespace Glob

/-- The characters that a member covers. -/
def Member.charSet : Member → CharSet
  | single c => .single c
  | range lo hi => .range lo hi

/-- The characters that a class accepts. -/
def classSet (negated : Bool) (members : List Member) : CharSet :=
  if negated then .compl (.unionAll (members.map Member.charSet))
  else .unionAll (members.map Member.charSet)

/-- An item with flags applied. -/
def Item.regex : Item → Regex
  | anyRun => .rep (.oneOf true .all) 0 none true
  | anyOne => .oneOf true .all
  | literal c => .oneOf true (.single c)
  | oneOf negated members => .oneOf true (classSet negated members)

/-- Items one after another with flags applied. -/
def regexOfItems : List Item → Regex
  | [] => .empty
  | [item] => item.regex
  | item :: items => .seq item.regex (regexOfItems items)

/-- The regular expression that a glob is translated to. -/
def regex (items : List Item) : Regex :=
  .seq (.look .textStart) (.seq (.group (regexOfItems items)) (.look .textEnd))

end Glob

namespace Regex

section Meaning

/-- The flags inside the group around the items of a glob. -/
def dotAllFlags : Flags := { Flags.standard with dotAll := true }

theorem set_ofItems : ∀ (members : List Glob.Member),
    (ClassSet.ofItems (members.map Glob.Member.classSet)).set dotAllFlags =
      .ok (.unionAll (members.map Glob.Member.charSet))
  | [] => rfl
  | [.single _] => rfl
  | [.range _ _] => rfl
  | m :: n :: members => by
    have hrest := set_ofItems (n :: members)
    have hm : m.classSet.set dotAllFlags = .ok m.charSet := by cases m <;> rfl
    show (do
      let s ← m.classSet.set dotAllFlags
      let t ← (ClassSet.ofItems ((n :: members).map Glob.Member.classSet)).set dotAllFlags
      return CharSet.union s t) = _
    rw [hm, hrest]
    rfl

theorem regex_item (item : Glob.Item) :
    item.expr.regex dotAllFlags = .ok (item.regex, dotAllFlags) := by
  cases item with
  | oneOf negated members =>
    show (do
      let s ← (ClassSet.ofItems (members.map Glob.Member.classSet)).set dotAllFlags
      let s ← dotAllFlags.negate negated (dotAllFlags.fold s)
      return (Regex.oneOf dotAllFlags.unicode s, dotAllFlags)) = _
    rw [set_ofItems]
    cases negated <;> rfl
  | _ => rfl

theorem regex_seq {a b : Expr} {f g h : Flags} {r s : Regex} (ha : a.regex f = .ok (r, g))
    (hb : b.regex g = .ok (s, h)) : (Expr.seq a b).regex f = .ok (.seq r s, h) := by
  unfold Expr.regex
  simp only [ha, hb, bind, Except.bind]
  rfl

theorem regex_ofItems : ∀ (items : List Glob.Item),
    (Expr.ofItems (items.map Glob.Item.expr)).regex dotAllFlags =
      .ok (Glob.regexOfItems items, dotAllFlags)
  | [] => rfl
  | [item] => regex_item item
  | item :: next :: items => regex_seq (regex_item item) (regex_ofItems (next :: items))

theorem regex_expr (items : List Glob.Item) :
    (Glob.expr items).regex .standard = .ok (Glob.regex items, .standard) := by
  have hgroup : (Expr.group [(.dotAll, true)] (.ofItems (items.map Glob.Item.expr))).regex
      .standard = .ok (.group (Glob.regexOfItems items), .standard) := by
    have hflags : Flags.standard.apply [(.dotAll, true)] = dotAllFlags := rfl
    unfold Expr.regex
    simp only [hflags, regex_ofItems, bind, Except.bind]
    rfl
  exact regex_seq rfl (regex_seq hgroup rfl)

/-- What a glob is translated to is only refused if it would grow too large. -/
theorem ofText_glob {items : List Glob.Item} (h : ∀ item ∈ items, item.WellFormed) :
    Regex.ofText (Glob.regexText items) =
      if (Glob.regex items).isSmallEnough then .ok (Glob.regex items) else .error .tooLarge := by
  unfold Regex.ofText
  rw [ofText_regexText h]
  simp only [regex_expr]

end Meaning

section Spans

variable {text : List Char} {a b : Regex} {P Q : List Char → Prop}

/-- Whether an expression spans exactly the parts of a text that a predicate holds of. -/
def Describes (text : List Char) (r : Regex) (P : List Char → Prop) : Prop :=
  ∀ i j, r.Spans text i j ↔ ∃ s rest, text.drop i = s ++ rest ∧ j = i + s.length ∧ P s

theorem Describes.congr (h : Describes text a P) (hpq : ∀ s, P s ↔ Q s) :
    Describes text a Q := by
  intro i j
  simp only [h i j, hpq]

theorem describes_empty (text : List Char) : Describes text .empty (· = []) := by
  intro i j
  constructor
  · intro hij
    exact ⟨[], text.drop i, rfl, hij.symm, rfl⟩
  · rintro ⟨s, rest, -, rfl, rfl⟩
    rfl

theorem describes_oneOf (text : List Char) (unicode : Bool) (set : CharSet) :
    Describes text (.oneOf unicode set) fun s => ∃ c, s = [c] ∧ set.contains c = true := by
  intro i j
  constructor
  · rintro ⟨rfl, c, hc, hset⟩
    obtain ⟨hi, rfl⟩ := List.getElem?_eq_some_iff.1 hc
    exact ⟨[text[i]], text.drop (i + 1), List.drop_eq_getElem_cons hi, rfl, _, rfl, hset⟩
  · rintro ⟨s, rest, hdrop, rfl, c, rfl, hset⟩
    refine ⟨rfl, c, ?_, hset⟩
    have hhead := congrArg List.head? hdrop
    rwa [List.head?_drop] at hhead

theorem Describes.seq (ha : Describes text a P) (hb : Describes text b Q) :
    Describes text (.seq a b) fun s => ∃ s₁ s₂, s = s₁ ++ s₂ ∧ P s₁ ∧ Q s₂ := by
  intro i j
  constructor
  · rintro ⟨k, hk, hj⟩
    obtain ⟨s₁, rest₁, hdrop₁, rfl, hp⟩ := (ha i k).1 hk
    obtain ⟨s₂, rest, hdrop₂, rfl, hq⟩ := (hb _ j).1 hj
    rw [← List.drop_drop, hdrop₁, List.drop_left] at hdrop₂
    refine ⟨s₁ ++ s₂, rest, ?_, ?_, s₁, s₂, rfl, hp, hq⟩
    · rw [hdrop₁, hdrop₂, List.append_assoc]
    · rw [List.length_append, Nat.add_assoc]
  · rintro ⟨s, rest, hdrop, rfl, s₁, s₂, rfl, hp, hq⟩
    rw [List.append_assoc] at hdrop
    refine ⟨i + s₁.length, (ha i _).2 ⟨s₁, s₂ ++ rest, hdrop, rfl, hp⟩, ?_⟩
    refine (hb _ _).2 ⟨s₂, rest, ?_, ?_, hq⟩
    · rw [← List.drop_drop, hdrop, List.drop_left]
    · rw [List.length_append, Nat.add_assoc]

/-- Any number of any characters. -/
theorem describes_anyRun (text : List Char) :
    Describes text Glob.Item.anyRun.regex fun _ => True := by
  have hone := describes_oneOf text true .all
  intro i j
  constructor
  · rintro ⟨n, -, -, hsteps⟩
    induction n generalizing i with
    | zero => exact ⟨[], text.drop i, rfl, hsteps.symm, trivial⟩
    | succ n ih =>
      obtain ⟨k, hk, hrest⟩ := hsteps
      obtain ⟨_, rest₁, hdrop₁, rfl, c, rfl, -⟩ := (hone i k).1 hk
      obtain ⟨s, rest, hdrop, rfl, -⟩ := ih _ hrest
      rw [← List.drop_drop, hdrop₁, List.drop_left] at hdrop
      refine ⟨c :: s, rest, ?_, ?_, trivial⟩
      · rw [hdrop₁, hdrop]
        rfl
      · simp only [List.length_cons, List.length_nil]
        omega
  · rintro ⟨s, rest, hdrop, rfl, -⟩
    refine ⟨s.length, Nat.zero_le _, by simp, ?_⟩
    induction s generalizing i with
    | nil => rfl
    | cons c s ih =>
      have hnext : text.drop (i + 1) = s ++ rest := by
        rw [← List.drop_drop, hdrop]
        rfl
      refine ⟨i + 1, (hone i (i + 1)).2 ⟨[c], s ++ rest, hdrop, rfl, c, rfl, rfl⟩, ?_⟩
      have hlast := ih (i + 1) hnext
      rwa [Nat.add_right_comm, Nat.add_assoc] at hlast

end Spans

end Regex

section Classes

theorem CharSet.contains_unionAll (c : Char) : ∀ (sets : List CharSet),
    (unionAll sets).contains c = true ↔ ∃ s ∈ sets, s.contains c = true
  | [] => by simp [unionAll, contains]
  | [s] => by simp [unionAll]
  | s :: t :: rest => by
    have hrest := contains_unionAll c (t :: rest)
    show (s.contains c || (unionAll (t :: rest)).contains c) = true ↔ _
    rw [Bool.or_eq_true, hrest]
    simp only [List.mem_cons, exists_eq_or_imp]

theorem CharSet.contains_single (c d : Char) : (single c).contains d = true ↔ d = c := by
  simp only [single, contains, Bool.and_eq_true, decide_eq_true_eq]
  constructor
  · rintro ⟨hle, hge⟩
    exact Char.le_antisymm hge hle
  · rintro rfl
    exact ⟨Char.le_refl d, Char.le_refl d⟩

namespace Glob

theorem Member.contains_charSet (m : Member) (c : Char) :
    m.charSet.contains c = true ↔ m.covers c := by
  cases m with
  | single d => exact CharSet.contains_single d c
  | range lo hi => simp [charSet, CharSet.contains, covers]

theorem contains_classSet (negated : Bool) (members : List Member) (c : Char) :
    (classSet negated members).contains c = true ↔ classAccepts negated members c := by
  have hunion : (CharSet.unionAll (members.map Member.charSet)).contains c = true ↔
      ∃ m ∈ members, m.covers c := by
    rw [CharSet.contains_unionAll]
    constructor
    · rintro ⟨s, hs, hc⟩
      obtain ⟨m, hm, rfl⟩ := List.mem_map.1 hs
      exact ⟨m, hm, (m.contains_charSet c).1 hc⟩
    · rintro ⟨m, hm, hc⟩
      exact ⟨m.charSet, List.mem_map_of_mem hm, (m.contains_charSet c).2 hc⟩
  cases negated with
  | true =>
    show (! (CharSet.unionAll (members.map Member.charSet)).contains c) = true ↔
      ¬ ∃ m ∈ members, m.covers c
    rw [Bool.not_eq_true', ← hunion, Bool.not_eq_true]
  | false => exact hunion

end Glob

end Classes

namespace Glob

open Regex (Describes)

theorem describes_item (text : List Char) (item : Item) :
    Describes text item.regex item.Accepts := by
  cases item with
  | anyRun => exact Regex.describes_anyRun text
  | anyOne =>
    refine (Regex.describes_oneOf text true .all).congr fun s => ?_
    simp [Item.Accepts, CharSet.all, CharSet.contains]
  | literal c =>
    refine (Regex.describes_oneOf text true (.single c)).congr fun s => ?_
    simp [Item.Accepts, CharSet.contains_single]
  | oneOf negated members =>
    refine (Regex.describes_oneOf text true (classSet negated members)).congr fun s => ?_
    simp only [Item.Accepts, contains_classSet]

theorem describes_items (text : List Char) : ∀ (items : List Item),
    Describes text (regexOfItems items) (Accepts items)
  | [] => Regex.describes_empty text
  | [item] => by
    refine (describes_item text item).congr fun s => ?_
    simp [Accepts]
  | item :: next :: items => (describes_item text item).seq (describes_items text (next :: items))

theorem Item.wellFormed_regex (item : Item) : item.regex.WellFormed := by
  cases item with
  | anyRun => exact ⟨trivial, by simp⟩
  | _ => trivial

theorem wellFormed_regexOfItems : ∀ (items : List Item), (regexOfItems items).WellFormed
  | [] => trivial
  | [item] => item.wellFormed_regex
  | item :: next :: items => ⟨item.wellFormed_regex, wellFormed_regexOfItems (next :: items)⟩

theorem holdsAt_textStart_iff {text : List Char} {i : Nat} (hi : i ≤ text.length) :
    Look.textStart.holdsAt text i = true ↔ i = 0 := by
  cases i with
  | zero => simp [Look.holdsAt, Look.holds]
  | succ i => simpa [Look.holdsAt, Look.holds] using Nat.lt_of_succ_le hi

theorem holdsAt_textEnd_iff {text : List Char} {i : Nat} :
    Look.textEnd.holdsAt text i = true ↔ text.length ≤ i := by
  simp [Look.holdsAt, Look.holds]

/-- A key is matched if the items accept it. -/
theorem isMatch_regex_iff (items : List Item) (key : List Char) :
    (regex items).isMatch key = true ↔ Accepts items key := by
  have hwf : (regex items).WellFormed := ⟨trivial, wellFormed_regexOfItems items, trivial⟩
  rw [Regex.isMatch_iff hwf]
  constructor
  · rintro ⟨i, j, hi, _, ⟨rfl, hstart⟩, _, hbody, rfl, hend⟩
    obtain rfl := (holdsAt_textStart_iff hi).1 hstart
    obtain ⟨s, rest, hdrop, rfl, haccepts⟩ := (describes_items key items 0 _).1 hbody
    have hlength := holdsAt_textEnd_iff.1 hend
    rw [List.drop_zero] at hdrop
    rw [hdrop, List.length_append] at hlength
    obtain rfl := List.eq_nil_of_length_eq_zero (l := rest) (by omega)
    rwa [hdrop, List.append_nil]
  · intro h
    refine ⟨0, key.length, Nat.zero_le _, 0, ⟨rfl, rfl⟩, key.length, ?_, rfl,
      holdsAt_textEnd_iff.2 (Nat.le_refl _)⟩
    refine (describes_items key items 0 key.length).2 ⟨key, [], ?_, ?_, h⟩
    · rw [List.drop_zero, List.append_nil]
    · rw [Nat.zero_add]

/-- The regular expression of a glob is refused only if it would grow too large, and it matches
the keys that the glob stands for and no others. -/
theorem regexText_language {text : List Char} {items : List Item}
    (h : ofText text = .ok items) :
    ∃ r, Regex.ofText (regexText items) =
        (if r.isSmallEnough then .ok r else .error .tooLarge) ∧
      ∀ key, r.isMatch key = true ↔ Language text key := by
  have hspells := ofText_eq_ok_iff.1 h
  refine ⟨regex items, Regex.ofText_glob hspells.wellFormed, fun key => ?_⟩
  rw [isMatch_regex_iff, language_iff hspells]

/-- A class that would be an intersection if its members were not quoted. -/
theorem regexText_language_ampersands :
    ∃ items r, ofText "[^a&&]\\*".toList = .ok items ∧
      Regex.ofText (regexText items) = (if r.isSmallEnough then .ok r else .error .tooLarge) ∧
      r.isMatch "\n*".toList = true ∧ r.isMatch "&*".toList = false := by
  have hspells : Spells "[^a&&]\\*".toList
      [.oneOf true [.single 'a', .single '&', .single '&'], .literal '*'] := by
    have hand : ∀ rest, ClassChar ('&' :: rest) '&' rest :=
      fun rest => .plain (by decide) (by decide) (by decide)
    refine .cons (.noneOf (.cons (.single (.plain ?_ ?_ ?_)) (.cons (.single (hand _))
      (.last (.single (hand _)))))) (.cons .escaped .nil)
    all_goals decide
  have h := ofText_eq_ok_iff.2 hspells
  obtain ⟨r, hr, hmatch⟩ := regexText_language h
  refine ⟨_, r, h, hr, ?_, ?_⟩
  · rw [hmatch, language_iff hspells]
    refine ⟨['\n'], ['*'], rfl, ⟨'\n', rfl, ?_⟩, ['*'], [], rfl, rfl, rfl⟩
    simp [classAccepts, Member.covers]
  · rw [← Bool.not_eq_true, hmatch, language_iff hspells]
    rintro ⟨_, s₂, hkey, ⟨c, rfl, hc⟩, -⟩
    obtain rfl : '&' = c := (List.cons.inj hkey).1
    exact hc ⟨.single '&', by simp, rfl⟩

end Glob

end ExpiringCache
