import ExpiringCache.Proofs.ByteOrder
import ExpiringCache.Proofs.Consistent

/-!
# The walk over a prefix

Keys that start with a text are not below it, and of two keys that are not below it the smaller
starts with it if the larger does (`hasPrefix_of_lt`). So on sorted keys both tests of the walk
fail from some point on and not before, and the walk finds what a test of every key finds
(`withPrefix_eq_filter`). A search is then one filter over the sorted index, whatever the matcher
(`search_eq_filter`), and in a consistent keyspace it gives exactly the live keys that are
accepted (`mem_search_iff`), in the order of their bytes (`search_is_exact`).
-/

namespace ExpiringCache

section Sorted

variable {α : Type} {p : α → Bool} {l : List α}

/-- A test that holds before every place where it holds is passed by a front part of a list. -/
theorem takeWhile_eq_filter (h : l.Pairwise fun x y => p y = true → p x = true) :
    l.takeWhile p = l.filter p := by
  induction l with
  | nil => rfl
  | cons x l ih =>
    obtain ⟨hx, hl⟩ := List.pairwise_cons.1 h
    cases hp : p x with
    | true => rw [List.takeWhile_cons_of_pos hp, List.filter_cons_of_pos hp, ih hl]
    | false =>
      rw [List.takeWhile_cons_of_neg (by simp [hp]), eq_comm, List.filter_eq_nil_iff]
      intro y hy hpy
      rcases List.mem_cons.1 hy with rfl | hy
      · simp [hp] at hpy
      · have := hx y hy hpy
        simp [hp] at this

theorem dropWhile_eq_filter (h : l.Pairwise fun x y => p y = true → p x = true) :
    l.dropWhile p = l.filter (! p ·) := by
  induction l with
  | nil => rfl
  | cons x l ih =>
    obtain ⟨hx, hl⟩ := List.pairwise_cons.1 h
    cases hp : p x with
    | true =>
      rw [List.dropWhile_cons_of_pos hp, List.filter_cons_of_neg (by simp [hp]), ih hl]
    | false =>
      rw [List.dropWhile_cons_of_neg (by simp [hp]), eq_comm, List.filter_eq_self]
      intro y hy
      rcases List.mem_cons.1 hy with rfl | hy
      · simp [hp]
      · cases hpy : p y with
        | false => rfl
        | true =>
          have := hx y hy hpy
          simp [hp] at this

end Sorted

section Prefix

theorem not_lt_of_isPrefixOf :
    ∀ {start key : List Char}, start.isPrefixOf key = true → ¬ key < start
  | [], key, _ => List.not_lt_nil key
  | c :: start, [], h => by simp at h
  | c :: start, d :: key, h => by
    simp only [List.isPrefixOf_cons_cons, Bool.and_eq_true, beq_iff_eq] at h
    obtain ⟨rfl, h⟩ := h
    rw [List.cons_lt_cons_iff]
    rintro (hlt | ⟨-, hlt⟩)
    · exact Char.lt_irrefl _ hlt
    · exact not_lt_of_isPrefixOf h hlt

/-- Between a text and a key that starts with it there are only keys that start with it. -/
theorem isPrefixOf_of_lt :
    ∀ {start a b : List Char}, ¬ a < start → a < b → start.isPrefixOf b = true →
      start.isPrefixOf a = true
  | [], a, _, _, _, _ => by simp
  | c :: start, [], b, ha, _, _ => absurd (List.nil_lt_cons c start) ha
  | c :: start, d :: a, [], _, hab, _ => absurd hab (List.not_lt_nil _)
  | c :: start, d :: a, e :: b, ha, hab, hb => by
    simp only [List.isPrefixOf_cons_cons, Bool.and_eq_true, beq_iff_eq] at hb ⊢
    obtain ⟨rfl, hb⟩ := hb
    rw [List.cons_lt_cons_iff] at ha hab
    rcases hab with hlt | ⟨rfl, hab⟩
    · exact absurd (.inl hlt) ha
    · exact ⟨rfl, isPrefixOf_of_lt (fun h => ha (.inr ⟨rfl, h⟩)) hab hb⟩

theorem not_lt_of_hasPrefix {key start : String} (h : hasPrefix key start = true) :
    ¬ key < start := by
  rw [String.lt_iff]
  exact not_lt_of_isPrefixOf h

theorem hasPrefix_of_lt {start a b : String} (ha : ¬ a < start) (hab : a < b)
    (hb : hasPrefix b start = true) : hasPrefix a start = true := by
  rw [String.lt_iff] at ha hab
  exact isPrefixOf_of_lt ha hab hb

theorem hasPrefix_eq_true_iff {key start : String} :
    hasPrefix key start = true ↔ ∃ rest, key = start ++ rest := by
  rw [hasPrefix, List.isPrefixOf_iff_prefix]
  constructor
  · rintro ⟨rest, hrest⟩
    refine ⟨String.ofList rest, String.toList_injective ?_⟩
    rw [String.toList_append, String.toList_ofList, hrest]
  · rintro ⟨rest, rfl⟩
    rw [String.toList_append]
    exact List.prefix_append ..

theorem KeyIndex.withPrefix_eq_filter (index : KeyIndex) (start : String) :
    index.withPrefix start = index.keys.filter (hasPrefix · start) := by
  have hbelow : index.keys.Pairwise fun a b =>
      decide (b < start) = true → decide (a < start) = true := by
    refine index.sorted.imp fun {a b} hab hb => ?_
    simp only [decide_eq_true_eq] at hb ⊢
    exact String.lt_trans hab hb
  unfold withPrefix
  rw [dropWhile_eq_filter hbelow, takeWhile_eq_filter, List.filter_filter]
  · refine List.filter_congr fun key _ => ?_
    cases h : hasPrefix key start with
    | false => rfl
    | true => simp [not_lt_of_hasPrefix h]
  · refine List.Pairwise.imp_of_mem ?_ (index.sorted.filter _)
    intro a b ha _ hab hb
    have hlt : ¬ a < start := by simpa using (List.mem_filter.1 ha).2
    exact hasPrefix_of_lt hlt hab hb

end Prefix

namespace Keyspace

variable {ks : Keyspace} {m : Matcher} {now : Instant} {key : String}

theorem search_eq_filter (ks : Keyspace) (m : Matcher) (now : Instant) :
    ks.search m now = ks.index.keys.filter fun key => m.accepts key && ks.isLive now key := by
  have hc : ks.candidates m = ks.index.keys.filter m.accepts := by
    cases m with
    | startsWith start => exact ks.index.withPrefix_eq_filter start
    | pattern _ _ => rfl
  rw [search, hc, List.filter_filter]
  exact List.filter_congr fun key _ => Bool.and_comm ..

theorem sorted_search (ks : Keyspace) (m : Matcher) (now : Instant) :
    (ks.search m now).Pairwise (· < ·) := by
  rw [search_eq_filter]
  exact ks.index.sorted.filter _

theorem isLive_eq_true_iff :
    ks.isLive now key = true ↔ ∃ e, ks.lookup key = some e ∧ e.isExpiredAt now = false := by
  unfold isLive
  split <;> simp_all

theorem Consistent.mem_search_iff (h : Consistent ks) :
    key ∈ ks.search m now ↔
      m.accepts key = true ∧ ∃ e, ks.lookup key = some e ∧ e.isExpiredAt now = false := by
  rw [search_eq_filter, List.mem_filter, Bool.and_eq_true, isLive_eq_true_iff,
    ← KeyIndex.mem_iff, h.mem_index_iff]
  constructor
  · rintro ⟨-, h⟩
    exact h
  · rintro ⟨hm, e, he, hlive⟩
    exact ⟨⟨e, he⟩, hm, e, he, hlive⟩

/-- A search of a keyspace that operations produced gives each key once, in strictly increasing
order of the UTF-8 bytes, and just the keys that are stored, have not expired and are accepted;
for a prefix these are the keys that continue it, though the walk ends at the first that does
not. -/
theorem search_is_exact {ks : Keyspace} (h : Reachable ks) (m : Matcher) (now : Instant) :
    (ks.search m now).Nodup ∧
    (ks.search m now).Pairwise (fun a b => a.toUTF8.data.toList < b.toUTF8.data.toList) ∧
    (∀ key, key ∈ ks.search m now ↔ ∃ e, ks.lookup key = some e ∧
      (∀ t, e.expiresAt = some t → now < t) ∧ m.accepts key = true) ∧
    ∀ start key, key ∈ ks.search (.startsWith start) now ↔ ∃ e, ks.lookup key = some e ∧
      (∀ t, e.expiresAt = some t → now < t) ∧ ∃ rest, key = start ++ rest := by
  have hmem : ∀ (m : Matcher) key, key ∈ ks.search m now ↔ ∃ e, ks.lookup key = some e ∧
      (∀ t, e.expiresAt = some t → now < t) ∧ m.accepts key = true := by
    intro m key
    rw [h.consistent.mem_search_iff]
    constructor
    · rintro ⟨hm, e, he, hlive⟩
      exact ⟨e, he, Entry.isLiveAt_iff.2 hlive, hm⟩
    · rintro ⟨e, he, hlive, hm⟩
      exact ⟨hm, e, he, Entry.isLiveAt_iff.1 hlive⟩
  refine ⟨nodup_of_sorted (sorted_search ks m now), (sorted_search ks m now).imp
    lt_iff_toUTF8_lt.1, hmem m, fun start key => ?_⟩
  rw [hmem]
  exact exists_congr fun e => and_congr_right fun _ => and_congr_right fun _ =>
    hasPrefix_eq_true_iff

/-- Keys around a prefix: one before it, the prefix itself, one that has expired, characters of
three and of four bytes, and a key past the last. -/
theorem search_is_exact_around_prefix :
    let ks := (((((Keyspace.empty.insert "a" "" none).insert "ab😀" "" (some (.early 9))).insert
      "ab!" "" (some (.early 5))).insert "ab～" "" none).insert "b" "" none).insert "ab" "" none
    Reachable ks ∧ "ab" ∈ ks.search (.startsWith "ab") (.early 5) ∧
      "ab!" ∉ ks.search (.startsWith "ab") (.early 5) ∧
      ks.search (.startsWith "ab") (.early 5) = ["ab", "ab～", "ab😀"] := by
  intro ks
  have hreach : Reachable ks := (((((Reachable.empty.insert "a" "" none).insert "ab😀" ""
    (some (.early 9))).insert "ab!" "" (some (.early 5))).insert "ab～" "" none).insert "b" ""
    none).insert "ab" "" none
  obtain ⟨-, -, hmem, hstart⟩ := search_is_exact hreach (.startsWith "ab") (.early 5)
  refine ⟨hreach, (hstart "ab" "ab").2 ⟨⟨"", none⟩, by decide +kernel, by simp, "", rfl⟩, ?_,
    by decide +kernel⟩
  rw [hmem]
  rintro ⟨e, he, hlive, -⟩
  have hexpired : ks.lookup "ab!" = some ⟨"", some (.early 5)⟩ := by decide +kernel
  rw [hexpired, Option.some.injEq] at he
  subst he
  exact absurd (hlive _ rfl) (by decide)

end Keyspace

end ExpiringCache
