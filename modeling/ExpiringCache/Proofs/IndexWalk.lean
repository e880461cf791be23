import ExpiringCache.Proofs.PrefixWalk
import Mathlib.Tactic.Tauto

/-!
# A walk over the index

An index holds the keys that were inserted and not taken out since (`mem_edited_iff`), in the
order of their bytes. A text starts with another if its bytes do, since different characters
differ at a byte that both have (`isPrefixOf_toUTF8`). So the walk from the first key that is not
below a prefix to the first one that does not start with it passes over no key that starts with it
(`prefix_walk_is_complete`).
-/

namespace ExpiringCache

section Bytes

theorem eq_of_utf8EncodeChar_append {c d : Char} {s t : List UInt8}
    (h : String.utf8EncodeChar c ++ s = String.utf8EncodeChar d ++ t) : c = d := by
  have hne : ∀ {c d : Char} {s t : List UInt8},
      String.utf8EncodeChar c ++ s = String.utf8EncodeChar d ++ t → ¬ c < d := by
    intro c d s t h hlt
    have hbytes := utf8EncodeChar_append_lt hlt s t
    rw [h] at hbytes
    exact List.lt_irrefl _ hbytes
  exact Char.le_antisymm (Char.not_lt.1 (hne h.symm)) (Char.not_lt.1 (hne h))

theorem flatMap_utf8EncodeChar_prefix_iff : ∀ {a b : List Char},
    a.flatMap String.utf8EncodeChar <+: b.flatMap String.utf8EncodeChar ↔ a <+: b
  | [], b => by simp
  | c :: a, [] => by simp
  | c :: a, d :: b => by
    rw [List.flatMap_cons, List.flatMap_cons, List.cons_prefix_cons]
    constructor
    · rintro ⟨rest, hrest⟩
      rw [List.append_assoc] at hrest
      obtain rfl := eq_of_utf8EncodeChar_append hrest
      exact ⟨rfl, flatMap_utf8EncodeChar_prefix_iff.1 ⟨rest, List.append_cancel_left hrest⟩⟩
    · rintro ⟨rfl, h⟩
      exact (List.prefix_append_right_inj _).2 (flatMap_utf8EncodeChar_prefix_iff.2 h)

theorem isPrefixOf_toUTF8 (key start : String) :
    start.toUTF8.data.toList.isPrefixOf key.toUTF8.data.toList = hasPrefix key start := by
  rw [Bool.eq_iff_iff, hasPrefix, List.isPrefixOf_iff_prefix, List.isPrefixOf_iff_prefix,
    toList_data_toUTF8, toList_data_toUTF8, flatMap_utf8EncodeChar_prefix_iff]

end Bytes

namespace KeyIndex

inductive Edit where
  | insert (key : String)
  | erase (key : String)
  | clear
  deriving DecidableEq

/-- One edit of an index. -/
def edit (index : KeyIndex) : Edit → KeyIndex
  | .insert key => index.insert key
  | .erase key => index.erase key
  | .clear => empty

/-- An index after some edits. -/
def edited (index : KeyIndex) (edits : List Edit) : KeyIndex := edits.foldl edit index

/-- None of some edits takes a key out. -/
def Spares (edits : List Edit) (key : String) : Prop := .erase key ∉ edits ∧ .clear ∉ edits

/-- A key was inserted, and no edit since then took it out. -/
def Kept (edits : List Edit) (key : String) : Prop :=
  ∃ before after, edits = before ++ .insert key :: after ∧ Spares after key

section Edits

variable {index : KeyIndex} {key : String} {e : Edit} {edits : List Edit}

theorem kept_cons_iff :
    Kept (e :: edits) key ↔ (e = .insert key ∧ Spares edits key) ∨ Kept edits key := by
  constructor
  · rintro ⟨before, after, heq, hafter⟩
    rcases before with _ | ⟨d, before⟩
    · cases heq
      exact .inl ⟨rfl, hafter⟩
    · cases heq
      exact .inr ⟨before, after, rfl, hafter⟩
  · rintro (⟨rfl, hedits⟩ | ⟨before, after, rfl, hafter⟩)
    · exact ⟨[], edits, rfl, hedits⟩
    · exact ⟨e :: before, after, rfl, hafter⟩

theorem spares_cons_iff :
    Spares (e :: edits) key ↔ (e ≠ .erase key ∧ e ≠ .clear) ∧ Spares edits key := by
  simp only [Spares, List.mem_cons, not_or, eq_comm (b := e)]
  tauto

theorem mem_edit_iff :
    key ∈ index.edit e ↔ e = .insert key ∨ key ∈ index ∧ e ≠ .erase key ∧ e ≠ .clear := by
  rcases e with k | k | _
  · simp [edit, eq_comm]
  · simp [edit, eq_comm]
  · simp [edit, mem_iff, empty]

/-- A key is in an index after some edits if they inserted it and then kept it, or if it was there
before and none of them took it out. -/
theorem mem_edited_iff : ∀ (edits : List Edit) (index : KeyIndex),
    key ∈ index.edited edits ↔ Kept edits key ∨ key ∈ index ∧ Spares edits key
  | [], index => by simp [edited, Kept, Spares]
  | e :: edits, index => by
    have ih := mem_edited_iff edits (index.edit e)
    rw [show index.edited (e :: edits) = (index.edit e).edited edits from rfl, ih, mem_edit_iff,
      kept_cons_iff, spares_cons_iff]
    tauto

theorem mem_edited_empty_iff : key ∈ (empty.edited edits).keys ↔ Kept edits key := by
  rw [← mem_iff, mem_edited_iff]
  simp [mem_iff, empty]

theorem sorted_toUTF8 (index : KeyIndex) :
    index.keys.Pairwise fun a b => a.toUTF8.data.toList < b.toUTF8.data.toList :=
  index.sorted.imp lt_iff_toUTF8_lt.1

end Edits

end KeyIndex

/-- After any edits of an index the walk over a prefix finds just the keys that are kept and
continue it, each once and in strictly increasing order of their bytes, which is what a test of
the bytes of every key finds. -/
theorem prefix_walk_is_complete (edits : List KeyIndex.Edit) (start : String) :
    let index := KeyIndex.empty.edited edits
    (∀ key, key ∈ index.withPrefix start ↔
      KeyIndex.Kept edits key ∧ ∃ rest, key = start ++ rest) ∧
    (index.withPrefix start).Nodup ∧
    (index.withPrefix start).Pairwise (fun a b => a.toUTF8.data.toList < b.toUTF8.data.toList) ∧
    index.withPrefix start = index.keys.filter fun key =>
      start.toUTF8.data.toList.isPrefixOf key.toUTF8.data.toList := by
  intro index
  have hfilter := index.withPrefix_eq_filter start
  refine ⟨fun key => ?_, ?_, ?_, ?_⟩
  · rw [hfilter, List.mem_filter, KeyIndex.mem_edited_empty_iff, hasPrefix_eq_true_iff]
  · rw [hfilter]
    exact (nodup_of_sorted index.sorted).filter _
  · rw [hfilter]
    exact index.sorted_toUTF8.filter _
  · rw [hfilter]
    exact List.filter_congr fun key _ => (isPrefixOf_toUTF8 key start).symm

end ExpiringCache
