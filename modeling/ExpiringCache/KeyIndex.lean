/-!
# The index of keys

The stored keys in increasing order of their characters, each once. The keys with a given prefix
stand next to each other, so they are found by walking from the first key that is not below the
prefix to the first one that does not start with it.
-/

namespace ExpiringCache

/-- Whether a key starts with a text, character by character. -/
def hasPrefix (key start : String) : Bool := start.toList.isPrefixOf key.toList

/-- A set of keys in strictly increasing order. -/
structure KeyIndex where
  keys : List String
  sorted : keys.Pairwise (· < ·)

namespace KeyIndex

@[ext]
protected theorem ext {a b : KeyIndex} (h : a.keys = b.keys) : a = b := by
  cases a; cases b; cases h; rfl

instance : DecidableEq KeyIndex := fun a b =>
  if h : a.keys = b.keys then isTrue (KeyIndex.ext h) else isFalse fun e => h (e ▸ rfl)

instance : Membership String KeyIndex := ⟨fun index key => key ∈ index.keys⟩

instance (key : String) (index : KeyIndex) : Decidable (key ∈ index) :=
  inferInstanceAs (Decidable (key ∈ index.keys))

theorem mem_iff {key : String} {index : KeyIndex} : key ∈ index ↔ key ∈ index.keys := Iff.rfl

/-- The index without keys. -/
def empty : KeyIndex := ⟨[], .nil⟩

/-- How many keys there are. -/
def size (index : KeyIndex) : Nat := index.keys.length

/-- Whether there are no keys. -/
def isEmpty (index : KeyIndex) : Bool := index.keys.isEmpty

/-- A key put at its place among sorted ones, unless it is there. -/
def insertKey (key : String) : List String → List String
  | [] => [key]
  | k :: rest =>
    if key < k then key :: k :: rest
    else if key = k then k :: rest
    else k :: insertKey key rest

theorem mem_insertKey {key k : String} {l : List String} :
    k ∈ insertKey key l ↔ k = key ∨ k ∈ l := by
  induction l with
  | nil => simp [insertKey]
  | cons j l ih =>
    unfold insertKey
    split
    · simp
    · split
      · rename_i h
        subst h
        simp
      · simp only [List.mem_cons, ih]
        constructor
        · rintro (h | h | h) <;> simp [h]
        · rintro (h | h | h) <;> simp [h]

theorem sorted_insertKey (key : String) {l : List String} (h : l.Pairwise (· < ·)) :
    (insertKey key l).Pairwise (· < ·) := by
  induction l with
  | nil => simp [insertKey]
  | cons k l ih =>
    obtain ⟨hk, hl⟩ := List.pairwise_cons.1 h
    unfold insertKey
    split
    · rename_i hlt
      refine List.pairwise_cons.2 ⟨fun j hj => ?_, h⟩
      rcases List.mem_cons.1 hj with rfl | hj
      · exact hlt
      · exact String.lt_trans hlt (hk j hj)
    · split
      · exact h
      · rename_i hlt hne
        refine List.pairwise_cons.2 ⟨fun j hj => ?_, ih hl⟩
        rcases mem_insertKey.1 hj with rfl | hj
        · exact Std.lt_of_le_of_ne (String.not_lt.1 hlt) (Ne.symm hne)
        · exact hk j hj

/-- The index with a key more. -/
def insert (index : KeyIndex) (key : String) : KeyIndex :=
  ⟨insertKey key index.keys, sorted_insertKey key index.sorted⟩

/-- The index without a key. -/
def erase (index : KeyIndex) (key : String) : KeyIndex :=
  ⟨index.keys.filter (· ≠ key), index.sorted.sublist List.filter_sublist⟩

@[simp]
theorem mem_insert {index : KeyIndex} {key k : String} :
    k ∈ index.insert key ↔ k = key ∨ k ∈ index := mem_insertKey

@[simp]
theorem mem_erase {index : KeyIndex} {key k : String} :
    k ∈ index.erase key ↔ k ∈ index ∧ k ≠ key := by
  simp [mem_iff, erase]

/-- The keys that start with a text, found by walking the part of the index where they stand. -/
def withPrefix (index : KeyIndex) (start : String) : List String :=
  (index.keys.dropWhile (· < start)).takeWhile (hasPrefix · start)

end KeyIndex

end ExpiringCache
