/-!
# Maps from keys

A finite map from keys to values, as a list of pairs in strictly increasing order of the keys,
so that two maps with the same contents are equal. `get?_insert` and `get?_erase` say what each
operation does to a look-up.
-/

namespace ExpiringCache

/-- A finite map from keys. -/
structure KeyMap (α : Type) where
  entries : List (String × α)
  sorted : entries.Pairwise (fun a b => a.1 < b.1)

namespace KeyMap

variable {α : Type}

@[ext]
protected theorem ext {a b : KeyMap α} (h : a.entries = b.entries) : a = b := by
  cases a; cases b; cases h; rfl

instance [DecidableEq α] : DecidableEq (KeyMap α) := fun a b =>
  if h : a.entries = b.entries then isTrue (KeyMap.ext h) else isFalse fun e => h (e ▸ rfl)

/-- The map without entries. -/
def empty : KeyMap α := ⟨[], .nil⟩

/-- How many keys have a value. -/
def size (m : KeyMap α) : Nat := m.entries.length

/-- Whether no key has a value. -/
def isEmpty (m : KeyMap α) : Bool := m.entries.isEmpty

/-- The keys in increasing order. -/
def keys (m : KeyMap α) : List String := m.entries.map (·.1)

/-- The value of a key. -/
def get? (m : KeyMap α) (key : String) : Option α :=
  (m.entries.find? (·.1 = key)).map (·.2)

/-- A pair put at its place among sorted ones, in the stead of a pair with its key. -/
def insertPair (key : String) (value : α) : List (String × α) → List (String × α)
  | [] => [(key, value)]
  | p :: rest =>
    if key < p.1 then (key, value) :: p :: rest
    else if key = p.1 then (key, value) :: rest
    else p :: insertPair key value rest

theorem mem_insertPair_fst {key : String} {value : α} {p : String × α} {l : List (String × α)}
    (h : p ∈ insertPair key value l) : p.1 = key ∨ p ∈ l := by
  induction l with
  | nil => simp_all [insertPair]
  | cons q l ih =>
    unfold insertPair at h
    split at h
    · rcases List.mem_cons.1 h with rfl | h
      · exact .inl rfl
      · exact .inr h
    · split at h
      · rcases List.mem_cons.1 h with rfl | h
        · exact .inl rfl
        · exact .inr (List.mem_cons_of_mem _ h)
      · rcases List.mem_cons.1 h with rfl | h
        · exact .inr (List.mem_cons_self ..)
        · exact (ih h).imp id (List.mem_cons_of_mem _)

theorem sorted_insertPair (key : String) (value : α) {l : List (String × α)}
    (h : l.Pairwise (fun a b => a.1 < b.1)) :
    (insertPair key value l).Pairwise (fun a b => a.1 < b.1) := by
  induction l with
  | nil => simp [insertPair]
  | cons p l ih =>
    obtain ⟨hp, hl⟩ := List.pairwise_cons.1 h
    unfold insertPair
    split
    · rename_i hlt
      refine List.pairwise_cons.2 ⟨fun q hq => ?_, h⟩
      rcases List.mem_cons.1 hq with rfl | hq
      · exact hlt
      · exact String.lt_trans hlt (hp q hq)
    · split
      · rename_i heq
        exact List.pairwise_cons.2 ⟨fun q hq => heq ▸ hp q hq, hl⟩
      · rename_i hlt hne
        refine List.pairwise_cons.2 ⟨fun q hq => ?_, ih hl⟩
        rcases mem_insertPair_fst hq with hk | hq
        · exact hk ▸ Std.lt_of_le_of_ne (String.not_lt.1 hlt) (Ne.symm hne)
        · exact hp q hq

/-- The map with a key's value written, or overwritten. -/
def insert (m : KeyMap α) (key : String) (value : α) : KeyMap α :=
  ⟨insertPair key value m.entries, sorted_insertPair key value m.sorted⟩

/-- The map without a key. -/
def erase (m : KeyMap α) (key : String) : KeyMap α :=
  ⟨m.entries.filter (·.1 ≠ key), m.sorted.sublist List.filter_sublist⟩

theorem find?_insertPair (key k : String) (value : α) (l : List (String × α)) :
    (insertPair key value l).find? (·.1 = k) =
      if key = k then some (key, value) else l.find? (·.1 = k) := by
  induction l with
  | nil => by_cases h : key = k <;> simp [insertPair, h]
  | cons p l ih =>
    unfold insertPair
    split
    · by_cases h : key = k <;> simp [h]
    · split
      · rename_i heq
        by_cases h : key = k <;> simp_all
      · rename_i hne
        by_cases hp : p.1 = k
        · subst hp
          simp [hne]
        · simp [hp, ih]

theorem get?_insert (m : KeyMap α) (key k : String) (value : α) :
    (m.insert key value).get? k = if key = k then some value else m.get? k := by
  simp only [get?, insert, find?_insertPair]
  split <;> rfl

theorem get?_erase (m : KeyMap α) (key k : String) :
    (m.erase key).get? k = if key = k then none else m.get? k := by
  simp only [get?, erase, List.find?_filter]
  split
  · rename_i h
    subst h
    simp
  · rename_i h
    congr 2
    funext p
    by_cases hp : p.1 = k <;> simp [hp]
    exact Ne.symm h

end KeyMap

end ExpiringCache
