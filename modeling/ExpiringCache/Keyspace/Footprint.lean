import ExpiringCache.Entry

/-!
# Footprints

How many entries there are and how many bytes their keys and values take. Below a threshold every
entry is measured; from the threshold on, one entry in a hundred is, and the sum is scaled up. The
entries may come in any order.
-/

namespace ExpiringCache

/-- A number of entries and their size. -/
structure Footprint where
  items : Nat
  bytes : Nat
  deriving DecidableEq, Repr

/-- Every how many entries one is measured when not all are. -/
def sampleStride : Nat := 100

/-- The first element of a list and every one that stands `stride` places after another. -/
def everyNth {α : Type} (stride : Nat) : List α → List α
  | [] => []
  | x :: rest => x :: everyNth stride (rest.drop (stride - 1))
termination_by l => l.length
decreasing_by simp only [List.length_drop, List.length_cons]; omega

/-- The bytes of some entries together. -/
def totalBytes (entries : List (String × Entry)) : Nat :=
  entries.foldl (fun bytes p => bytes + p.2.footprint p.1) 0

/-- The bytes of so many entries, estimated from a sample of them. An empty sample tells
nothing, and there is nothing to divide by. -/
def scaledBytes (sample : List (String × Entry)) (items : Nat) : Nat :=
  if sample.length = 0 then 0 else totalBytes sample * items / sample.length

/-- The footprint of some entries, measured exactly if they are fewer than the threshold. -/
def Footprint.estimate (threshold : Nat) (entries : List (String × Entry)) : Footprint :=
  let items := entries.length
  if items < threshold then
    ⟨items, totalBytes entries⟩
  else
    ⟨items, scaledBytes (everyNth sampleStride entries) items⟩

end ExpiringCache
