/-!
# Reports

What a cache tells its observer: how long an operation took, how it ended, how long a lock was
waited for, and how large the cache is.
-/

namespace ExpiringCache

/-- The operations that are measured. -/
inductive Operation where
  | get | set | del | expireKey | reset | wildcard | regex | sizeCalculation | evict
  deriving DecidableEq, Repr

namespace Operation

/-- The name under which an operation is reported. -/
def label : Operation → String
  | get => "get"
  | set => "set"
  | del => "del"
  | expireKey => "expire_key"
  | reset => "reset"
  | wildcard => "wildcard"
  | regex => "regex"
  | sizeCalculation => "size_calculation"
  | evict => "evict"

/-- All operations, in the order in which they are listed. -/
def all : List Operation :=
  [get, set, del, expireKey, reset, wildcard, regex, sizeCalculation, evict]

/-- The place of an operation in `all`. -/
def index : Operation → Fin 9
  | get => 0
  | set => 1
  | del => 2
  | expireKey => 3
  | reset => 4
  | wildcard => 5
  | regex => 6
  | sizeCalculation => 7
  | evict => 8

theorem index_inj {a b : Operation} : a.index = b.index ↔ a = b := by
  cases a <;> cases b <;> decide

theorem getElem?_all_index (op : Operation) : all[(op.index : Nat)]? = some op := by
  cases op <;> rfl

theorem exists_index_eq (i : Fin 9) : ∃ op, index op = i :=
  ⟨all.get (i.cast rfl), by revert i; decide⟩

end Operation

/-- How a lock is held: shared by readers, or by one writer alone. -/
inductive LockMode where
  | read | write
  deriving DecidableEq, Repr

namespace LockMode

/-- The name under which a lock mode is reported. -/
def label : LockMode → String
  | read => "read"
  | write => "write"

/-- Both modes, in the order in which they are listed. -/
def all : List LockMode := [read, write]

end LockMode

/-- One thing told to an observer. Lengths of time are in nanoseconds. -/
inductive Report where
  | lockWait (mode : LockMode) (nanos : Nat)
  | elapsed (op : Operation) (nanos : Nat)
  | outcome (op : Operation) (success : Bool)
  | size (items bytes : Nat)
  deriving DecidableEq, Repr

end ExpiringCache
