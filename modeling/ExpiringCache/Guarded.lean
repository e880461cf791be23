import ExpiringCache.Telemetry.Report

/-!
# Guarded access

A value behind a lock that reports each time it is taken. `Guarded α σ` is what a call under the
lock gives: its answer, the value it leaves behind and the reports made on the way, in order. A
call finds the lock free, so it is reported to wait no time.
-/

namespace ExpiringCache

/-- An answer, the guarded value after it, and the reports made. -/
structure Guarded (α σ : Type) where
  answer : α
  state : σ
  reports : List Report

namespace Guarded

variable {α β σ τ : Type}

/-- An answer that needs no lock. -/
protected def pure (answer : α) (state : σ) : Guarded α σ := ⟨answer, state, []⟩

/-- An answer read off a value under the shared lock. -/
def read (f : σ → α) (state : σ) : Guarded α σ := ⟨f state, state, [.lockWait .read 0]⟩

/-- An answer and a new value made under the exclusive lock. -/
def write (change : α × σ) : Guarded α σ := ⟨change.1, change.2, [.lockWait .write 0]⟩

/-- The same with more reports after the others. -/
def report (g : Guarded α σ) (reports : List Report) : Guarded α σ :=
  { g with reports := g.reports ++ reports }

/-- The same with the answer changed. -/
def map (f : α → β) (g : Guarded α σ) : Guarded β σ := ⟨f g.answer, g.state, g.reports⟩

/-- A further call after this one, made on the value it leaves. -/
def andThen (g : Guarded α σ) (next : α → σ → Guarded β τ) : Guarded β τ :=
  let h := next g.answer g.state
  ⟨h.answer, h.state, g.reports ++ h.reports⟩

end Guarded

end ExpiringCache
