namespace CriteriaSearch

structure Latch where
  fired : Bool
  deriving DecidableEq, Repr

namespace Latch

def fresh : Latch := ⟨false⟩

/-- Fires the latch; true for the first attempt. -/
def tryFire (l : Latch) : Bool × Latch := (!l.fired, ⟨true⟩)

def runOnce {m : Type → Type} [Monad m] {α : Type} (l : Latch) (action : m α) :
    m (Option α × Latch) :=
  if l.fired then pure (none, l)
  else do
    let a ← action
    return (some a, ⟨true⟩)

end Latch

end CriteriaSearch
