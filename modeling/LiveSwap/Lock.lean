import LiveSwap.Host
/-!
The reload lock of a handle.

A refresh holds it while it rebuilds. Everyone else only passes it: the barrier takes the lock and drops it
straight away. A single thread that meets a held lock waits for ever.
-/

namespace LiveSwap.Act

variable {ι σ : Type}

/-- Waits until no rebuild of the handle is under way. -/
def barrier (id : HandleId) : Act ι σ Unit := do
  if ((← get).handle id).reloading then throw (.waiting (.reloadLock id))

/-- Takes the reload lock. -/
def acquire (id : HandleId) : Act ι σ Unit := do
  barrier id
  modify (·.updateHandle id fun h => { h with reloading := true })

/-- Gives the reload lock back. -/
def release (id : HandleId) : Act ι σ Unit :=
  modify (·.updateHandle id fun h => { h with reloading := false })

end LiveSwap.Act
