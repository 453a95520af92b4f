import LiveSwap.Lock
import LiveSwap.Strategy
/-!
Refreshing one handle.

The reload lock is held until the outcome is settled. Whatever the strategy does, a panic included, either a
fresh instance is installed and counted, or the handle is left as it was.
-/

namespace LiveSwap

namespace Act

variable {ι σ : Type}

/-- Installs a fresh instance and reports the new generation. -/
def install (id : HandleId) (capability : Capability) (fresh : ι) : Act ι σ Unit := do
  modify (·.updateHandle id (·.swap fresh))
  let h := (← get).handle id
  log (.rebuilt h.name capability h.generation)

/-- Turns what the strategy did into the handle's outcome. -/
def settle (id : HandleId) (name : String) (capability : Capability) :
    Except Payload (Except RebuildError ι) → Act ι σ Outcome
  | .ok (.ok fresh) => do
    install id capability fresh
    pure .swapped
  | .ok (.error error) => fail error
  | .error payload => fail (.panicked name payload.message)
where
  fail (error : RebuildError) : Act ι σ Outcome := do
    log (.rebuildFailed name capability error)
    pure (.failed error)

/-- Rebuilds a handle's instance with a strategy. -/
def refreshWith (id : HandleId) (strategy : Strategy ι σ) : Act ι σ Outcome := do
  acquire id
  let h := (← get).handle id
  let outcome ← match h.installed with
    | none => do
      log (.unregisteredSkipped h.name)
      pure .unregistered
    | some i => do
      let rebuilt ← Effect.attempt (strategy.rebuild i.params i.current)
      settle id h.name strategy.capability rebuilt
  release id
  pure outcome

end Act

end LiveSwap
