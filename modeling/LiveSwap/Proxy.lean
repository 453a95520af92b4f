import LiveSwap.Lock
import LiveSwap.Registration
/-!
Reaching the installed instance.

Every call passes the handle's barrier first: it takes the reload lock and drops it straight away, so it
never reads an instance while that is being rebuilt. The call itself runs outside the lock, on the instance
it started with.
-/

namespace LiveSwap

namespace Host

variable {ι σ : Type}

/-- A proxy to a handle that was registered. -/
def proxy? (s : Host ι σ) (id : HandleId) : Option Proxy :=
  if (s.handle id).isRegistered then some ⟨id⟩ else none

end Host

namespace Act

variable {ι σ α : Type}

/-- The installed instance; a handle that was never registered has none, and nothing to wait for. -/
def current (id : HandleId) : Act ι σ (Option ι) := do
  match ((← get).handle id).installed with
  | none => pure none
  | some _ =>
    barrier id
    pure ((← get).handle id).current?

/-- The instance behind a proxy. -/
def snapshot (p : Proxy) : Act ι σ ι := do
  match ← current p.handle with
  | some installed => pure installed
  | none => Effect.panic "forwarding proxies are only issued for registered handles"

/-- Runs an operation against the instance installed when it starts. -/
def forward (p : Proxy) (operation : ι → Act ι σ α) : Act ι σ α := do
  operation (← snapshot p)

end Act

end LiveSwap
