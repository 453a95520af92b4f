import LiveSwap.Proxy
/-!
Resources that may forward themselves.

A handle may be given an instance that is a proxy of another handle. Following such a chain, from proxy to
handle to installed instance, passes the barrier of every handle on the way.
-/

namespace LiveSwap

/-- An instance of its own, of type `κ`, or a proxy of a handle. -/
inductive Resource (κ : Type) where
  | plain (k : κ)
  | proxy (p : Proxy)
  deriving DecidableEq, Repr

namespace Act

variable {κ σ : Type}

/-- Follows at most so many proxies. -/
def reachWithin : Nat → Resource κ → Act (Resource κ) σ κ
  | _, .plain k => pure k
  | 0, .proxy _ => throw .endless
  | n + 1, .proxy p => do reachWithin n (← snapshot p)

/-- The plain instance behind a resource. A chain that visits no handle twice has at most as many proxies as
there are handles. -/
def reach (r : Resource κ) : Act (Resource κ) σ κ := do reachWithin (← get).handles.length r

end Act

end LiveSwap
