import LiveSwap.Version
/-!
Which generation of the library's construction API is available, decided by its version.
-/

namespace LiveSwap

inductive Capability where
  /-- Configuration objects, and an internal registry that needs cleaning up. -/
  | legacy
  /-- A factory and builders. -/
  | modern
  deriving DecidableEq, Repr

namespace Capability

def label : Capability → String
  | .legacy => "legacy"
  | .modern => "modern"

/-- The constructor's name, as diagnostics show it. -/
def tag : Capability → String
  | .legacy => "Legacy"
  | .modern => "Modern"

/-- The modern API needs major ≥ 4 and minor ≥ 3, so 5.0 and 6.1 have the legacy one. -/
def ofVersion (v : LibraryVersion) : Capability :=
  if 4 ≤ v.major ∧ 3 ≤ v.minor then .modern else .legacy

/-- The capability of a reported version string; one that cannot be read counts as legacy. -/
def ofReport (raw : String) : Capability :=
  match LibraryVersion.parse raw with
  | .ok v => ofVersion v
  | .error _ => .legacy

end Capability

end LiveSwap
