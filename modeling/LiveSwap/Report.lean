import LiveSwap.Failure
/-!
The outcome of refreshing one handle, and the report of a whole refresh cycle.
-/

namespace LiveSwap

/-- What refreshing one handle did. -/
inductive Outcome where
  /-- A fresh instance was built and installed. -/
  | swapped
  /-- No replacement was built; the handle keeps its instance. -/
  | failed (error : RebuildError)
  /-- The handle was never registered, so there is nothing to rebuild from. -/
  | unregistered
  deriving DecidableEq, Repr

/-- One refresh cycle. -/
structure Report where
  /-- The capability applied to every handle of the cycle. -/
  capability : Capability
  /-- The handles that serve a fresh instance. -/
  refreshed : List String
  /-- The handles that serve their previous instance, and why. -/
  failed : List (String × RebuildError)
  /-- The handles that were never registered. -/
  skipped : List String
  deriving DecidableEq, Repr

namespace Report

def start (capability : Capability) : Report := ⟨capability, [], [], []⟩

/-- Files a handle's outcome under its list. -/
def record (r : Report) (name : String) : Outcome → Report
  | .swapped => { r with refreshed := r.refreshed ++ [name] }
  | .failed error => { r with failed := r.failed ++ [(name, error)] }
  | .unregistered => { r with skipped := r.skipped ++ [name] }

/-- Whether no rebuild failed. -/
def isClean (r : Report) : Bool := r.failed.isEmpty

/-- The error recorded for a name. -/
def failure? (r : Report) (name : String) : Option RebuildError := r.failed.lookup name

end Report

end LiveSwap
