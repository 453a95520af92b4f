import LiveSwap.Capability
/-!
What can go wrong when a resource is registered or rebuilt.
-/

namespace LiveSwap

/-- The library's own account of a failure. -/
abbrev Cause := String

/-- Why a handle refused an instance. -/
inductive RegisterError where
  /-- The handle already has an instance. -/
  | alreadyRegistered (name : String)
  /-- The parameters describe another resource than the handle. -/
  | nameMismatch (handle params : String)
  deriving DecidableEq, Repr

def RegisterError.message : RegisterError → String
  | .alreadyRegistered name => "resource '" ++ name ++ "' is already registered"
  | .nameMismatch handle params =>
    "construction parameters name '" ++ params ++ "' but the handle is '" ++ handle ++ "'"

/-- Why a rebuild produced no replacement. The handle keeps its instance either way. -/
inductive RebuildError where
  /-- The library failed to build. -/
  | construction (name : String) (capability : Capability) (cause : Cause)
  /-- The library panicked while building. -/
  | panicked (name : String) (text : String)
  deriving DecidableEq, Repr

namespace RebuildError

def message : RebuildError → String
  | .construction name capability cause =>
    "unable to build a fresh instance of '" ++ name ++ "' (" ++ capability.label ++ " strategy): " ++ cause
  | .panicked name text => "rebuild of '" ++ name ++ "' panicked: " ++ text

/-- The resource whose rebuild failed. -/
def resource : RebuildError → String
  | .construction name _ _ => name
  | .panicked name _ => name

def capability? : RebuildError → Option Capability
  | .construction _ capability _ => some capability
  | .panicked _ _ => none

def cause? : RebuildError → Option Cause
  | .construction _ _ cause => some cause
  | .panicked _ _ => none

end RebuildError

end LiveSwap
