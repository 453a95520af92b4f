/-!
Log events: a level, a fixed message and named fields, in the order they were written.
-/

namespace LiveSwap

inductive Level where
  | trace | debug | info | warn | error
  deriving DecidableEq, Repr

/-- The level's name in a log line. -/
def Level.label : Level → String
  | .trace => "TRACE"
  | .debug => "DEBUG"
  | .info => "INFO"
  | .warn => "WARN"
  | .error => "ERROR"

/-- The level's name as a filter directive. -/
def Level.directive : Level → String
  | .trace => "trace"
  | .debug => "debug"
  | .info => "info"
  | .warn => "warn"
  | .error => "error"

inductive FieldValue where
  | text (s : String)
  | number (n : Nat)
  | flag (b : Bool)
  deriving DecidableEq, Repr

structure Event where
  level : Level
  message : String
  fields : List (String × FieldValue)
  deriving DecidableEq, Repr

end LiveSwap
