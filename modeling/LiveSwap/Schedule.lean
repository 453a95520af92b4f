/-!
Schedules: names for the occasions on which plugins are called.
-/

namespace LiveSwap

/-- The identity of a schedule, given by the name of its marker type. -/
structure ScheduleId where
  typeName : String
  deriving DecidableEq, Repr

end LiveSwap
