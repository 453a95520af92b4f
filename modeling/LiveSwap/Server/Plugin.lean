import LiveSwap.Halt
import LiveSwap.Schedule
import LiveSwap.Server.Release
/-!
Plugins: what they declare, and what they do when the server calls them.

The behaviour of a lifecycle method is a script: a tree of requests to the server, each followed by what
comes after its answer. A script need not end with the panic of a request: it can catch that and go on. `ω` is
the state outside the server that scripts read and change; `κ` and `β` are the kinds of published values and
their types.
-/

namespace LiveSwap

/-- The identity of a plugin type. -/
structure PluginId where
  typeName : String
  deriving DecidableEq, Repr

/-- What a plugin declares about itself. -/
structure PluginInfo where
  id : PluginId
  /-- The stable identifier that people read. -/
  label : String
  version : Release
  /-- The name used in diagnostics. -/
  name : String
  /-- The plugins that have to be built before this one. -/
  dependencies : List PluginId
  /-- Whether a second plugin of this type is an error. -/
  isUnique : Bool
  /-- The schedules on which it wants to be updated, one call per mention. -/
  schedules : List ScheduleId
  deriving DecidableEq, Repr

/-- The calls in a plugin's life. -/
inductive Phase where
  | build
  | ready
  | update (schedule : ScheduleId)
  | cleanup
  deriving DecidableEq, Repr

def Phase.label : Phase → String
  | .build => "build"
  | .ready => "ready"
  | .update _ => "update"
  | .cleanup => "cleanup"

mutual

/-- A plugin: its declarations, and a script for every call. -/
inductive Plugin (κ : Type) (β : κ → Type) (ω : Type) where
  | mk (info : PluginInfo) (build ready cleanup : Script κ β ω) (update : ScheduleId → Script κ β ω)

/-- What a lifecycle method does. -/
inductive Script (κ : Type) (β : κ → Type) (ω : Type) where
  | done
  | panic (payload : Payload)
  | add (plugin : Plugin κ β ω) (next : Script κ β ω)
  | finish (next : Script κ β ω)
  | tick (schedule : ScheduleId) (next : Script κ β ω)
  | cleanup (next : Script κ β ω)
  | isBuilt (next : Bool → Script κ β ω)
  /-- Publishes a value; the answer is the one it replaces. -/
  | publish (k : κ) (value : β k) (next : Option (β k) → Script κ β ω)
  /-- Looks a published value up. -/
  | lookUp (k : κ) (next : Option (β k) → Script κ β ω)
  /-- Changes the outside state, or halts. -/
  | perform (act : Effect ω Unit) (next : Script κ β ω)
  /-- Looks at the outside state. -/
  | inspect (next : ω → Script κ β ω)
  /-- Follows another script and catches its panic, if there is one. -/
  | attempt (body : Script κ β ω) (next : Except Payload Unit → Script κ β ω)

end

namespace Plugin

variable {κ : Type} {β : κ → Type} {ω : Type}

def info : Plugin κ β ω → PluginInfo
  | mk info _ _ _ _ => info

/-- What the plugin does when it is called. -/
def script : Plugin κ β ω → Phase → Script κ β ω
  | mk _ build _ _ _, .build => build
  | mk _ _ ready _ _, .ready => ready
  | mk _ _ _ _ update, .update schedule => update schedule
  | mk _ _ _ cleanup _, .cleanup => cleanup

end Plugin

end LiveSwap
