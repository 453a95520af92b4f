import LiveSwap.Event
import LiveSwap.Server.Run
import LiveSwap.Tracing.Directive
/-!
Log setup as a server plugin.

The plugin publishes its configuration when it is built, and reports what it set up when everything is built.
A filter that does not read is reported after that and leaves the plain level in force. Setting up is for the
whole process: if someone did it before, theirs stays.
-/

namespace LiveSwap.Tracing

inductive Format where
  | pretty | compact | json
  deriving DecidableEq, Repr

def Format.tag : Format → String
  | .pretty => "Pretty"
  | .compact => "Compact"
  | .json => "Json"

/-- The published configuration. -/
structure Config where
  level : Level
  format : Format
  filter : Option String
  deriving DecidableEq, Repr

/-- The plugin before it is added. -/
structure Setup where
  config : Config
  /-- Whether entering and leaving a span is written as well. -/
  spanEvents : Bool
  deriving DecidableEq, Repr

namespace Setup

/-- Everything at information level, written out in full. -/
def standard : Setup := ⟨⟨.info, .pretty, none⟩, false⟩

def withLevel (s : Setup) (level : Level) : Setup := { s with config := { s.config with level } }

def withFormat (s : Setup) (format : Format) : Setup := { s with config := { s.config with format } }

def withFilter (s : Setup) (filter : String) : Setup :=
  { s with config := { s.config with filter := some filter } }

def withSpanEvents (s : Setup) (enabled : Bool) : Setup := { s with spanEvents := enabled }

/-- The directives in force, and the error if the configured ones were rejected. -/
def directives (s : Setup) : String × Option FilterError :=
  match s.config.filter with
  | none => (s.config.level.directive, none)
  | some filter =>
    match checkFilter filter with
    | .ok () => (filter, none)
    | .error error => (s.config.level.directive, some error)

def info : PluginInfo where
  id := ⟨"phoenix_core_plugins::tracing_plugin::TracingPlugin"⟩
  label := "phoenix::tracing"
  version := ⟨0, 0, 1⟩
  name := "phoenix_core_plugins::tracing_plugin::TracingPlugin"
  dependencies := []
  isUnique := true
  schedules := []

/-- What readying the plugin reports; `installed` says whether nobody had set logging up before. -/
def readyEvents (s : Setup) (installed : Bool) : List Event :=
  ⟨.info, "TracingPlugin initialized",
    [("level", .text s.config.level.label), ("format", .text s.config.format.tag),
      ("installed", .flag installed)]⟩
  :: match s.directives.2 with
    | none => []
    | some error =>
      [⟨.warn, "invalid filter directives, using level only",
        [("err", .text error.message), ("directives", .text (s.config.filter.getD ""))]⟩]

def cleanupEvent : Event := ⟨.info, "TracingPlugin shutting down", []⟩

/-- The log, and whether logging was set up in this process. -/
structure Journal where
  events : List Event
  installed : Bool

/-- The plugin; its configuration is the only value it publishes. -/
def plugin (s : Setup) : Plugin Unit (fun _ => Config) Journal :=
  .mk info
    (.publish () s.config fun _ => .done)
    (.perform
      (modify fun j => ⟨j.events ++ s.readyEvents (!j.installed), true⟩)
      .done)
    (.perform (modify fun j => { j with events := j.events ++ [cleanupEvent] }) .done)
    fun _ => .done

end Setup

end LiveSwap.Tracing
