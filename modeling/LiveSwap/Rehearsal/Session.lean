import LiveSwap.HotSwap
import LiveSwap.Rehearsal.Names
import LiveSwap.Rehearsal.Perform
/-!
Whole rehearsals of hot swapping: with a coordinator at hand, or inside a server with a hot-swap plugin.
-/

namespace LiveSwap.Rehearsal

/-- The type of the resources of a rehearsal. -/
def resourceType : String := "dyn host::swap::Res"

/-- The kinds of values that the server of a rehearsal publishes: those of hot swapping alone. -/
abbrev Kind := Published Empty

abbrev Stored : Kind → Type := Published.Value Empty.elim

abbrev SwapHosting := Hosting Kind Stored World

/-- How deep the calls of a server may nest. -/
def hostingDepth : Nat := 1000

structure SwapPlan where
  version : String
  /-- Whether the registry belongs to a plugin in a server. -/
  inServer : Bool
  setup : LibrarySetup
  config : HotSwapConfig
  steps : List Step

/-- The schedule of a number, or the one that cycles run on by default. -/
def scheduleOf (n : Option Nat) : ScheduleId := (n.map scheduleId).getD onRefresh

namespace SwapPlan

variable (p : SwapPlan)

def library : Collaborators (Resource Nat) Bench := worldLibrary p.setup (!p.inServer)

def hotSwap : HotSwap := ⟨resourceType, registryId, p.config⟩

def plugin : Plugin Kind Stored World := p.hotSwap.plugin p.library

def runScript (script : Script Kind Stored World) : Effect SwapHosting Answer := do
  ServerAct.run hostingDepth script
  return .ok

/-- Answers a request to the server. -/
def request : ServerRequest → Effect SwapHosting Answer
  | .finish => runScript (.finish .done)
  | .cleanup => runScript (.cleanup .done)
  | .tick schedule => runScript (.tick (scheduleOf schedule) .done)
  | .addAgain => runScript (.add p.plugin .done)
  | .hosted => do
    let hosting ← get
    let globals := hosting.server.globals
    return .hosted hosting.server.isBuilt (globals.contains .coordinator)
      ((globals.get? .registry).map fun id => (hosting.outside.registry id).names)

def venue : Venue SwapHosting where
  world act := ServerAct.outside act
  server request := if p.inServer then p.request request else return .nothing
  isDirect := !p.inServer

/-- Makes the registry, and the coordinator over it or the plugin that will make one. -/
def prepare : Effect SwapHosting Unit := do
  let registry ← ServerAct.outside Act.newRegistry
  if p.inServer then discard (runScript (.add p.plugin .done))
  else discard (ServerAct.outside (Act.newCoordinator registry p.config))

/-- Runs one step and reads the log. -/
def step (s : Step) : Effect SwapHosting (Answer × List Event) := do
  let answer ← guarded (s.run p.library p.venue)
  let log := (← get).outside.log
  modify fun h => { h with outside := { h.outside with log := [] } }
  return (answer, log.map (·.event))

/-- Runs all steps. A step that never ends would have no answer. -/
def run : List (Answer × List Event) :=
  go p.steps (p.prepare.runOn ⟨Server.empty, Host.start (Bench.start p.version)⟩).2
where
  go : List Step → SwapHosting → List (Answer × List Event)
    | [], _ => []
    | s :: steps, hosting =>
      let (result, hosting) := (p.step s).runOn hosting
      result.toOption.getD (.nothing, []) :: go steps hosting

end SwapPlan

/-! ### The plugin alone -/

structure PluginTour where
  info : PluginInfo
  log : List Event

/-- Calls the lifecycle of a hot-swap plugin with a server that it was never added to. Its registry holds
handles for some names; the plugin is built only if asked. -/
def tourPlugin (names : List String) (config : HotSwapConfig) (build : Bool) : PluginTour :=
  let plan : SwapPlan := ⟨"", true, ⟨false, true⟩, config, []⟩
  let handles : Effect SwapHosting Unit := do
    let registry ← ServerAct.outside Act.newRegistry
    names.forM fun name => discard (ServerAct.outside (Act.getOrCreate registry name))
    modify fun h => { h with outside := { h.outside with log := [] } }
  let phases := (if build then [Phase.build] else []) ++ [.ready, .update config.schedule, .cleanup]
  let lives : Effect SwapHosting Unit :=
    phases.forM fun phase => ServerAct.run hostingDepth (plan.plugin.script phase)
  let (_, h) := (handles *> lives).runOn ⟨Server.empty, Host.start (Bench.start "")⟩
  ⟨plan.plugin.info, h.outside.log.map (·.event)⟩

end LiveSwap.Rehearsal
