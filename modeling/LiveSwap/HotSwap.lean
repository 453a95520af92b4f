import LiveSwap.Cycle
import LiveSwap.Server.Run
/-!
Hot-swap support as a server plugin.

The plugin publishes a registry and a coordinator when it is built, and runs one refresh cycle on each tick of
its schedule. The host is the state outside the server; the kinds of values that other plugins publish stay
open.
-/

namespace LiveSwap

/-- The kinds of values a server with hot-swap support publishes; `κ` holds everyone else's. -/
inductive Published (κ : Type) where
  | registry
  | coordinator
  | other (k : κ)
  deriving DecidableEq

/-- The values of each kind. -/
def Published.Value {κ : Type} (β : κ → Type) : Published κ → Type
  | registry => RegistryId
  | coordinator => CoordinatorId
  | other k => β k

/-- The schedule that hot-swap plugins listen to unless told otherwise. -/
def onRefresh : ScheduleId := ⟨"phoenix_swap::plugin::OnRefresh"⟩

namespace HotSwapConfig

def standard : HotSwapConfig := ⟨none, onRefresh⟩

end HotSwapConfig

/-- A hot-swap plugin before it is added: the registry it will publish and how cycles are run. -/
structure HotSwap where
  /-- The type of the resources, as it appears in the plugin's name. -/
  resourceType : String
  registry : RegistryId
  config : HotSwapConfig

namespace HotSwap

variable {ι σ κ : Type} {β : κ → Type}

def info (h : HotSwap) : PluginInfo :=
  let typeName := "phoenix_swap::plugin::HotSwapPlugin<" ++ h.resourceType ++ ">"
  { id := ⟨typeName⟩
    label := "phoenix::hot_swap"
    version := ⟨0, 0, 1⟩
    name := typeName
    dependencies := []
    isUnique := true
    schedules := [h.config.schedule] }

/-- Publishes the registry and a fresh coordinator over it. -/
def build (h : HotSwap) : Script (Published κ) (Published.Value β) (Host ι σ) :=
  .inspect fun host =>
    .perform (discard (Act.newCoordinator h.registry h.config)) <|
      .publish .registry h.registry fun _ =>
        .publish .coordinator host.coordinators.length fun _ => .done

/-- Reports how many resources were registered while the server was built. -/
def ready (h : HotSwap) : Script (Published κ) (Published.Value β) (Host ι σ) :=
  .inspect fun host =>
    .perform (Act.log (.hotSwapReady (host.registry h.registry).size h.config.schedule.typeName
      h.config.forced)) .done

/-- Runs one cycle with whatever coordinator is published. -/
def update (c : Collaborators ι σ) : Script (Published κ) (Published.Value β) (Host ι σ) :=
  .lookUp .coordinator fun
    | some id => .perform (discard (c.refreshAll id)) .done
    | none => .perform (Act.log .coordinatorMissing) .done

/-- Reports the final size of the registry. -/
def cleanup (h : HotSwap) : Script (Published κ) (Published.Value β) (Host ι σ) :=
  .inspect fun host => .perform (Act.log (.hotSwapStopping (host.registry h.registry).size)) .done

/-- The plugin for a library. -/
def plugin (h : HotSwap) (c : Collaborators ι σ) :
    Plugin (Published κ) (Published.Value β) (Host ι σ) :=
  .mk h.info h.build h.ready h.cleanup fun _ => update c

end HotSwap

end LiveSwap
