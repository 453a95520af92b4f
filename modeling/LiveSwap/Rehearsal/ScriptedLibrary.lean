import LiveSwap.Cycle
import LiveSwap.Rehearsal.Bench
/-!
The scripted library: it records what it is asked to do, fails where a fault strikes, and makes instances.
-/

namespace LiveSwap.Rehearsal

/-- How the scripted library is set up. -/
structure LibrarySetup where
  /-- Whether cycles use strategies of their own in place of the standard ones. -/
  customStrategies : Bool
  /-- Whether the library has a registry to deregister from. -/
  deregisters : Bool
  deriving DecidableEq, Repr

/-- How a fault runs steps. -/
abbrev Performer := List Step → WorldAct (List Answer)

variable (perform : Performer)

/-- Lets the first fault strike that is meant for a stage and a name. -/
def consult (stage : Stage) (name : String) : WorldAct (Except Cause Unit) := do
  match Bench.draw stage name (← bench).faults with
  | none => return .ok ()
  | some (kind, faults) =>
    onBench fun b => { b with faults }
    match kind with
    | .error message => return .error message
    | .panic message => Effect.panic message
    | .panicFixed => Effect.panic "static crash"
    | .panicValue => throw (.panic .other)
    | .perform steps =>
      let answers ← perform steps
      record (.did answers)
      return .ok ()

/-- The label of a descriptor that the library understands. -/
def labelOf (d : Descriptor) : Except Cause String :=
  match (d.as? unitType).bind Value.text? with
  | some label => .ok label
  | none => .error ("wrong descriptor " ++ d.typeName)

def probe : WorldAct String := do
  record .version
  return (← bench).version

/-- Records a call, consults a stage, and goes on if no fault stopped it. -/
def staged {α : Type} (call : LibraryCall) (stage : Stage) (name : String) (next : WorldAct α) :
    WorldAct (Except Cause α) := do
  record call
  match ← consult perform stage name with
  | .error cause => return .error cause
  | .ok () => return .ok (← next)

def modernApi : ModernApi (Resource Nat) Bench (String × Properties) where
  create name properties :=
    staged perform (.create name properties) .create name (make name name .create properties)
  builder descriptor properties := do
    match labelOf descriptor with
    | .error cause => return .error cause
    | .ok label =>
      staged perform (.builder label properties) .builder label (pure (label, properties))
  build := fun (label, properties) =>
    staged perform (.builderBuild label) .builderBuild label (make label label .builder properties)

/-- What a configuration object was told. -/
structure Configuration where
  key : String
  origin : Origin
  properties : Properties

/-- A result with the state that goes along with it. -/
def keeping {α β : Type} (old : α) (new : α) : Except β Unit → α × Except β Unit
  | .ok () => (new, .ok ())
  | .error e => (old, .error e)

def legacyApi : LegacyApi (Resource Nat) Bench Configuration where
  deregister name current := do
    staged perform (.deregister name (← idOf current)) .deregister name (pure ())
  newConfiguration :=
    staged perform .newConfiguration .newConfiguration "" (pure ⟨"", .configuredNamed, .empty⟩)
  configureNamed c name properties := do
    keeping c ⟨name, .configuredNamed, properties⟩ <$>
      staged perform (.configureNamed name properties) .configureNamed name (pure ())
  configureDescriptor c descriptor properties := do
    match labelOf descriptor with
    | .error cause => return (c, .error cause)
    | .ok label =>
      keeping c ⟨label, .configuredDescriptor, properties⟩ <$>
        staged perform (.configureDescriptor label properties) .configureDescriptor label (pure ())
  build c :=
    staged perform (.configurationBuild c.key) .configurationBuild c.key
      (make c.key c.key c.origin c.properties)

/-- A strategy that makes an instance from the one before and says which capability made it. -/
def customStrategy (capability : Capability) : Strategy (Resource Nat) Bench where
  capability := capability
  rebuild params current := do
    record (.rebuild params.name capability)
    match ← consult perform .rebuild params.name with
    | .error cause => return .error (.construction (params.name ++ "!") capability cause)
    | .ok () => match ← consult perform .rebuildPanicked params.name with
      | .error cause => return .error (.panicked (params.name ++ "?") cause)
      | .ok () =>
        let mark := match capability with
          | .legacy => "+L"
          | .modern => "+M"
        let label := (← viewOf current).label ++ mark
        return .ok (← make params.name label .custom params.properties)

/-- The library as cycles see it. -/
def collaborators (setup : LibrarySetup) : Collaborators (Resource Nat) Bench where
  probe := probe
  strategies :=
    if setup.customStrategies then ⟨customStrategy perform .legacy, customStrategy perform .modern, rfl, rfl⟩
    else if setup.deregisters then .ofApis (legacyApi perform) (modernApi perform)
    else .ofApis (legacyApi perform).withoutDeregister (modernApi perform)

end LiveSwap.Rehearsal
