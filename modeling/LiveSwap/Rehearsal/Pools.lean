import LiveSwap.HotSwap
import LiveSwap.Pool.Workers
import LiveSwap.Rehearsal.Recipe
/-!
Rehearsing the pool library behind a hot-swap plugin in a finished server.
-/

namespace LiveSwap.Rehearsal

open Pool (Configuration Employed Exhausted LibraryError PoolAct PoolHost)

inductive PoolStep where
  | openPool (recipe : Recipe)
  | register (recipe : Recipe)
  | look (name : String)
  | checkout (name client : String) (times : Nat)
  | generation (name : String)
  /-- Ticks the schedule that cycles run on. -/
  | tick
  | setVersion (text : String)
  | failNext (key : String)
  | create (name : String) (properties : Properties)
  | build (recipe : Recipe)
  /-- Configures an object in several ways, one after the other, and builds with it; a flag says that the
  descriptor is to be used. -/
  | configure (byDescriptor : List Bool) (recipe : Recipe)
  | deregister (name : String)
  /-- Workers use all proxies while ticks run, so many of them for each proxy. -/
  | workers (ticks : Nat) (perPool : Nat := 0)

inductive PoolAnswer where
  | nothing
  | ok
  | text (s : String)
  | count (n : Nat)
  | pool (p : Pool)
  | failed (e : LibraryError)
  | refused (e : RegisterError)
  | connections (outcomes : List (Except Exhausted Nat))
  | report (r : Report)
  | configured (outcomes : List (Except LibraryError Unit)) (built : Except LibraryError Pool)
  | watched (regressions : Nat) (beyond : Bool)
  | panicked (text : String)

namespace Pools

abbrev Kind := Published Empty

abbrev Stored : Kind → Type := Published.Value Empty.elim

abbrev PoolHosting := Hosting Kind Stored PoolHost

def registryId : RegistryId := 0

def hostingDepth : Nat := 1000

def ofResult : Except LibraryError Pool → PoolAnswer
  | .ok p => .pool p
  | .error e => .failed e

def withProxy (name : String) (f : Proxy → PoolAct PoolAnswer) : PoolAct PoolAnswer := do
  let host ← get
  match (host.find? registryId name).bind host.proxy? with
  | some p => f p
  | none => return .nothing

/-- Opens a pool and registers it under the name of its parameters. -/
def register (params : Params) : PoolAct PoolAnswer := do
  match ← Pool.onLibrary (·.openPool params) with
  | .error e => return .failed e
  | .ok first =>
    match ← Act.register registryId first params with
    | .error e => return .refused e
    | .ok p => return .pool (← Act.snapshot p)

/-- Configures an object, by its descriptor where that is wanted and there is one. -/
def configureEach (params : Params) : List Bool → Configuration →
    Configuration × List (Except LibraryError Unit)
  | [], c => (c, [])
  | byDescriptor :: rest, c =>
    let (c, outcome) := match byDescriptor, params.descriptor with
      | true, some d => c.withDescriptor d params.properties
      | _, _ => c.withName params.name params.properties
    let (c, outcomes) := configureEach params rest c
    (c, outcome :: outcomes)

def proxies : PoolAct (List Proxy) := do
  let host ← get
  return (host.registry registryId).handles.filterMap host.proxy?

def runTick : Effect PoolHosting Unit := ServerAct.run hostingDepth (.tick onRefresh .done)

/-- Workers do a round before, between and after ticks. -/
def roundsAround : Nat → List Employed → Effect PoolHosting (List Employed)
  | 0, workers => ServerAct.outside (workers.mapM Employed.round)
  | n + 1, workers => do
    let workers ← ServerAct.outside (workers.mapM Employed.round)
    runTick
    roundsAround n workers

def run : PoolStep → Effect PoolHosting PoolAnswer
  | .tick => do
    runTick
    return (((← get).outside.coordinator? 0).bind (·.lastReport)).elim .nothing .report
  | .workers ticks perPool => do
    let proxies ← ServerAct.outside proxies
    let workers ← ServerAct.outside (Pool.spawn proxies perPool)
    let seen := Pool.observed (← roundsAround ticks workers)
    let serials ← ServerAct.outside (proxies.mapM fun p => return (← Act.snapshot p).serial)
    return .watched seen.regressions (seen.serials.any (serials.foldl max 0 < ·))
  | step => ServerAct.outside (alone step)
where
  /-- Steps that the server takes no part in. -/
  alone : PoolStep → PoolAct PoolAnswer
    | .openPool recipe => return ofResult (← Pool.onLibrary (·.openPool (recipe.params Pool.unitType)))
    | .register recipe => register (recipe.params Pool.unitType)
    | .look name => withProxy name fun p => return .pool (← Act.snapshot p)
    | .checkout name client times => withProxy name fun p =>
      return .connections (← (List.replicate times client).mapM fun client =>
        Act.forward p fun pool => Pool.checkout pool client)
    | .generation name => do
      let host ← get
      return (host.find? registryId name).elim .nothing fun id => .count (host.handle id).generation.toNat
    | .setVersion text => do
      Pool.onLibrary fun l => ((), l.setVersion text)
      return .text (← get).library.version
    | .failNext key => do
      Pool.onLibrary fun l => ((), l.failNext key)
      return .ok
    | .create name ps => return ofResult (← Pool.create name ps)
    | .build recipe => do
      match recipe.descriptor? Pool.unitType with
      | none => return .nothing
      | some d =>
        match Pool.builder d recipe.properties with
        | .error e => return .failed e
        | .ok b => return ofResult (← b.build)
    | .configure byDescriptor recipe => do
      let (c, outcomes) := configureEach (recipe.params Pool.unitType) byDescriptor .empty
      return .configured outcomes (← c.build)
    | .deregister name => withProxy name fun p => do
      Pool.deregister name (← Act.snapshot p)
      return .ok
    | .tick | .workers .. => return .nothing

/-- A server that is finished with the plugin in it. -/
def prepare (config : HotSwapConfig) : Effect PoolHosting Unit := do
  let registry ← ServerAct.outside Act.newRegistry
  let plugin := HotSwap.plugin ⟨"dyn example::pool::Pool", registry, config⟩ Pool.collaborators
  ServerAct.run hostingDepth (.add plugin (.finish .done))

/-- Runs one step and reads the log. -/
def step (s : PoolStep) : Effect PoolHosting (PoolAnswer × List Event) := do
  let answer ← match ← Effect.attempt (run s) with
    | .ok answer => pure answer
    | .error payload => pure (.panicked payload.message)
  let log := (← get).outside.log
  modify fun h => { h with outside := { h.outside with log := [] } }
  return (answer, log.map (·.event))

end Pools

/-- Runs steps on a fresh library. -/
def rehearsePools (version : String) (config : HotSwapConfig) (steps : List PoolStep) :
    List (PoolAnswer × List Event) :=
  let ready : Effect Pools.PoolHosting Unit := do
    Pools.prepare config
    modify fun h => { h with outside := { h.outside with log := [] } }
  go steps (ready.runOn ⟨Server.empty, Host.start (Pool.Library.start version)⟩).2
where
  go : List PoolStep → Pools.PoolHosting → List (PoolAnswer × List Event)
    | [], _ => []
    | s :: steps, hosting =>
      let (result, hosting) := (Pools.step s).runOn hosting
      result.toOption.getD (.nothing, []) :: go steps hosting

end LiveSwap.Rehearsal
