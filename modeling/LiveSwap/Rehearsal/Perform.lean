import LiveSwap.Rehearsal.ScriptedLibrary
/-!
Performing steps.

Steps run in a venue: straight on the world, or on a world that a server stands around. A panic ends the step
that it arises in and becomes its answer. Steps that a fault runs are performed on the world while the library
is at work; `worldLibrary` ties that knot, to a given depth.
-/

namespace LiveSwap.Rehearsal

/-- The registry that steps work on. -/
def registryId : RegistryId := 0

/-- The coordinator that steps work with; it exists once somebody made it. -/
def coordinatorId : CoordinatorId := 0

def viewHandle (h : Handle (Resource Nat)) : HandleView := ⟨h.name, h.isRegistered, h.generation.toNat⟩

def handleView (id : HandleId) : WorldAct HandleView := return viewHandle ((← get).handle id)

def handleViews : WorldAct (List HandleView) := return ((← get).handlesOf registryId).map viewHandle

/-- An answer, or nothing. -/
def orNothing {α : Type} (f : α → Answer) (value : Option α) : Answer := (value.map f).getD .nothing

def handle? (name : String) : WorldAct (Option HandleId) := return (← get).find? registryId name

/-- The proxy of a name, if its handle was registered. -/
def proxy? (name : String) : WorldAct (Option Proxy) := do
  let world ← get
  return (world.find? registryId name).bind world.proxy?

/-- The handle of a name, and what callers can tell about it. -/
def withHandle (name : String) (f : HandleId → WorldAct Answer) : WorldAct Answer := do
  match ← handle? name with
  | some id => f id
  | none => return .nothing

def withProxy (name : String) (f : Proxy → WorldAct Answer) : WorldAct Answer := do
  match ← proxy? name with
  | some p => f p
  | none => return .nothing

def obtain (name : String) : WorldAct Answer := do
  let id ← Act.getOrCreate registryId name
  let last := (← bench).obtained.lookup name
  onBench fun b => { b with obtained := Bench.put name id b.obtained }
  return .obtained (← handleView id) (last.map fun before => decide (before = id))

/-- The instance that a step registers. -/
def firstInstance (recipe : Recipe) (custom : Bool) : Option String → WorldAct (Option (Resource Nat))
  | some name => return (← proxy? name).map .proxy
  | none =>
    let label := recipe.unit.getD recipe.name
    some <$> makeUngated label .initial (recipe.params unitType).properties custom

/-- Registers an instance, under the name of its parameters unless told otherwise. -/
def enroll (recipe : Recipe) (under : Option String) (custom : Bool) (proxyOf : Option String) :
    WorldAct Answer := do
  let params := recipe.params unitType
  match ← firstInstance recipe custom proxyOf with
  | none => return .noProxy
  | some first =>
    let outcome ← match under with
      | some name => do Act.registerOn (← Act.getOrCreate registryId name) first params
      | none => Act.register registryId first params
    match outcome with
    | .error error => return .refused error
    | .ok p =>
      let view ← handleView p.handle
      return .registered view.name view (← idOf (.proxy p))

/-! ### Coordinators -/

variable (c : Collaborators (Resource Nat) Bench)

/-- The coordinator, if it was made. -/
def withCoordinator (f : Coordinator → WorldAct Answer) : WorldAct Answer := do
  match (← get).coordinator? coordinatorId with
  | some coordinator => f coordinator
  | none => return .nothing

/-- Runs cycles and reads through a proxy before, between and after them. -/
def readAround (p : Proxy) : Nat → WorldAct (List Nat)
  | 0 => return [← idOf (.proxy p)]
  | n + 1 => do
    let id ← idOf (.proxy p)
    discard (c.refreshAll coordinatorId)
    return id :: (← readAround p n)

/-- How often a smaller number follows a larger one. -/
def regressions : List Nat → Nat
  | a :: b :: rest => (if b < a then 1 else 0) + regressions (b :: rest)
  | _ => 0

/-- Runs so many cycles. -/
def repeatCycle : Nat → WorldAct (List Report)
  | 0 => return []
  | n + 1 => do
    let report ← c.refreshAll coordinatorId
    return report.toList ++ (← repeatCycle n)

/-- What a caller finds in a world where a cycle is held up: an id, or the handle that it has to wait for. -/
def readParked (world : World) (name : String) : Option (String × Except HandleId Nat) :=
  match ((do
    match ← proxy? name with
    | none => return none
    | some p => return some (← idOf (.proxy p)) : WorldAct (Option Nat)).runOn world).1 with
  | .ok (some id) => some (name, .ok id)
  | .error (.waiting (.reloadLock handle)) => some (name, .error handle)
  | _ => none

/-- A cycle that is held up where it makes the target's instance. The world as it stands then shows who is
blocked; letting the cycle go on amounts to running it without hindrance. -/
def holdUp (target : String) (callers : List String) : WorldAct Answer := do
  let before ← get
  let (_, parked) := (c.refreshAll coordinatorId).runOn
    { before with library := { before.library with gate := some target } }
  let report ← c.refreshAll coordinatorId
  let isParked := (parked.handlesOf registryId).any (·.reloading)
  match report with
  | none => return .nothing
  | some report =>
    if !isParked then return .notParked report
    let calls ← (callers.filterMap (readParked parked)).mapM fun (name, found) => do
      match found with
      | .ok id => return GatedCall.mk name (some id) none
      | .error handle => return GatedCall.mk name none (some (← idOf (.proxy ⟨handle⟩)))
    return .parked calls ((parked.handlesOf registryId).map viewHandle) report

/-- Answers a query on the world. `isDirect` says whether the coordinator is at hand, and not only a server's. -/
def Query.run (isDirect : Bool) : Query → WorldAct Answer
  | .getOrCreate name => obtain name
  | .handle name => withHandle name fun id => return .handle (← handleView id)
  | .contains name => return .flag (← handle? name).isSome
  | .size => return .count ((← get).registry registryId).size
  | .isEmpty => return .flag ((← get).registry registryId).isEmpty
  | .names => return .listing ((← get).registry registryId).names (← handleViews)
  | .register recipe under custom proxyOf => enroll recipe under custom proxyOf
  | .call name operation => withProxy name fun p => Act.forward p fun r => operate r operation
  | .hold name slot => withProxy name fun p => do
    let r ← Act.snapshot p
    onBench fun b => { b with held := Bench.put slot r b.held }
    return .instance (← viewOf r)
  | .held slot operation => do
    match (← bench).held.lookup slot, operation with
    | none, _ => return .nothing
    | some r, none => return .instance (← viewOf r)
    | some r, some operation => operate r operation
  | .current name => withHandle name fun id => do
    match ← Act.current id with
    | none => return .nothing
    | some r => return .instance (← viewOf r)
  | .params name => withHandle name fun id => return orNothing .params ((← get).handle id).params?
  | .debugRegistry => return .text ((← get).registry registryId).debug
  | .debugProxy name => withProxy name fun p => return .text ((← get).handle p.handle).proxyDebug
  | .debugHandle name => withHandle name fun id => return .text ((← get).handle id).debug
  | .setVersion text => do
    onBench fun b => { b with version := text }
    return .ok
  | .clearFaults => do
    onBench fun b => { b with faults := [] }
    return .ok
  | .calls => do
    let calls := (← bench).calls
    onBench fun b => { b with calls := [] }
    return .calls calls
  | .capability => withCoordinator fun k => return .capability (← c.capability k.config)
  | .config => withCoordinator fun k => return .config k.config
  | .refreshAll => return orNothing .report (← c.refreshAll coordinatorId)
  | .refresh name => return orNothing .outcome (← c.refresh coordinatorId name)
  | .lastReport => withCoordinator fun k => return orNothing .report k.lastReport
  | .failure name => withCoordinator fun k =>
    return orNothing .failure (k.lastReport.bind (·.failure? name))
  | .registryOf => withCoordinator fun k => return .names ((← get).registry k.registry).names
  | .race name callers => do
    (List.replicate callers name).forM fun name => discard (Act.getOrCreate registryId name)
    return .raced ((← get).registry registryId).size
  | .storm name cycles =>
    if isDirect then
      withProxy name fun p => do
        let ids ← readAround c p cycles
        let final := ids.getLast?.getD 0
        return .stormed (regressions ids) (ids.any (final < ·)) final (← handleView p.handle)
    else return .nothing
  | .overlap cycles => do
    if isDirect then return .overlapped (← repeatCycle c cycles) (← handleViews) else return .nothing
  | .gated target callers => if isDirect then holdUp c target callers else return .nothing

/-! ### Steps -/

/-- Where steps run. -/
structure Venue (S : Type) where
  world : {α : Type} → WorldAct α → Effect S α
  server : ServerRequest → Effect S Answer
  isDirect : Bool

/-- Turns a panic into an answer. -/
def guarded {S : Type} (act : Effect S Answer) : Effect S Answer := do
  match ← Effect.attempt act with
  | .ok answer => return answer
  | .error payload => return .panicked payload.message

mutual

def Step.run {S : Type} (v : Venue S) : Step → Effect S Answer
  | .query q => v.world (q.run c v.isDirect)
  | .addFault stage name times kind =>
    v.world do
      onBench fun b => { b with faults := b.faults ++ [⟨stage, name, times, kind⟩] }
      return .ok
  | .server request => v.server request
  | .forward name steps => do
    match ← v.world (proxy? name) with
    | none => return .nothing
    | some p =>
      let r ← v.world (Act.snapshot p)
      let inside ← v.world (idOf r)
      let answers ← runSteps v steps
      let still ← v.world (idOf r)
      return .forwarded inside answers still (← v.world (idOf (.proxy p)))

def runSteps {S : Type} (v : Venue S) : List Step → Effect S (List Answer)
  | [] => return []
  | step :: steps => do
    let answer ← guarded (step.run v)
    return answer :: (← runSteps v steps)

end

/-- A venue without a server; `isDirect` is as for queries. -/
def Venue.bare (isDirect : Bool) : Venue World := ⟨id, fun _ => return .nothing, isDirect⟩

/-- Steps that faults run while the library is at work. Such steps may set the library to work again, at most
so many times inside each other. -/
def performWithin (setup : LibrarySetup) (isDirect : Bool) : Nat → Performer
  | 0, _ => throw .endless
  | depth + 1, steps =>
    runSteps (collaborators (performWithin setup isDirect depth) setup) (Venue.bare isDirect) steps

/-- The scripted library. -/
def worldLibrary (setup : LibrarySetup) (isDirect : Bool) : Collaborators (Resource Nat) Bench :=
  collaborators (performWithin setup isDirect 1000) setup

end LiveSwap.Rehearsal
