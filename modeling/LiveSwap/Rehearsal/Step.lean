import LiveSwap.Host
import LiveSwap.Rehearsal.Recipe
/-!
The steps of a rehearsal of hot swapping, the answers to them, and what the scripted library is asked to do.
-/

namespace LiveSwap.Rehearsal

/-- How an instance came to be. -/
inductive Origin where
  | initial
  | create
  | builder
  | configuredNamed
  | configuredDescriptor
  | custom
  deriving DecidableEq, Repr

def Origin.label : Origin → String
  | initial => "initial"
  | create => "create"
  | builder => "builder"
  | configuredNamed => "configured_named"
  | configuredDescriptor => "configured_descriptor"
  | custom => "custom"

/-- The points at which the scripted library can be made to fail. -/
inductive Stage where
  | create
  | builder
  | builderBuild
  | deregister
  | newConfiguration
  | configureNamed
  | configureDescriptor
  | configurationBuild
  | rebuild
  | rebuildPanicked
  deriving DecidableEq, Repr

namespace Stage

def label : Stage → String
  | create => "create"
  | builder => "builder"
  | builderBuild => "builder.build"
  | deregister => "deregister"
  | newConfiguration => "new_configuration"
  | configureNamed => "configure_named"
  | configureDescriptor => "configure_descriptor"
  | configurationBuild => "configuration.build"
  | rebuild => "rebuild"
  | rebuildPanicked => "rebuild_panicked"

def all : List Stage := [
  create, builder, builderBuild, deregister, newConfiguration, configureNamed, configureDescriptor,
  configurationBuild, rebuild, rebuildPanicked]

/-- The stage of a label. -/
def ofLabel? (text : String) : Option Stage := all.find? fun s => s.label = text

theorem ofLabel?_label (s : Stage) : ofLabel? s.label = some s := by cases s <;> decide

end Stage

/-- An operation of a resource. -/
inductive Operation where
  | id
  | label
  | origin
  | properties
  | checkout (client : String)
  | sum (values : List Int)
  | describe (lead : String)
  | crash (message : String)
  deriving DecidableEq, Repr

/-- What can be asked of the server around the world. -/
inductive ServerRequest where
  | finish
  | cleanup
  /-- Ticks a numbered schedule, or the one that cycles run on by default. -/
  | tick (schedule : Option Nat)
  /-- Adds a second hot-swap plugin. -/
  | addAgain
  | hosted
  deriving DecidableEq, Repr

/-- A step that holds no further steps. -/
inductive Query where
  | getOrCreate (name : String)
  | handle (name : String)
  | contains (name : String)
  | size
  | isEmpty
  | names
  /-- Registers an instance: the proxy of another name, or a fresh one, which may be marked as custom. -/
  | register (recipe : Recipe) (under : Option String) (custom : Bool) (proxyOf : Option String)
  | call (name : String) (operation : Operation)
  /-- Sets a snapshot of the instance aside. -/
  | hold (name slot : String)
  /-- Looks at what was set aside, or operates on it. -/
  | held (slot : String) (operation : Option Operation)
  | current (name : String)
  | params (name : String)
  | debugRegistry
  | debugProxy (name : String)
  | debugHandle (name : String)
  | setVersion (text : String)
  | clearFaults
  | calls
  | capability
  | config
  | refreshAll
  | refresh (name : String)
  | lastReport
  | failure (name : String)
  | registryOf
  /-- Several callers ask for one handle at once. -/
  | race (name : String) (callers : Nat)
  /-- Callers read through a proxy while cycles run. -/
  | storm (name : String) (cycles : Nat)
  /-- Several cycles run at once. -/
  | overlap (cycles : Nat)
  /-- A cycle is held up while it makes the target's instance, and callers read meanwhile. -/
  | gated (target : String) (callers : List String)

mutual

inductive Step where
  | query (q : Query)
  | addFault (stage : Stage) (name : Option String) (times : Option Nat) (kind : FaultKind)
  /-- Runs steps inside one forwarded call. -/
  | forward (name : String) (steps : List Step)
  | server (request : ServerRequest)

/-- What a fault does at its stage. -/
inductive FaultKind where
  | error (message : String)
  | panic (message : String)
  /-- Panics with a fixed text. -/
  | panicFixed
  /-- Panics with something that is no text. -/
  | panicValue
  /-- Runs steps, after which the stage goes on. -/
  | perform (steps : List Step)

end

instance : Inhabited Step := ⟨.query .names⟩

instance : Inhabited FaultKind := ⟨.panicFixed⟩

/-- A fault: where it strikes, whom (everyone if nobody is named), and how often (for ever if nothing is
said). -/
structure Fault where
  stage : Stage
  name : Option String
  times : Option Nat
  kind : FaultKind

/-! ### Answers -/

structure InstanceView where
  id : Nat
  label : String
  origin : Origin
  properties : Properties

structure HandleView where
  name : String
  isRegistered : Bool
  generation : Nat
  deriving DecidableEq, Repr

/-- What a caller read while a cycle was held up, and what it read afterwards if it was blocked. -/
structure GatedCall where
  name : String
  during : Option Nat
  after : Option Nat
  deriving DecidableEq, Repr

mutual

inductive Answer where
  | nothing
  | ok
  | flag (b : Bool)
  | count (n : Nat)
  | number (n : Int)
  | text (s : String)
  | names (names : List String)
  | properties (p : Properties)
  | instance (v : InstanceView)
  | handle (v : HandleView)
  /-- A handle that was asked for, and whether it is the one that was got last time. -/
  | obtained (v : HandleView) (same : Option Bool)
  | listing (names : List String) (handles : List HandleView)
  | registered (name : String) (v : HandleView) (id : Nat)
  | noProxy
  | refused (error : RegisterError)
  /-- An operation failed. -/
  | denied (message : String)
  | panicked (text : String)
  | forwarded (inside : Nat) (steps : List Answer) (still outside : Nat)
  | params (p : Params)
  | capability (c : Capability)
  | config (c : HotSwapConfig)
  | report (r : Report)
  | outcome (o : Outcome)
  | failure (e : RebuildError)
  | calls (calls : List LibraryCall)
  | hosted (built coordinator : Bool) (registry : Option (List String))
  | raced (size : Nat)
  | stormed (regressions : Nat) (beyond : Bool) (id : Nat) (v : HandleView)
  | overlapped (reports : List Report) (handles : List HandleView)
  | parked (calls : List GatedCall) (during : List HandleView) (report : Report)
  | notParked (report : Report)

/-- A call that the scripted library recorded. -/
inductive LibraryCall where
  | version
  | create (name : String) (properties : Properties)
  | builder (label : String) (properties : Properties)
  | builderBuild (label : String)
  | deregister (name : String) (id : Nat)
  | newConfiguration
  | configureNamed (name : String) (properties : Properties)
  | configureDescriptor (label : String) (properties : Properties)
  | configurationBuild (key : String)
  | rebuild (name : String) (capability : Capability)
  /-- Steps that a fault ran. -/
  | did (answers : List Answer)

end

instance : Inhabited Answer := ⟨.nothing⟩

end LiveSwap.Rehearsal
