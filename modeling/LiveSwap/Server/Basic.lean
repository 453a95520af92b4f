import LiveSwap.Server.Order
import LiveSwap.Server.Resources
/-!
The server: it owns plugins and the values they publish, and calls the plugins over their lives.

Plugins are queued, then built in dependency order and readied, then updated on the schedules they asked for,
and finally cleaned up, last built first. A plugin added while the server builds is built on the spot.

The operations take `call`, which runs one lifecycle method; `Server/Run` ties the knot.
-/

namespace LiveSwap

/-- Where the server is in its one-way build sequence. -/
inductive BuildState where
  | notStarted | building | built
  deriving DecidableEq, Repr

structure Server (κ : Type) (β : κ → Type) (ω : Type) where
  globals : Resources κ β
  /-- Plugins added but not yet built. -/
  pending : List (Plugin κ β ω)
  /-- Plugins in the order they were built. -/
  built : List (Plugin κ β ω)
  /-- Every plugin id added so far. -/
  added : List PluginId
  /-- The places in `built` that listen to a schedule, in build order. -/
  listeners : List (ScheduleId × List Nat)
  state : BuildState

/-- A server together with the state outside it. -/
structure Hosting (κ : Type) (β : κ → Type) (ω : Type) where
  server : Server κ β ω
  outside : ω

/-- An action on a server and the state outside it; what it changed before it halts stays changed. -/
abbrev ServerAct (κ : Type) (β : κ → Type) (ω : Type) := Effect (Hosting κ β ω)

namespace Server

variable {κ : Type} {β : κ → Type} {ω : Type}

def empty : Server κ β ω := ⟨Resources.empty, [], [], [], [], .notStarted⟩

def isBuilt (s : Server κ β ω) : Bool := decide (s.state = .built)

/-- What happens to a plugin when it is added. -/
inductive Refusal where
  /-- The server has finished building. -/
  | alreadyBuilt (name : String)
  /-- A unique plugin was added before. -/
  | duplicate (name label : String)
  deriving DecidableEq, Repr

def Refusal.message : Refusal → String
  | .alreadyBuilt name =>
    "Plugin '" ++ name ++ "' was added after Server::finish().\nAdd every plugin before finishing the server."
  | .duplicate name label =>
    "Plugin '" ++ name ++ "' (" ++ label
      ++ ") is unique and was already added.\nReturn \x60false\x60 from \x60is_unique()\x60 to allow several instances."

/-- Why a plugin may not be added now. -/
def refusal? (s : Server κ β ω) (info : PluginInfo) : Option Refusal :=
  if s.state = .built then some (.alreadyBuilt info.name)
  else if info.isUnique ∧ info.id ∈ s.added then some (.duplicate info.name info.label)
  else none

/-- Remembers a plugin's id. -/
def noteId (s : Server κ β ω) (id : PluginId) : Server κ β ω :=
  { s with added := if id ∈ s.added then s.added else s.added ++ [id] }

/-- Adds a place to the listeners of a schedule. -/
def listen (listeners : List (ScheduleId × List Nat)) (schedule : ScheduleId) (place : Nat) :
    List (ScheduleId × List Nat) :=
  match listeners with
  | [] => [(schedule, [place])]
  | (s, places) :: rest =>
    if s = schedule then (s, places ++ [place]) :: rest else (s, places) :: listen rest schedule place

/-- Who listens to what, given the plugins in build order. -/
def listenersOf (built : List PluginInfo) : List (ScheduleId × List Nat) :=
  (built.zipIdx).foldl (fun ls entry => entry.1.schedules.foldl (listen · · entry.2) ls) []

end Server

namespace ServerAct

variable {κ : Type} {β : κ → Type} {ω : Type}

def server : ServerAct κ β ω (Server κ β ω) := return (← get).server

def updateServer (f : Server κ β ω → Server κ β ω) : ServerAct κ β ω Unit :=
  modify fun h => { h with server := f h.server }

/-- Runs an effect on the outside state. -/
def outside {α : Type} (act : Effect ω α) : ServerAct κ β ω α :=
  act.onPart (·.outside) fun o h => { h with outside := o }

variable (call : Plugin κ β ω → Phase → ServerAct κ β ω Unit)

/-- Adds a plugin: to the queue before building has started, by building it at once afterwards. -/
def add (plugin : Plugin κ β ω) : ServerAct κ β ω Unit := do
  match (← server).refusal? plugin.info with
  | some refusal => Effect.panic refusal.message
  | none =>
    updateServer (·.noteId plugin.info.id)
    if (← server).state = .building then
      call plugin .build
      updateServer fun s => { s with built := s.built ++ [plugin] }
    else
      updateServer fun s => { s with pending := s.pending ++ [plugin] }

/-- Builds plugins in turn. -/
def buildEach : List (Plugin κ β ω) → ServerAct κ β ω Unit
  | [] => pure ()
  | plugin :: plugins => do
    call plugin .build
    updateServer fun s => { s with built := s.built ++ [plugin] }
    buildEach plugins

/-- Readies the built plugins from a place on. Readying may add plugins, which are readied in their turn;
`rounds` bounds how many there can be. -/
def readyFrom : Nat → Nat → ServerAct κ β ω Unit
  | rounds, place => do
    match (← server).built[place]? with
    | none => pure ()
    | some plugin =>
      match rounds with
      | 0 => throw .endless
      | rounds + 1 =>
        call plugin .ready
        readyFrom rounds (place + 1)

/-- Takes the queue and puts it in build order; the queue is gone even if that fails. -/
def takeQueue : ServerAct κ β ω (List (Plugin κ β ω)) := do
  let s ← server
  updateServer fun s => { s with pending := [] }
  match dependencyOrder (s.pending.map (·.info)) (s.built.map (·.info.id)) with
  | .ok places => pure (places.filterMap (s.pending[·]?))
  | .error error => Effect.panic error.message

/-- Builds and readies every added plugin. -/
def finish (rounds : Nat) : ServerAct κ β ω Unit := do
  if (← server).state ≠ .notStarted then
    Effect.panic "Server::finish() was already called. A server is built once."
  let queue ← takeQueue
  updateServer fun s => { s with state := .building }
  buildEach call queue
  readyFrom call rounds 0
  updateServer fun s => { s with
    listeners := Server.listenersOf (s.built.map (·.info))
    state := .built }

/-- The plugin at a place of the build order. -/
def builtAt (place : Nat) : ServerAct κ β ω (Plugin κ β ω) := do
  let built := (← server).built
  match built[place]? with
  | some plugin => pure plugin
  | none =>
    Effect.panic ("index out of bounds: the len is " ++ toString built.length ++ " but the index is "
      ++ toString place)

/-- Updates every plugin that listens to a schedule. -/
def tick (schedule : ScheduleId) : ServerAct κ β ω Unit := do
  match (← server).listeners.lookup schedule with
  | none => pure ()
  | some places => places.forM fun place => do call (← builtAt place) (.update schedule)

/-- Cleans up the built plugins, last built first. -/
def cleanup : ServerAct κ β ω Unit := do
  (List.range (← server).built.length).reverse.forM fun place => do call (← builtAt place) .cleanup

end ServerAct

end LiveSwap
