import LiveSwap.Server.Plugin
import LiveSwap.Text.Quoted
/-!
The order in which queued plugins are built.

`dependencyOrder` walks the queue depth first: a plugin follows the first queued plugin of every id that it
depends on, and otherwise the queue's order stands. A walk that comes back to a plugin on its own path has
found a cycle.
-/

namespace LiveSwap

/-- Why the queued plugins cannot be built. -/
inductive OrderError where
  /-- A plugin depends on one that was never added. -/
  | missing (plugin : String) (dependency : PluginId)
  /-- The names of the plugins that depend on each other in a circle. -/
  | circular (names : List String)
  deriving DecidableEq, Repr

def OrderError.message : OrderError → String
  | .missing plugin dependency =>
    "Plugin '" ++ plugin ++ "' requires '" ++ dependency.typeName ++ "' which was not added.\nAdd "
      ++ dependency.typeName ++ " before finishing the server."
  | .circular names =>
    "Circular dependency detected among plugins: " ++ Text.Quoted.encodeList names
      ++ "\nMove the shared part into a plugin both can depend on."

namespace Order

/-- The place of the first queued plugin of an id. -/
def firstOf (queue : List PluginInfo) (id : PluginId) : Option Nat :=
  queue.findIdx? fun p => decide (p.id = id)

/-- The places a plugin has to follow, in the order of its declarations. -/
def targets (queue : List PluginInfo) (place : Nat) : List Nat :=
  match queue[place]? with
  | none => []
  | some p => p.dependencies.filterMap (firstOf queue)

mutual

/-- Appends a place to the order, after everything it has to follow. `free` holds the places that are not on
`path`, the way from the root of the walk to here; what comes back instead of an order is a cycle. -/
def visit (queue : List PluginInfo) (free path order : List Nat) (place : Nat) :
    Except (List Nat) (List Nat) :=
  if place ∈ order then .ok order
  else if place ∈ free then
    match visitAll queue (free.erase place) (path ++ [place]) order (targets queue place) with
    | .ok order => .ok (order ++ [place])
    | .error cycle => .error cycle
  else .error (path.drop ((path.idxOf? place).getD 0))
termination_by (free.length, 0)
decreasing_by
  have hmem : place ∈ free := by assumption
  have := List.length_pos_of_mem hmem
  rw [List.length_erase_of_mem hmem]
  exact Prod.Lex.left _ _ (by omega)

/-- Visits the places in turn. -/
def visitAll (queue : List PluginInfo) (free path order : List Nat) :
    List Nat → Except (List Nat) (List Nat)
  | [] => .ok order
  | place :: places =>
    match visit queue free path order place with
    | .ok order => visitAll queue free path order places
    | .error cycle => .error cycle
termination_by places => (free.length, places.length + 1)

end

/-- The places of the queue in build order, or the places of a cycle. -/
def places (queue : List PluginInfo) : Except (List Nat) (List Nat) :=
  visitAll queue (List.range queue.length) [] [] (List.range queue.length)

/-- The first declared dependency that is neither queued nor built. -/
def missing? (queue : List PluginInfo) (built : List PluginId) : Option OrderError :=
  queue.findSome? fun p =>
    (p.dependencies.find? fun id => (firstOf queue id).isNone && !built.contains id).map fun id =>
      .missing p.name id

end Order

/-- Places the queued plugins in build order. A missing dependency is reported before any cycle. -/
def dependencyOrder (queue : List PluginInfo) (built : List PluginId) : Except OrderError (List Nat) :=
  match Order.missing? queue built with
  | some error => .error error
  | none =>
    match Order.places queue with
    | .ok places => .ok places
    | .error cycle => .error (.circular (cycle.filterMap fun i => (queue[i]?).map (·.name)))

end LiveSwap
