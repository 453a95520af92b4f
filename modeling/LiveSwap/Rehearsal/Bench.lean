import LiveSwap.Rehearsal.Step
import LiveSwap.Resource
/-!
The world of a rehearsal: a host whose library is scripted, and the instances that the library made.
-/

namespace LiveSwap.Rehearsal

/-- An instance that the scripted library made. -/
structure Made where
  label : String
  origin : Origin
  properties : Properties
  /-- How many tickets were handed out. -/
  tickets : Nat
  /-- Whether the instance has a description of its own and counts backwards. -/
  isCustom : Bool

/-- The scripted library, and what steps set aside. -/
structure Bench where
  version : String
  /-- All instances ever made; the first one has id 1. -/
  made : List Made
  faults : List Fault
  /-- The calls not yet asked for, oldest first. -/
  calls : List LibraryCall
  /-- The handle that each name led to last. -/
  obtained : List (String × HandleId)
  held : List (String × Resource Nat)
  /-- The key whose instance must not be made for now. -/
  gate : Option String

abbrev World := Host (Resource Nat) Bench

abbrev WorldAct := Act (Resource Nat) Bench

namespace Bench

def start (version : String) : Bench := ⟨version, [], [], [], [], [], none⟩

def record (b : Bench) (call : LibraryCall) : Bench := { b with calls := b.calls ++ [call] }

/-- Puts a value in the place of the one of its key. -/
def put {α : Type} (key : String) (value : α) (entries : List (String × α)) : List (String × α) :=
  (key, value) :: entries.filter fun e => e.1 ≠ key

/-- Whether a fault is meant for a stage and a name, and is not used up. -/
def strikes (stage : Stage) (name : String) (f : Fault) : Bool :=
  f.stage = stage && f.name.all (· = name) && f.times ≠ some 0

/-- The first fault that strikes, and the faults that are left: one that strikes a fixed number of times is
used up in the end. -/
def draw (stage : Stage) (name : String) : List Fault → Option (FaultKind × List Fault)
  | [] => none
  | f :: rest =>
    if strikes stage name f then
      match f.times with
      | none => some (f.kind, f :: rest)
      | some n => some (f.kind, if n ≤ 1 then rest else { f with times := some (n - 1) } :: rest)
    else (draw stage name rest).map fun found => (found.1, f :: found.2)

end Bench

/-- Changes the scripted library. -/
def onBench (f : Bench → Bench) : WorldAct Unit := modify fun w => { w with library := f w.library }

def bench : WorldAct Bench := return (← get).library

/-- Records a call of the library. -/
def record (call : LibraryCall) : WorldAct Unit := onBench (·.record call)

/-! ### Instances -/

/-- Makes an instance. Its id is the number of instances made so far. -/
def makeUngated (label : String) (origin : Origin) (properties : Properties) (custom : Bool) :
    WorldAct (Resource Nat) := do
  onBench fun b => { b with made := b.made ++ [⟨label, origin, properties, 0, custom⟩] }
  return .plain (← bench).made.length

/-- Makes an instance for a key, unless the key is held up. -/
def make (key : String) (label : String) (origin : Origin) (properties : Properties) :
    WorldAct (Resource Nat) := do
  if (← bench).gate = some key then throw (.waiting .gate)
  makeUngated label origin properties false

/-- The plain instance behind a resource, with its id. -/
def instanceOf (r : Resource Nat) : WorldAct (Nat × Made) := do
  let id ← Act.reach r
  return (id, (← bench).made.getD (id - 1) ⟨"", .initial, .empty, 0, false⟩)

def idOf (r : Resource Nat) : WorldAct Nat := return (← instanceOf r).1

def viewOf (r : Resource Nat) : WorldAct InstanceView := do
  let (id, made) ← instanceOf r
  return ⟨id, made.label, made.origin, made.properties⟩

/-- Operates on a resource. -/
def operate (r : Resource Nat) (operation : Operation) : WorldAct Answer := do
  let (id, made) ← instanceOf r
  match operation with
  | .id => return .count id
  | .label => return .text made.label
  | .origin => return .text made.origin.label
  | .properties => return .properties made.properties
  | .checkout client =>
    if client.isEmpty then
      return .denied ("instance " ++ toString id ++ " refuses anonymous clients")
    onBench fun b => { b with made := b.made.modify (id - 1) fun m => { m with tickets := m.tickets + 1 } }
    return .count made.tickets
  | .sum values =>
    let total := values.foldl (· + ·) (id : Int)
    return .number (if made.isCustom then -total else total)
  | .describe lead =>
    return .text (if made.isCustom then "custom" else lead ++ made.label ++ "#" ++ toString id)
  | .crash message => Effect.panic message

end LiveSwap.Rehearsal
