import LiveSwap.Server.Basic
/-!
Running scripts.

A script's requests call lifecycle methods, which are scripts again. `Script.exec` follows one script, given
how to make such calls; `ServerAct.invoke` makes them, with `depth` bounding how deep calls may nest and how
many plugins may be readied. Calls that go on for ever run out of depth, and nothing else does.
-/

namespace LiveSwap

variable {κ : Type} {β : κ → Type} {ω : Type} [DecidableEq κ]

/-- Follows a script. -/
def Script.exec (call : Plugin κ β ω → Phase → ServerAct κ β ω Unit) (rounds : Nat) :
    Script κ β ω → ServerAct κ β ω Unit
  | .done => pure ()
  | .panic payload => throw (.panic payload)
  | .add plugin next => do
    ServerAct.add call plugin
    next.exec call rounds
  | .finish next => do
    ServerAct.finish call rounds
    next.exec call rounds
  | .tick schedule next => do
    ServerAct.tick call schedule
    next.exec call rounds
  | .cleanup next => do
    ServerAct.cleanup call
    next.exec call rounds
  | .isBuilt next => do
    (next (← ServerAct.server).isBuilt).exec call rounds
  | .publish k value next => do
    let (replaced, globals) := (← ServerAct.server).globals.insert k value
    ServerAct.updateServer fun s => { s with globals := globals }
    (next replaced).exec call rounds
  | .lookUp k next => do
    (next ((← ServerAct.server).globals.get? k)).exec call rounds
  | .perform act next => do
    ServerAct.outside act
    next.exec call rounds
  | .inspect next => do
    (next (← get).outside).exec call rounds
  | .attempt body next => do
    (next (← Effect.attempt (body.exec call rounds))).exec call rounds

namespace ServerAct

/-- Calls a lifecycle method of a plugin. -/
def invoke : Nat → Plugin κ β ω → Phase → ServerAct κ β ω Unit
  | 0, _, _ => throw .endless
  | depth + 1, plugin, phase => (plugin.script phase).exec (invoke depth) depth

/-- Runs a script from outside. -/
def run (depth : Nat) (script : Script κ β ω) : ServerAct κ β ω Unit :=
  script.exec (invoke depth) depth

end ServerAct

end LiveSwap
