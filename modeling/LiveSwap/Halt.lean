/-!
Effects that can end without a result.

A panic unwinds and can be caught. A thread that waits for something nobody will grant does not return, and
neither does one that follows an endless chain of calls; nothing catches those two. Whatever an effect
changed before it halts stays changed.
-/

namespace LiveSwap

/-- What a panic carries: a text, or something else. -/
inductive Payload where
  | text (s : String)
  | other
  deriving DecidableEq, Repr

/-- The text reported for a caught panic. -/
def Payload.message : Payload → String
  | .text s => s
  | .other => "non-string panic payload"

/-- What a thread can wait for. -/
inductive Wait where
  /-- The reload lock of a handle. -/
  | reloadLock (handle : Nat)
  /-- Somebody outside to let it go on. -/
  | gate
  deriving DecidableEq, Repr

inductive Halt where
  | panic (payload : Payload)
  | waiting (on : Wait)
  | endless
  deriving DecidableEq, Repr

/-- An effect on a state of type `S`. -/
abbrev Effect (S : Type) := ExceptT Halt (StateM S)

namespace Effect

variable {S T α : Type}

def panic (text : String) : Effect S α := throw (.panic (.text text))

/-- The result and the state after an effect. -/
def runOn (act : Effect S α) (s : S) : Except Halt α × S := act.run.run s

/-- Runs an effect and hands a panic over as a value; a thread that is stuck stays stuck. -/
def attempt (act : Effect S α) : Effect S (Except Payload α) :=
  tryCatch (.ok <$> act) fun
    | .panic payload => pure (.error payload)
    | halt => throw halt

/-- Runs an effect on a part of the state. -/
def onPart (read : S → T) (write : T → S → S) (act : Effect T α) : Effect S α := do
  match ← modifyGet fun s => let (r, t) := act.runOn (read s); (r, write t s) with
  | .ok a => pure a
  | .error halt => throw halt

end Effect

end LiveSwap
