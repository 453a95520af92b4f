import LiveSwap.Rehearsal.Names
import LiveSwap.Server.Resources
/-!
Rehearsing a container of numbered kinds, each holding an integer.
-/

namespace LiveSwap.Rehearsal

inductive ResourceStep where
  | insert (slot : Nat) (value : Int)
  | get (slot : Nat)
  | contains (slot : Nat)
  | size
  | isEmpty
  deriving DecidableEq, Repr

inductive ResourceReply where
  | replaced (value : Option Int)
  | found (value : Int) (typeName : String)
  | notFound (message : String)
  | flag (b : Bool)
  | count (n : Nat)
  deriving DecidableEq, Repr

abbrev Numbers := Resources Nat (fun _ => Int)

def stepResources (r : Numbers) : ResourceStep → ResourceReply × Numbers
  | .insert slot value =>
    let (replaced, r) := r.insert slot value
    (.replaced replaced, r)
  | .get slot =>
    match r.get? slot with
    | some value => (.found value (globalTypeName slot), r)
    | none => (.notFound (Resources.notFound (globalTypeName slot)), r)
  | .contains slot => (.flag (r.contains slot), r)
  | .size => (.count r.size, r)
  | .isEmpty => (.flag r.isEmpty, r)

/-- Runs the steps on an empty container. -/
def runResources (steps : List ResourceStep) : List ResourceReply :=
  go steps Resources.empty
where
  go : List ResourceStep → Numbers → List ResourceReply
    | [], _ => []
    | step :: steps, r =>
      let (reply, r) := stepResources r step
      reply :: go steps r

end LiveSwap.Rehearsal
