import LiveSwap.Pool.Bootstrap
import LiveSwap.Proxy
/-!
Workers that take connections from a pool through its proxy, again and again, and note what they see.
-/

namespace LiveSwap.Pool

/-- What workers observed. -/
structure WorkerSummary where
  checkouts : Nat
  /-- Checkouts that were refused. -/
  errors : Nat
  /-- The serials seen, in ascending order. -/
  serials : List Nat
  /-- How often a serial was older than the one seen before it. -/
  regressions : Nat
  deriving DecidableEq, Repr

namespace WorkerSummary

def empty : WorkerSummary := ⟨0, 0, [], 0⟩

/-- Adds a serial in its place, unless it is there. -/
def insertSerial (serial : Nat) : List Nat → List Nat
  | [] => [serial]
  | other :: rest =>
    if serial < other then serial :: other :: rest
    else if serial = other then other :: rest
    else other :: insertSerial serial rest

def merge (s other : WorkerSummary) : WorkerSummary :=
  ⟨s.checkouts + other.checkouts, s.errors + other.errors,
    other.serials.foldl (fun serials serial => insertSerial serial serials) s.serials,
    s.regressions + other.regressions⟩

/-- What several workers observed together. -/
def join (summaries : List WorkerSummary) : WorkerSummary := summaries.foldl merge empty

end WorkerSummary

/-- A worker between two rounds. -/
structure Worker where
  summary : WorkerSummary
  /-- The serial of the pool it saw last. -/
  last : Option Nat
  deriving DecidableEq, Repr

namespace Worker

def start : Worker := ⟨.empty, none⟩

/-- Notes the serial of the pool at hand. -/
def see (w : Worker) (serial : Nat) : Worker :=
  ⟨{ w.summary with
      serials := WorkerSummary.insertSerial serial w.summary.serials
      regressions := w.summary.regressions + if w.last.any (serial < ·) then 1 else 0 },
    some serial⟩

/-- Counts what became of a checkout. -/
def count (w : Worker) (outcome : Except Exhausted Nat) : Worker :=
  match outcome with
  | .ok _ => { w with summary := { w.summary with checkouts := w.summary.checkouts + 1 } }
  | .error _ => { w with summary := { w.summary with errors := w.summary.errors + 1 } }

/-- One round. The serial and the checkout are those of one pool. -/
def round (proxy : Proxy) (client : String) (w : Worker) : PoolAct Worker := do
  let pool ← Act.snapshot proxy
  let outcome ← checkout pool client
  match outcome with
  | .ok _ => pure ()
  | .error e =>
    Act.log (.library ⟨.debug, "checkout failed", [("client", .text client), ("err", .text e.message)]⟩)
  return (w.see pool.serial).count outcome

end Worker

/-- A worker, the proxy that it works through, and the client that it takes connections for. -/
structure Employed where
  proxy : Proxy
  client : String
  worker : Worker

/-- So many workers for each proxy, each a client of its own. -/
def spawn (proxies : List Proxy) (perPool : Nat) : PoolAct (List Employed) := do
  let host ← get
  return proxies.flatMap fun proxy => (List.range perPool).map fun n =>
    ⟨proxy, (host.handle proxy.handle).name ++ "-worker-" ++ toString n, .start⟩

/-- One round of a worker. -/
def Employed.round (e : Employed) : PoolAct Employed := do
  let worker ← e.worker.round e.proxy e.client
  return { e with worker }

/-- What workers observed together. -/
def observed (workers : List Employed) : WorkerSummary := .join (workers.map (·.worker.summary))

end LiveSwap.Pool
