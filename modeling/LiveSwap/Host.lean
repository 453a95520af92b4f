import LiveSwap.Halt
import LiveSwap.Handle
import LiveSwap.Notice
import LiveSwap.Registry
import LiveSwap.Report
import LiveSwap.Schedule
/-!
The state that handles, registries, coordinators and the wrapped library share, and the actions on it.

`ι` is the type of instances and `σ` the library's own state. An action may halt; what it changed before
stays changed.
-/

namespace LiveSwap

/-- Settings of refresh cycles. -/
structure HotSwapConfig where
  /-- The capability to use instead of asking the library. -/
  forced : Option Capability
  /-- The schedule whose ticks start a cycle. -/
  schedule : ScheduleId
  deriving DecidableEq, Repr

abbrev RegistryId := Nat
abbrev CoordinatorId := Nat

/-- What a coordinator remembers. -/
structure Coordinator where
  registry : RegistryId
  config : HotSwapConfig
  lastReport : Option Report

structure Host (ι σ : Type) where
  handles : List (Handle ι)
  registries : List Registry
  coordinators : List Coordinator
  /-- The notices not yet read, oldest first. -/
  log : List Notice
  library : σ

/-- An action on the host. -/
abbrev Act (ι σ : Type) := Effect (Host ι σ)

namespace Host

variable {ι σ : Type}

def start (library : σ) : Host ι σ := ⟨[], [], [], [], library⟩

/-- The handle at a place; places that were never given out hold an empty nameless one. -/
def handle (s : Host ι σ) (id : HandleId) : Handle ι := s.handles.getD id (Handle.create "")

def registry (s : Host ι σ) (id : RegistryId) : Registry := s.registries.getD id Registry.empty

def coordinator? (s : Host ι σ) (id : CoordinatorId) : Option Coordinator := s.coordinators[id]?

def updateHandle (s : Host ι σ) (id : HandleId) (f : Handle ι → Handle ι) : Host ι σ :=
  { s with handles := s.handles.modify id f }

def addNotice (s : Host ι σ) (n : Notice) : Host ι σ := { s with log := s.log ++ [n] }

/-- The handles of a registry in creation order. -/
def handlesOf (s : Host ι σ) (r : RegistryId) : List (Handle ι) := (s.registry r).handles.map s.handle

end Host

/-- Writes a notice to the log. -/
def Act.log {ι σ : Type} (n : Notice) : Act ι σ Unit := modify (·.addNotice n)

end LiveSwap
