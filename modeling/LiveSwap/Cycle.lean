import LiveSwap.Refresh
/-!
Refresh cycles.

A cycle asks the library for its version once, picks the strategy, and refreshes every handle that exists at
that moment, one after the other, whatever becomes of the ones before.
-/

namespace LiveSwap

/-- Asks the library for its version and decides the capability; a version that cannot be read is logged and
counts as legacy. -/
def Act.detect {ι σ : Type} (probe : Act ι σ String) : Act ι σ Capability := do
  let raw ← probe
  match LibraryVersion.parse raw with
  | .ok version =>
    Act.log (.versionDetected version (.ofVersion version))
    pure (.ofVersion version)
  | .error error =>
    Act.log (.versionUnreadable raw error)
    pure .legacy

/-- What a coordinator works with: the library's version string and the two strategies. -/
structure Collaborators (ι σ : Type) where
  probe : Act ι σ String
  strategies : StrategySet ι σ

namespace Collaborators

variable {ι σ : Type}

/-- The capability the next cycle would use. -/
def capability (c : Collaborators ι σ) (config : HotSwapConfig) : Act ι σ Capability :=
  match config.forced with
  | some forced => pure forced
  | none => Act.detect c.probe

/-- Refreshes the handles in order and files each outcome. -/
def refreshEach (strategy : Strategy ι σ) : List HandleId → Report → Act ι σ Report
  | [], report => pure report
  | id :: ids, report => do
    let outcome ← Act.refreshWith id strategy
    let name := ((← get).handle id).name
    refreshEach strategy ids (report.record name outcome)

/-- One cycle over a registry. -/
def cycle (c : Collaborators ι σ) (registry : RegistryId) (config : HotSwapConfig) : Act ι σ Report := do
  let capability ← c.capability config
  let handles := ((← get).registry registry).handles
  Act.log (.cycleStarted capability handles.length)
  let report ← refreshEach (c.strategies.select capability) handles (.start capability)
  Act.log (.cycleCompleted capability report.refreshed.length report.failed.length report.skipped.length)
  pure report

/-- Refreshes every handle of a coordinator's registry and keeps the report. A coordinator that does not
exist refreshes nothing. -/
def refreshAll (c : Collaborators ι σ) (id : CoordinatorId) : Act ι σ (Option Report) := do
  match (← get).coordinator? id with
  | none => pure none
  | some coordinator => do
    let report ← c.cycle coordinator.registry coordinator.config
    modify fun s => { s with
      coordinators := s.coordinators.modify id fun k => { k with lastReport := some report } }
    pure (some report)

/-- Refreshes one handle by name. The last report stays as it is. -/
def refresh (c : Collaborators ι σ) (id : CoordinatorId) (name : String) : Act ι σ (Option Outcome) := do
  match (← get).coordinator? id with
  | none => pure none
  | some coordinator =>
    match ((← get).registry coordinator.registry).lookup name with
    | none => pure none
    | some handle => do
      let capability ← c.capability coordinator.config
      some <$> Act.refreshWith handle (c.strategies.select capability)

end Collaborators

namespace Act

variable {ι σ : Type}

/-- A coordinator without a report. -/
def newCoordinator (registry : RegistryId) (config : HotSwapConfig) : Act ι σ CoordinatorId :=
  modifyGet fun s =>
    (s.coordinators.length, { s with coordinators := s.coordinators ++ [⟨registry, config, none⟩] })

end Act

end LiveSwap
