import LiveSwap.Bootstrap
/-!
Rebuild strategies, one per capability, and their pairing.

A strategy builds and nothing else: the caller holds the handle's reload lock and installs the result.
-/

namespace LiveSwap

structure Strategy (ι σ : Type) where
  capability : Capability
  /-- Builds a fresh instance from the captured parameters; the installed instance is given as well. -/
  rebuild : Params → ι → Act ι σ (Except RebuildError ι)

namespace Strategy

variable {ι σ β γ : Type}

/-- One call for parameters that only name the resource, a builder for those with a descriptor. -/
def modern (api : ModernApi ι σ β) : Strategy ι σ where
  capability := .modern
  rebuild params _ := do
    let built ← match params.descriptor with
      | none => do
        Act.log (.creatingFromName params.name)
        api.create params.name params.properties
      | some descriptor => do
        Act.log (.buildingFromDescriptor params.name descriptor.typeName)
        match ← api.builder descriptor params.properties with
        | .error cause => pure (.error cause)
        | .ok builder => api.build builder
    pure (built.mapError (.construction params.name .modern))

/-- Deregisters the installed instance, whose failure is only logged, then builds through a fresh
configuration object. -/
def legacy (api : LegacyApi ι σ γ) : Strategy ι σ where
  capability := .legacy
  rebuild params current := do
    match ← api.deregister params.name current with
    | .error cause => Act.log (.deregistrationFailed params.name cause)
    | .ok () => pure ()
    let built ← match ← api.newConfiguration with
      | .error cause => pure (.error cause)
      | .ok configuration => do
        let (configuration, configured) ← match params.descriptor with
          | some descriptor => do
            Act.log (.configuringFromDescriptor params.name)
            api.configureDescriptor configuration descriptor params.properties
          | none => do
            Act.log (.configuringFromName params.name)
            api.configureNamed configuration params.name params.properties
        match configured with
        | .error cause => pure (.error cause)
        | .ok () => api.build configuration
    pure (built.mapError (.construction params.name .legacy))

end Strategy

/-- One strategy per capability, each in its own slot. -/
structure StrategySet (ι σ : Type) where
  legacy : Strategy ι σ
  modern : Strategy ι σ
  legacy_capability : legacy.capability = .legacy
  modern_capability : modern.capability = .modern

/-- A strategy was put into the slot of another capability. -/
structure SlotMismatch where
  slot : Capability
  given : Capability
  deriving DecidableEq, Repr

def SlotMismatch.message (m : SlotMismatch) : String :=
  "assertion \x60left == right\x60 failed: " ++ m.slot.label
    ++ " slot given a strategy for another capability\n  left: " ++ m.given.tag
    ++ "\n right: " ++ m.slot.tag

namespace StrategySet

variable {ι σ β γ : Type}

/-- Pairs two strategies; the legacy slot is checked first. -/
def pair (legacy modern : Strategy ι σ) : Except SlotMismatch (StrategySet ι σ) :=
  if hl : legacy.capability = .legacy then
    if hm : modern.capability = .modern then .ok ⟨legacy, modern, hl, hm⟩
    else .error ⟨.modern, modern.capability⟩
  else .error ⟨.legacy, legacy.capability⟩

/-- The standard strategies of a library. -/
def ofApis (legacy : LegacyApi ι σ γ) (modern : ModernApi ι σ β) : StrategySet ι σ :=
  ⟨Strategy.legacy legacy, Strategy.modern modern, rfl, rfl⟩

def select (s : StrategySet ι σ) : Capability → Strategy ι σ
  | .legacy => s.legacy
  | .modern => s.modern

theorem select_capability (s : StrategySet ι σ) (c : Capability) : (s.select c).capability = c := by
  cases c
  · exact s.legacy_capability
  · exact s.modern_capability

end StrategySet

end LiveSwap
