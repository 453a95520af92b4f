import LiveSwap.Host
/-!
The wrapped library's construction APIs.

Each operation is an action on the whole host, so a library may call back into the registry it serves. It
answers with a cause when it fails; it may also halt. `β` is the type of its builders, `γ` that of its
configuration objects.
-/

namespace LiveSwap

/-- The factory and builder API. -/
structure ModernApi (ι σ β : Type) where
  /-- Builds an instance in one call. -/
  create : String → Properties → Act ι σ (Except Cause ι)
  /-- A builder primed with a descriptor. -/
  builder : Descriptor → Properties → Act ι σ (Except Cause β)
  /-- Builds with a primed builder. -/
  build : β → Act ι σ (Except Cause ι)

/-- The configuration API. A configuration object may change even when configuring it fails. -/
structure LegacyApi (ι σ γ : Type) where
  /-- Removes an instance from the library's own registry. -/
  deregister : String → ι → Act ι σ (Except Cause Unit)
  newConfiguration : Act ι σ (Except Cause γ)
  configureNamed : γ → String → Properties → Act ι σ (γ × Except Cause Unit)
  configureDescriptor : γ → Descriptor → Properties → Act ι σ (γ × Except Cause Unit)
  build : γ → Act ι σ (Except Cause ι)

/-- A library without a registry of its own has nothing to deregister from. -/
def LegacyApi.withoutDeregister {ι σ γ : Type} (api : LegacyApi ι σ γ) : LegacyApi ι σ γ :=
  { api with deregister := fun _ _ => pure (.ok ()) }

end LiveSwap
