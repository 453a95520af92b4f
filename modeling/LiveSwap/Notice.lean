import LiveSwap.Event
import LiveSwap.Failure
/-!
What the hot-swap core reports while it works, and the log event that each report is written as.
-/

namespace LiveSwap

inductive Notice where
  | versionDetected (version : LibraryVersion) (capability : Capability)
  | versionUnreadable (raw : String) (error : VersionError)
  | handleCreated (resource : String)
  | registered (resource : String) (detailed : Bool)
  | unregisteredSkipped (resource : String)
  | creatingFromName (resource : String)
  | buildingFromDescriptor (resource descriptorType : String)
  | configuringFromName (resource : String)
  | configuringFromDescriptor (resource : String)
  | deregistrationFailed (resource : String) (cause : Cause)
  | rebuilt (resource : String) (capability : Capability) (generation : UInt64)
  | rebuildFailed (resource : String) (capability : Capability) (error : RebuildError)
  | cycleStarted (capability : Capability) (handles : Nat)
  | cycleCompleted (capability : Capability) (refreshed failed skipped : Nat)
  | hotSwapReady (resources : Nat) (schedule : String) (forced : Option Capability)
  | coordinatorMissing
  | hotSwapStopping (resources : Nat)
  /-- An event of the wrapped library itself. -/
  | library (event : Event)
  deriving DecidableEq, Repr

namespace Notice

/-- An optional capability as diagnostics show it. -/
def optionalTag : Option Capability → String
  | none => "None"
  | some capability => "Some(" ++ capability.tag ++ ")"

def event : Notice → Event
  | .versionDetected version capability =>
    ⟨.debug, "detected library capability",
      [("version", .text version.display), ("capability", .text capability.tag)]⟩
  | .versionUnreadable raw error =>
    ⟨.warn, "unable to read library version, falling back to legacy rebuilds",
      [("version", .text raw), ("error", .text error.message)]⟩
  | .handleCreated resource => ⟨.debug, "created resource handle", [("resource", .text resource)]⟩
  | .registered resource detailed =>
    ⟨.debug, "registered resource", [("resource", .text resource), ("detailed", .flag detailed)]⟩
  | .unregisteredSkipped resource =>
    ⟨.debug, "skipping refresh of unregistered resource", [("resource", .text resource)]⟩
  | .creatingFromName resource =>
    ⟨.trace, "creating instance from name", [("resource", .text resource)]⟩
  | .buildingFromDescriptor resource descriptorType =>
    ⟨.trace, "building instance from descriptor",
      [("resource", .text resource), ("descriptor", .text descriptorType)]⟩
  | .configuringFromName resource =>
    ⟨.trace, "configuring from name", [("resource", .text resource)]⟩
  | .configuringFromDescriptor resource =>
    ⟨.trace, "configuring from descriptor", [("resource", .text resource)]⟩
  | .deregistrationFailed resource cause =>
    ⟨.warn, "failed to deregister instance, rebuilding anyway",
      [("resource", .text resource), ("error", .text cause)]⟩
  | .rebuilt resource capability generation =>
    ⟨.info, "resource rebuilt",
      [("resource", .text resource), ("capability", .text capability.label),
        ("generation", .number generation.toNat)]⟩
  | .rebuildFailed resource capability error =>
    ⟨.error, "rebuild failed, keeping previous instance",
      [("resource", .text resource), ("capability", .text capability.label),
        ("error", .text error.message)]⟩
  | .cycleStarted capability handles =>
    ⟨.debug, "starting refresh cycle",
      [("capability", .text capability.label), ("handles", .number handles)]⟩
  | .cycleCompleted capability refreshed failed skipped =>
    ⟨.info, "refresh cycle complete",
      [("capability", .text capability.label), ("refreshed", .number refreshed),
        ("failed", .number failed), ("skipped", .number skipped)]⟩
  | .hotSwapReady resources schedule forced =>
    ⟨.info, "hot-swap ready",
      [("resources", .number resources), ("schedule", .text schedule),
        ("forced_capability", .text (optionalTag forced))]⟩
  | .coordinatorMissing => ⟨.warn, "refresh requested but no coordinator is published", []⟩
  | .hotSwapStopping resources => ⟨.info, "hot-swap shutting down", [("resources", .number resources)]⟩
  | .library event => event

end Notice

end LiveSwap
