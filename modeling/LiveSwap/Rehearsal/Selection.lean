import LiveSwap.Cycle
/-!
Trying out version detection and strategy selection on their own.
-/

namespace LiveSwap.Rehearsal

/-- What a version string leads to, and what is logged on the way. -/
def detectReport (raw : String) : Capability × List Notice :=
  let (result, host) := (Act.detect (pure raw)).runOn (Host.start () : Host Unit Unit)
  (match result with
    | .ok capability => capability
    | .error _ => .legacy, host.log)

/-- A library whose every call fails. -/
def idleModern : ModernApi Unit Unit Unit where
  create _ _ := pure (.error "")
  builder _ _ := pure (.error "")
  build _ := pure (.error "")

/-- A library whose every call fails. -/
def idleLegacy : LegacyApi Unit Unit Unit where
  deregister _ _ := pure (.error "")
  newConfiguration := pure (.error "")
  configureNamed _ _ _ := pure ((), .error "")
  configureDescriptor _ _ _ := pure ((), .error "")
  build _ := pure (.error "")

def idleStrategy : Capability → Strategy Unit Unit
  | .legacy => .legacy idleLegacy
  | .modern => .modern idleModern

/-- Pairs strategies of the given capabilities and selects one. -/
def selectFrom (first second wanted : Capability) : Except SlotMismatch Capability :=
  (StrategySet.pair (idleStrategy first) (idleStrategy second)).map fun s =>
    (s.select wanted).capability

end LiveSwap.Rehearsal
