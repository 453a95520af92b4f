import LiveSwap.Cycle
import LiveSwap.Pool.Library
/-!
The pool library's construction APIs, and its operations on a host.
-/

namespace LiveSwap.Pool

abbrev PoolHost := Host Pool Library

abbrev PoolAct := Act Pool Library

variable {α : Type}

/-- Runs an operation of the library. -/
def onLibrary (operation : Library → α × Library) : PoolAct α :=
  modifyGet fun s => let (a, l) := operation s.library; (a, { s with library := l })

/-- A result with its error spelled out. -/
def spelled (r : Except LibraryError α) : Except Cause α := r.mapError LibraryError.message

/-- A builder primed with a descriptor. Builders are not told the resource's name, so the URL is the key. -/
structure Builder where
  url : String
  properties : Properties

def create (name : String) (ps : Properties) : PoolAct (Except LibraryError Pool) := do
  match propertyUrl ps with
  | .error e => return .error e
  | .ok url => onLibrary (·.build name url ps .modern)

def builder (d : Descriptor) (ps : Properties) : Except LibraryError Builder :=
  (unitUrl d).map fun url => ⟨url, ps⟩

def Builder.build (b : Builder) : PoolAct (Except LibraryError Pool) :=
  onLibrary (·.build b.url b.url b.properties .modern)

def modernApi : ModernApi Pool Library Builder where
  create name ps := spelled <$> create name ps
  builder d ps := pure (spelled (builder d ps))
  build b := spelled <$> b.build

/-- A configuration object; it is complete once it has a key and a URL. -/
structure Configuration where
  key : Option String
  url : Option String
  properties : Properties

namespace Configuration

def empty : Configuration := ⟨none, none, .empty⟩

/-- Takes key and URL from a descriptor. -/
def withDescriptor (c : Configuration) (d : Descriptor) (ps : Properties) :
    Configuration × Except LibraryError Unit :=
  match unitUrl d with
  | .error e => (c, .error e)
  | .ok url => (⟨some url, some url, ps⟩, .ok ())

/-- Takes the name as the key and the URL from the properties; the key stays even if there is no URL. -/
def withName (c : Configuration) (name : String) (ps : Properties) :
    Configuration × Except LibraryError Unit :=
  match propertyUrl ps with
  | .error e => ({ c with key := some name }, .error e)
  | .ok url => (⟨some name, some url, ps⟩, .ok ())

def build (c : Configuration) : PoolAct (Except LibraryError Pool) := do
  match c.key, c.url with
  | some key, some url => onLibrary (·.build key url c.properties .legacy)
  | _, _ => return .error .unconfigured

end Configuration

/-- Removes a pool from the library's registry and says so. -/
def deregister (name : String) (pool : Pool) : PoolAct Unit := do
  Act.log (.library ⟨.debug, "deregistering", [("pool", .text name), ("serial", .number pool.serial)]⟩)
  onLibrary fun l => ((), l.deregister pool)

def legacyApi : LegacyApi Pool Library Configuration where
  deregister name pool := .ok <$> deregister name pool
  newConfiguration := pure (.ok .empty)
  configureNamed c name ps := let (c, r) := c.withName name ps; pure (c, spelled r)
  configureDescriptor c d ps := let (c, r) := c.withDescriptor d ps; pure (c, spelled r)
  build c := spelled <$> c.build

/-- Asks a pool for a connection on behalf of a client. -/
def checkout (pool : Pool) (client : String) : PoolAct (Except Exhausted Nat) := do
  let outcome ← onLibrary (·.checkout pool)
  match outcome with
  | .ok id =>
    Act.log (.library ⟨.trace, "checkout",
      [("pool", .number pool.serial), ("client", .text client), ("connection", .number id)]⟩)
  | .error _ => pure ()
  return outcome

/-- The library as cycles see it. -/
def collaborators : Collaborators Pool Library where
  probe := return (← get).library.version
  strategies := .ofApis legacyApi modernApi

end LiveSwap.Pool
