import LiveSwap.Capability
import LiveSwap.Failure
import LiveSwap.Params
/-!
A library of connection pools.

Each pool built takes the next serial number, and no serial is given out twice. A pool hands out connections
up to its maximum. The library keeps a registry of the pools that were built through a configuration; a key
is in it at most once. How many connections a pool handed out is kept with the library, by serial.
-/

namespace LiveSwap

/-- A pool of connections to one database. -/
structure Pool where
  url : String
  serial : Nat
  builtBy : Capability
  maxConnections : Nat
  deriving DecidableEq, Repr

namespace Pool

/-- Why the library built no pool. -/
inductive LibraryError where
  | unreachable (url : String)
  | keyTaken (key : String)
  | unsupportedDescriptor (typeName : String)
  | missingUrl
  | unconfigured
  deriving DecidableEq, Repr

def LibraryError.message : LibraryError → String
  | unreachable url => "could not reach " ++ url
  | keyTaken key => "a pool keyed '" ++ key ++ "' is already registered"
  | unsupportedDescriptor typeName => "unsupported descriptor " ++ typeName
  | missingUrl => "missing 'url' property"
  | unconfigured => "configuration built before it was configured"

/-- A pool has no connection left. -/
structure Exhausted where
  url : String
  max : Nat
  deriving DecidableEq, Repr

def Exhausted.message (e : Exhausted) : String :=
  "pool " ++ e.url ++ " exhausted after " ++ toString e.max ++ " connections"

structure Library where
  version : String
  /-- The next serial. It has no bound here; a counter of 64 bits gives the same serials to the first 2^64 pools. -/
  nextSerial : Nat
  /-- The registry: keys with the serials of their pools. -/
  registered : List (String × Nat)
  /-- Keys whose next build fails, once for each mention. -/
  failing : List String
  /-- How often a connection was asked for, by serial; without a bound, like the serials. -/
  handedOut : Nat → Nat

/-- The type of the descriptors that the library understands; they hold a URL. -/
def unitType : String := "example::pool::PoolUnit"

/-- The maximum of pools whose properties name none. -/
def defaultMax : Nat := 16

/-- The URL in a descriptor. -/
def unitUrl (d : Descriptor) : Except LibraryError String :=
  match (d.as? unitType).bind Value.text? with
  | some url => .ok url
  | none => .error (.unsupportedDescriptor d.typeName)

/-- The URL among properties. -/
def propertyUrl (ps : Properties) : Except LibraryError String :=
  match (ps.get? "url").bind Value.text? with
  | some url => .ok url
  | none => .error .missingUrl

/-- The maximum among properties, if it is a number that a pool can count to. -/
def maxOf (ps : Properties) : Nat := ((ps.get? "max_connections").bind Value.unsigned?).getD defaultMax

namespace Library

def start (version : String) : Library := ⟨version, 0, [], [], fun _ => 0⟩

def setVersion (l : Library) (version : String) : Library := { l with version }

/-- Makes the next build under a key fail. -/
def failNext (l : Library) (key : String) : Library := { l with failing := l.failing ++ [key] }

/-- Forgets a pool. -/
def deregister (l : Library) (pool : Pool) : Library :=
  { l with registered := l.registered.filter fun entry => entry.2 ≠ pool.serial }

/-- Builds a pool under a key. A failure that was asked for uses no serial; a key that is taken does. -/
def build (l : Library) (key url : String) (ps : Properties) (builtBy : Capability) :
    Except LibraryError Pool × Library :=
  if key ∈ l.failing then (.error (.unreachable url), { l with failing := l.failing.erase key })
  else
    let pool : Pool := ⟨url, l.nextSerial, builtBy, maxOf ps⟩
    let l := { l with nextSerial := l.nextSerial + 1 }
    match builtBy with
    | .modern => (.ok pool, l)
    | .legacy =>
      if l.registered.any fun entry => entry.1 = key then (.error (.keyTaken key), l)
      else (.ok pool, { l with registered := l.registered ++ [(key, pool.serial)] })

/-- Opens the first pool of a resource, under the resource's name. -/
def openPool (l : Library) (params : Params) : Except LibraryError Pool × Library :=
  let url := match params.descriptor with
    | some d => unitUrl d
    | none => propertyUrl params.properties
  match url with
  | .error e => (.error e, l)
  | .ok url => l.build params.name url params.properties .modern

/-- Asks a pool for a connection. Asking counts even if nothing is left. -/
def checkout (l : Library) (pool : Pool) : Except Exhausted Nat × Library :=
  let id := l.handedOut pool.serial
  let l := { l with handedOut := fun s => if s = pool.serial then id + 1 else l.handedOut s }
  (if pool.maxConnections ≤ id then .error ⟨pool.url, pool.maxConnections⟩ else .ok id, l)

end Library

end Pool

end LiveSwap
