import LiveSwap.Host
/-!
Creating handles and giving them their first instance.

A lookup that finds nothing is settled by `Host.enter`, which looks again before it creates: between the two
another caller may have created the handle.
-/

namespace LiveSwap

/-- What callers keep instead of an instance: the handle behind it never changes. -/
structure Proxy where
  handle : HandleId
  deriving DecidableEq, Repr

namespace Host

variable {ι σ : Type}

/-- The handle of a name, if the registry has one. -/
def find? (s : Host ι σ) (r : RegistryId) (name : String) : Option HandleId := (s.registry r).lookup name

/-- Creates an empty handle for a name and appends it to the registry. -/
def createHandle (s : Host ι σ) (r : RegistryId) (name : String) : Host ι σ :=
  { s with
    handles := s.handles ++ [Handle.create name]
    registries := s.registries.modify r (·.push name s.handles.length)
    log := s.log ++ [.handleCreated name] }

/-- Returns the name's handle, creating it if the registry still has none. -/
def enter (s : Host ι σ) (r : RegistryId) (name : String) : HandleId × Host ι σ :=
  match s.find? r name with
  | some id => (id, s)
  | none => (s.handles.length, s.createHandle r name)

/-- A handle's attempt to take its first instance. -/
def registerOn (s : Host ι σ) (id : HandleId) (first : ι) (params : Params) :
    Except RegisterError (Host ι σ) :=
  match (s.handle id).register first params with
  | .error e => .error e
  | .ok h => .ok { s with
      handles := s.handles.set id h
      log := s.log ++ [.registered h.name params.isDetailed] }

end Host

namespace Act

variable {ι σ : Type}

/-- A fresh empty registry. -/
def newRegistry : Act ι σ RegistryId :=
  modifyGet fun s => (s.registries.length, { s with registries := s.registries ++ [Registry.empty] })

/-- The handle of a name; every caller gets the same one. -/
def getOrCreate (r : RegistryId) (name : String) : Act ι σ HandleId := do
  match (← get).find? r name with
  | some id => pure id
  | none => modifyGet (·.enter r name)

/-- Gives a handle its first instance; a refusal changes nothing. -/
def registerOn (id : HandleId) (first : ι) (params : Params) : Act ι σ (Except RegisterError Proxy) :=
  modifyGet fun s =>
    match s.registerOn id first params with
    | .error e => (.error e, s)
    | .ok s => (.ok ⟨id⟩, s)

/-- Registers an instance under the name in its parameters. -/
def register (r : RegistryId) (first : ι) (params : Params) : Act ι σ (Except RegisterError Proxy) := do
  registerOn (← getOrCreate r params.name) first params

end Act

end LiveSwap
