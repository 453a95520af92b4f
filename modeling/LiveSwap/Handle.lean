import LiveSwap.Failure
import LiveSwap.Params
import LiveSwap.Text.Quoted
/-!
A handle: the stable identity of one named resource.

It starts empty, takes its first instance and the parameters once, and from then on only exchanges the
instance. `ι` is the type of instances.
-/

namespace LiveSwap

/-- What a registered handle holds. -/
structure Installed (ι : Type) where
  params : Params
  current : ι

structure Handle (ι : Type) where
  name : String
  installed : Option (Installed ι)
  /-- How often the instance was exchanged, in a word that wraps. -/
  generation : UInt64
  /-- Whether the reload lock is held: a rebuild is under way. -/
  reloading : Bool

namespace Handle

variable {ι : Type}

def create (name : String) : Handle ι := ⟨name, none, 0, false⟩

def isRegistered (h : Handle ι) : Bool := h.installed.isSome

def params? (h : Handle ι) : Option Params := h.installed.map (·.params)

def current? (h : Handle ι) : Option ι := h.installed.map (·.current)

/-- Takes the first instance together with its parameters. The name is judged before the handle's state. -/
def register (h : Handle ι) (first : ι) (params : Params) : Except RegisterError (Handle ι) :=
  if params.name = h.name then
    match h.installed with
    | none => .ok { h with installed := some ⟨params, first⟩ }
    | some _ => .error (.alreadyRegistered h.name)
  else .error (.nameMismatch h.name params.name)

/-- Exchanges the instance and counts it; an empty handle has nothing to exchange. -/
def swap (h : Handle ι) (fresh : ι) : Handle ι :=
  match h.installed with
  | none => h
  | some i => { h with installed := some { i with current := fresh }, generation := h.generation + 1 }

/-- Diagnostics show the name, the state and the generation. -/
def debug (h : Handle ι) : String :=
  "ResourceHandle \x7b name: " ++ Text.Quoted.encode h.name
    ++ ", registered: " ++ (if h.isRegistered then "true" else "false")
    ++ ", generation: " ++ toString h.generation ++ ", .. \x7d"

/-- Diagnostics of a proxy show the handle behind it. -/
def proxyDebug (h : Handle ι) : String := "ForwardingProxy \x7b handle: " ++ h.debug ++ " \x7d"

@[simp] theorem create_name (name : String) : (create name : Handle ι).name = name := rfl

@[simp] theorem create_installed (name : String) : (create name : Handle ι).installed = none := rfl

@[simp] theorem swap_name (h : Handle ι) (fresh : ι) : (h.swap fresh).name = h.name := by
  unfold swap; split <;> rfl

/-- Exchanging the instance leaves the parameters alone. -/
@[simp] theorem swap_params? (h : Handle ι) (fresh : ι) : (h.swap fresh).params? = h.params? := by
  unfold swap params?; split <;> simp_all

/-- A registered handle serves the fresh instance. -/
theorem swap_current? {h : Handle ι} (fresh : ι) (hr : h.isRegistered) :
    (h.swap fresh).current? = some fresh := by
  unfold swap current?
  cases hi : h.installed with
  | none => simp [isRegistered, hi] at hr
  | some i => simp

end Handle

end LiveSwap
