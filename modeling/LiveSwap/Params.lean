/-!
The recipe a resource is built from: its name, an optional library descriptor, and free-form properties.
-/

namespace LiveSwap

/-- A property value. Integers and numbers written with a fraction part are told apart. -/
inductive Value where
  | null
  | bool (b : Bool)
  | integer (n : Int)
  | decimal (mantissa : Int) (places : Nat)
  | text (s : String)
  | list (items : List Value)
  | record (entries : List (String × Value))
  deriving Inhabited

namespace Value

/-- The value as an unsigned 64-bit integer. -/
def unsigned? : Value → Option Nat
  | .integer n => if 0 ≤ n ∧ n < 18446744073709551616 then some n.toNat else none
  | _ => none

def text? : Value → Option String
  | .text s => some s
  | _ => none

end Value

/-- Construction properties; every key occurs once. -/
structure Properties where
  entries : List (String × Value)

namespace Properties

def empty : Properties := ⟨[]⟩

def get? (ps : Properties) (key : String) : Option Value := ps.entries.lookup key

/-- Replaces the value of a key in place, or adds the key at the end. -/
def insert (ps : Properties) (key : String) (value : Value) : Properties :=
  if ps.entries.any (·.1 == key) then
    ⟨ps.entries.map fun e => if e.1 == key then (key, value) else e⟩
  else
    ⟨ps.entries ++ [(key, value)]⟩

def ofList (entries : List (String × Value)) : Properties :=
  entries.foldl (fun ps e => ps.insert e.1 e.2) empty

end Properties

/-- A library's own description of a resource. Only the library looks inside; everyone else hands it on. -/
structure Descriptor where
  typeName : String
  content : Value

namespace Descriptor

/-- The content, if the descriptor is of that type. -/
def as? (d : Descriptor) (typeName : String) : Option Value :=
  if d.typeName = typeName then some d.content else none

/-- Diagnostics show the type and nothing of the content. -/
def debug (d : Descriptor) : String := "Descriptor \x7b type: \"" ++ d.typeName ++ "\", .. \x7d"

end Descriptor

/-- Everything needed to build a fresh instance of a resource. -/
structure Params where
  name : String
  descriptor : Option Descriptor
  properties : Properties

namespace Params

/-- Parameters that name the resource and no more. -/
def named (name : String) (properties : Properties) : Params := ⟨name, none, properties⟩

/-- Parameters that carry a descriptor. -/
def described (name : String) (descriptor : Descriptor) (properties : Properties) : Params :=
  ⟨name, some descriptor, properties⟩

def withProperty (p : Params) (key : String) (value : Value) : Params :=
  { p with properties := p.properties.insert key value }

def isDetailed (p : Params) : Bool := p.descriptor.isSome

end Params

end LiveSwap
