import LiveSwap.Params
/-!
How a rehearsal writes construction parameters down: a name, properties, and a descriptor given by a label
or a number.
-/

namespace LiveSwap.Rehearsal

/-- The type of descriptors that the scripted library understands. -/
def unitType : String := "host::Unit"

/-- The type of descriptors that no library understands. -/
def otherType : String := "host::Other"

structure Recipe where
  name : String
  properties : Properties
  unit : Option String
  other : Option Int
  /-- Properties that are set afterwards, in order. -/
  set : List (String × Value)

namespace Recipe

/-- The descriptor; a label wins over a number. `type` is the type that a label stands for. -/
def descriptor? (r : Recipe) (type : String) : Option Descriptor :=
  match r.unit, r.other with
  | some label, _ => some ⟨type, .text label⟩
  | none, some n => some ⟨otherType, .integer n⟩
  | none, none => none

def params (r : Recipe) (type : String) : Params :=
  r.set.foldl (fun p entry => p.withProperty entry.1 entry.2)
    (match r.descriptor? type with
      | some d => .described r.name d r.properties
      | none => .named r.name r.properties)

end Recipe

/-- What can be seen of a descriptor from outside. -/
structure DescriptorView where
  typeName : String
  debug : String
  isUnit : Bool
  isOther : Bool
  unit : Option String
  other : Option Int

def viewDescriptor (d : Descriptor) : DescriptorView where
  typeName := d.typeName
  debug := d.debug
  isUnit := (d.as? unitType).isSome
  isOther := (d.as? otherType).isSome
  unit := (d.as? unitType).bind Value.text?
  other := (d.as? otherType).bind fun
    | .integer n => some n
    | _ => none

end LiveSwap.Rehearsal
