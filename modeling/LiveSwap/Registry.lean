import LiveSwap.Text.Quoted
/-!
Names and the handles they stand for, in the order in which the handles were created.
-/

namespace LiveSwap

/-- The place of a handle among all handles. -/
abbrev HandleId := Nat

structure Registry where
  entries : List (String × HandleId)

namespace Registry

def empty : Registry := ⟨[]⟩

def lookup (r : Registry) (name : String) : Option HandleId := r.entries.lookup name

def contains (r : Registry) (name : String) : Bool := (r.lookup name).isSome

def size (r : Registry) : Nat := r.entries.length

def isEmpty (r : Registry) : Bool := r.entries.isEmpty

def names (r : Registry) : List String := r.entries.map (·.1)

def handles (r : Registry) : List HandleId := r.entries.map (·.2)

/-- Appends a name that is not there yet. -/
def push (r : Registry) (name : String) (id : HandleId) : Registry := ⟨r.entries ++ [(name, id)]⟩

/-- Diagnostics show the names. -/
def debug (r : Registry) : String :=
  "ResourceRegistry \x7b names: " ++ Text.Quoted.encodeList r.names ++ " \x7d"

@[simp] theorem names_push (r : Registry) (name : String) (id : HandleId) :
    (r.push name id).names = r.names ++ [name] := by
  simp [push, names]

@[simp] theorem handles_push (r : Registry) (name : String) (id : HandleId) :
    (r.push name id).handles = r.handles ++ [id] := by
  simp [push, handles]

end Registry

end LiveSwap
