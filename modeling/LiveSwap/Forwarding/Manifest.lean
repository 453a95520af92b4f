import LiveSwap.Forwarding.Ident
/-!
How generated code names the hot-swap crate, judged by the manifest of the crate that it is generated for.

A crate may depend on the hot-swap crate itself, possibly under a key of its own choice, or only on the
umbrella crate that re-exports it.
-/

namespace LiveSwap.Forwarding

/-- A dependency: its key, and the package that the key stands for if that has another name. -/
structure Dependency where
  key : String
  package : Option String
  deriving DecidableEq, Repr

structure Manifest where
  /-- The name of the crate itself. -/
  package : Option String
  dependencies : List Dependency
  devDependencies : List Dependency
  deriving DecidableEq, Repr

/-- The name of the hot-swap crate. -/
def swapCrate : String := "phoenix_swap"

/-- The name of the umbrella crate. -/
def umbrellaCrate : String := "phoenix"

/-- Where a package was found. -/
inductive Found where
  /-- It is the crate itself. -/
  | itself
  /-- It is a dependency, used under this name. -/
  | named (name : String)
  deriving DecidableEq, Repr

/-- What a key is written as in code. -/
def codeOfKey (key : String) : String :=
  String.ofList (key.toList.map fun c => if c = '-' then '_' else c)

namespace Manifest

/-- All dependencies, by ascending key within each table. -/
def ordered (m : Manifest) : List Dependency :=
  let sorted (ds : List Dependency) := ds.mergeSort fun a b => decide (a.key ≤ b.key)
  sorted m.dependencies ++ sorted m.devDependencies

/-- Finds a package. The crate's own name comes first; of several dependencies on a package the last one
counts. -/
def find? (m : Manifest) (package : String) : Option Found :=
  if m.package = some package then some .itself
  else
    (m.ordered.reverse.find? fun d => decide (d.package.getD d.key = package)).map fun d =>
      .named (codeOfKey d.key)

/-- The segments of the path to the hot-swap crate. There is none if what leads there is used under a name that
is no identifier. -/
def swapPath (m : Manifest) : Except IdentFault (List String) :=
  match m.find? swapCrate with
  | some .itself => .ok [swapCrate]
  | some (.named name) => return [← Ident.ofText name]
  | none =>
    match m.find? umbrellaCrate with
    | some (.named name) => return [← Ident.ofText name, swapCrate]
    | some .itself | none => .ok [swapCrate]

/-- The path as it is written in generated code. -/
def swapPathText (m : Manifest) : Except IdentFault String :=
  return " :: ".intercalate (← m.swapPath)

end Manifest

end LiveSwap.Forwarding
