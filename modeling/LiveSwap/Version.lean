import LiveSwap.Text.Numeral
/-!
The version string of the wrapped library, such as `4.3.11.Final`.

`LibraryVersion.parse` reads two numeric components, an optional numeric third one and a qualifier;
`LibraryVersion.display` writes them back. Only the first two decide anything; the rest is kept for
diagnostics.
-/

namespace LiveSwap

open Text (cut)

structure LibraryVersion where
  major : Int32
  minor : Int32
  /-- The third component, when it is a numeral. -/
  patch : Option Int32
  /-- Whatever follows the numeric components. -/
  qualifier : Option String
  deriving DecidableEq, Repr

/-- The components that have to be numerals. -/
inductive VersionPart where
  | major | minor
  deriving DecidableEq, Repr

def VersionPart.label : VersionPart → String
  | .major => "major"
  | .minor => "minor"

/-- Why a version string could not be read. -/
inductive VersionError where
  | tooFewComponents (raw : String) (found : Nat)
  | nonNumeric (raw : String) (part : VersionPart) (component : String)
  deriving DecidableEq, Repr

def VersionError.message : VersionError → String
  | .tooFewComponents raw found =>
    "version '" ++ raw ++ "' has " ++ toString found ++ " component(s), expected at least major.minor"
  | .nonNumeric raw part component =>
    "version '" ++ raw ++ "': " ++ part.label ++ " component '" ++ component ++ "' is not a number"

namespace LibraryVersion

/-- Splits what follows the minor component: a numeric first piece is the patch level, the rest the
qualifier. A piece that is no numeral starts the qualifier. -/
def tail : Option (List Char) → Option Int32 × Option String
  | none => (none, none)
  | some rest =>
    match Text.Numeral.read? (cut '.' rest).1 with
    | some patch => (some patch, (cut '.' rest).2.map String.ofList)
    | none => (none, some (String.ofList rest))

/-- Reads a dot-separated version. The major component is judged before the number of components. -/
def parse (raw : String) : Except VersionError LibraryVersion :=
  let (first, afterFirst) := cut '.' raw.toList
  match Text.Numeral.read? first with
  | none => .error (.nonNumeric raw .major (String.ofList first))
  | some major =>
    match afterFirst with
    | none => .error (.tooFewComponents raw 1)
    | some rest =>
      let (second, afterSecond) := cut '.' rest
      match Text.Numeral.read? second with
      | none => .error (.nonNumeric raw .minor (String.ofList second))
      | some minor =>
        let (patch, qualifier) := tail afterSecond
        .ok ⟨major, minor, patch, qualifier⟩

/-- The components in order, separated by dots. -/
def displayChars (v : LibraryVersion) : List Char :=
  Text.Numeral.write v.major ++ '.' :: Text.Numeral.write v.minor
    ++ (match v.patch with
        | none => []
        | some patch => '.' :: Text.Numeral.write patch)
    ++ (match v.qualifier with
        | none => []
        | some qualifier => '.' :: qualifier.toList)

def display (v : LibraryVersion) : String := String.ofList v.displayChars

end LibraryVersion

end LiveSwap
