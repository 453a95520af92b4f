import LiveSwap.Text.Identifier
import LiveSwap.Text.Quoted
/-!
Texts as identifiers of generated code.

Keywords and the underscore count as identifiers. A raw one has a mark in front, which stands for nothing by
itself.
-/

namespace LiveSwap.Forwarding

open LiveSwap.Text

/-- Why a text is no identifier. -/
inductive IdentFault where
  | empty
  | number
  | malformed (text : String)
  /-- A word that cannot be raw. -/
  | unraw (word : String)
  deriving DecidableEq, Repr

namespace IdentFault

def message : IdentFault → String
  | empty => "Ident is not allowed to be empty; use Option<Ident>"
  | number => "Ident cannot be a number; use Literal instead"
  | malformed text => Quoted.encode text ++ " is not a valid Ident"
  | unraw word => "\x60r#" ++ word ++ "\x60 cannot be a raw identifier"

end IdentFault

namespace Ident

/-- Whether a text has the form of an identifier. -/
def isWellFormed : List Char → Bool
  | [] => false
  | c :: cs => isIdentStart c && cs.all isIdentContinue

/-- The words that cannot be raw. -/
def unrawWords : List String := ["_", "super", "self", "Self", "crate"]

/-- What is wrong with a text that has no mark in front. -/
def fault? (text : String) : Option IdentFault :=
  let cs := text.toList
  if cs.isEmpty then some .empty
  else if cs.all Char.isDigit then some .number
  else if isWellFormed cs then none
  else some (.malformed text)

/-- Whether a text has the mark of a raw identifier. -/
def isRaw (text : String) : Bool := "r#".toList.isPrefixOf text.toList

/-- A text without the mark of a raw identifier. -/
def unmarked (text : String) : String :=
  if isRaw text then String.ofList (text.toList.drop 2) else text

/-- A text as an identifier, with the mark of a raw one if it has that. -/
def ofText (text : String) : Except IdentFault String :=
  match fault? (unmarked text) with
  | some fault => .error fault
  | none =>
    if isRaw text && unrawWords.contains (unmarked text) then .error (.unraw (unmarked text)) else .ok text

/-- What is an identifier stays as it is. -/
theorem eq_of_ofText {text ident : String} (h : ofText text = .ok ident) : ident = text := by
  unfold ofText at h
  split at h
  · cases h
  · split at h
    · cases h
    · exact (Except.ok.inj h).symm

end Ident

end LiveSwap.Forwarding
