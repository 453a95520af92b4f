import LiveSwap.Text.Alphanumeric
import LiveSwap.Text.Blank
import LiveSwap.Text.Pieces
/-!
Filter directives: targets and levels, separated by commas.

A directive names a target, or a target and a level after an equals sign. Only the form is judged here: its
first character, and the level if there is one.
-/

namespace LiveSwap.Tracing

/-- Why a filter was rejected. -/
inductive FilterError where
  | invalidDirective
  | invalidLevel
  deriving DecidableEq, Repr

def FilterError.message : FilterError → String
  | .invalidDirective => "invalid filter directive"
  | .invalidLevel =>
    "error parsing level filter: expected one of \"off\", \"error\", \"warn\", \"info\", \"debug\", \"trace\", or a number 0-5"

/-- The spelled-out levels, in lower case. -/
def levelWords : List String := ["off", "error", "warn", "info", "debug", "trace"]

/-- A level is a word in any case or a number from 0 to 5. -/
def isLevel (text : List Char) : Bool :=
  levelWords.any (fun word => decide (word.toList = text.map Char.toLower)) || isLevelNumber text
where
  isLevelNumber : List Char → Bool
    | [] => false
    | '+' :: [] => false
    | '+' :: ds => inRange ds
    | ds => inRange ds
  inRange (ds : List Char) : Bool :=
    ds.all Char.isDigit && ds.foldl (fun n d => 10 * n + (d.toNat - 48)) 0 ≤ 5

/-- Whether a target may start with the character. -/
def startsTarget (c : Char) : Bool :=
  Text.isAlphanumeric c || c == '-' || c == ':' || c == '_'

/-- The level of a directive, if it has an equals sign. Where the sign stands is found in the trimmed
directive, the level is what follows that place in the untrimmed one: blanks on either side spoil it. -/
def levelText? (piece : List Char) : Option (List Char) :=
  ((Text.trim piece).idxOf? '=').map fun i => piece.drop (i + 1)

/-- Judges one directive. -/
def checkDirective (piece : List Char) : Except FilterError Unit :=
  match Text.trim piece with
  | [] => .error .invalidDirective
  | c :: _ =>
    if startsTarget c then
      match levelText? piece with
      | none | some [] => .ok ()
      | some level => if isLevel level then .ok () else .error .invalidLevel
    else .error .invalidDirective

/-- Judges a filter: the first bad directive decides, empty ones are skipped. -/
def checkFilter (filter : String) : Except FilterError Unit :=
  ((Text.pieces ',' filter.toList).filter fun piece => !piece.isEmpty).forM checkDirective

end LiveSwap.Tracing
