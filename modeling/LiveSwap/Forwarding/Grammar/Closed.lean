import LiveSwap.Forwarding.Grammar.Item
/-!
The grammars of all forms tied together.

`read` follows forms into each other to a given depth. Forms inside a form that take no token in between are
few, so a depth in proportion to the number of tokens is enough for any text.
-/

namespace LiveSwap.Forwarding.Grammar

open Reader

/-- A reader of which nothing but its tokens matters. -/
def plainly (r : Reader Tokens) : Reader Piece := return .plain (← r)

/-- Reads a form, with a reader for the forms inside it. -/
def readWith (sub : Sub) : Form → Reader Piece
  | .type plus => typeForm sub plus
  | .bound => plainly (bound sub)
  | .arguments => plainly (angleArguments sub)
  | .pattern => pattern sub
  | .expression braces => expression sub braces
  | .operand braces => operand sub braces
  | .scrutinee braces => scrutinee sub braces
  | .limit braces => limit sub braces
  | .standalone => standalone sub
  | .statements => plainly (statements sub)
  | .item => plainly (itemForm sub)
  | .fields => plainly (namedFields sub)
  | .useTree root => useTree sub root

/-- Reads a form that others are nested in up to a depth. -/
def read : Nat → Sub
  | 0, _ => failure
  | depth + 1, form => readWith (read depth) form

end LiveSwap.Forwarding.Grammar
