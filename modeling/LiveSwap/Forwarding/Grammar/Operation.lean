import LiveSwap.Forwarding.Grammar.Operand
/-!
Operations: operands with operators between them, by how tightly the operators bind.
-/

namespace LiveSwap.Forwarding.Grammar

open Reader

/-- How tightly an operator binds, from loose to tight. -/
inductive Precedence where
  | assign
  | range
  | or
  | and
  | compare
  | bitOr
  | bitXor
  | bitAnd
  | shift
  | sum
  | product
  | cast
  deriving DecidableEq, Repr

namespace Precedence

def rank : Precedence → Nat
  | assign => 1
  | range => 2
  | or => 3
  | and => 4
  | compare => 5
  | bitOr => 6
  | bitXor => 7
  | bitAnd => 8
  | shift => 9
  | sum => 10
  | product => 11
  | cast => 12

/-- Whether an operator may stand where those that bind more loosely than `base` may not. -/
def atLeast (base : Option Precedence) (p : Precedence) : Bool := base.all fun b => b.rank ≤ p.rank

end Precedence

/-- Operators between two operands; where one starts with another, the longer one is first. The sign of an
assignment, the dots of a range and the word of a conversion are none of them. -/
def binaryOperators : List (String × Precedence) := [
  ("+=", .assign), ("-=", .assign), ("*=", .assign), ("/=", .assign), ("%=", .assign), ("^=", .assign),
  ("&=", .assign), ("|=", .assign), ("<<=", .assign), (">>=", .assign),
  ("&&", .and), ("||", .or), ("<<", .shift), (">>", .shift),
  ("==", .compare), ("<=", .compare), ("!=", .compare), (">=", .compare),
  ("+", .sum), ("-", .sum), ("*", .product), ("/", .product), ("%", .product),
  ("^", .bitXor), ("&", .bitAnd), ("|", .bitOr), ("<", .compare), (">", .compare)]

/-- The operator that comes next. -/
def binaryOperator? (ts : Tokens) : Option (String × Precedence) :=
  binaryOperators.find? fun (text, _) => startsWithOperator text ts

def startsAssignment (ts : Tokens) : Bool := startsWithOperator "=" ts && !startsWithOperator "=>" ts

/-- How tightly what comes next binds to the operand before it, if it does. -/
def upcoming? (ts : Tokens) : Option Precedence :=
  match binaryOperator? ts with
  | some (_, p) => some p
  | none =>
    if startsAssignment ts then some .assign
    else if startsWithOperator ".." ts then some .range
    else if startsWithWord "as" ts then some .cast
    else none

/-- A type behind the word of a conversion. What suffixes belong to has to be in parentheses. -/
def conversion (sub : Sub) : Reader Tokens := do
  let mark ← word "as"
  let type ← sub.tokens (.type false)
  require !(← next fun ts => startsSuffix false ts)
  return mark ++ type

mutual

/-- Adds operators that are at least as tight as `base` to a left operand. A range is no left operand, and
comparisons are not chained. -/
def extended (sub : Sub) (braces : Bool) : Nat → Option Precedence → Piece → Reader Piece
  | 0, _, left => return left
  | n + 1, base, left => do
    if left.isRange then return left
    let ts ← get
    match binaryOperator? ts with
    | some (text, p) =>
      if !p.atLeast base then return left
      require !(p = .compare && left.isComparison)
      let sign ← operator text
      let right ← rightOperand sub braces n p
      let shape := if p = .compare then .comparison else .plain
      extended sub braces n base ⟨left.tokens ++ sign ++ right, shape⟩
    | none =>
      if startsAssignment ts && Precedence.atLeast base .assign then
        let sign ← operator "="
        let right ← rightOperand sub braces n .assign
        extended sub braces n base (.plain (left.tokens ++ sign ++ right))
      else if startsWithOperator ".." ts && Precedence.atLeast base .range then
        rangeFrom sub braces left.tokens
      else if startsWithWord "as" ts && Precedence.atLeast base .cast then
        extended sub braces n base (.plain (left.tokens ++ (← conversion sub)))
      else return left

/-- The right operand of an operator. -/
def rightOperand (sub : Sub) (braces : Bool) : Nat → Precedence → Reader Tokens
  | 0, _ => failure
  | n + 1, p => do
    let first ← sub (.operand braces)
    tightened sub braces n p first

/-- Adds to a right operand whatever binds it more tightly than the operator before it does. Assignments are
taken from right to left. -/
def tightened (sub : Sub) (braces : Bool) : Nat → Precedence → Piece → Reader Tokens
  | 0, _, right => return right.tokens
  | n + 1, p, right => do
    match upcoming? (← get) with
    | some q =>
      if p.rank < q.rank || (p = .assign && q = .assign) then
        let before := (← get).length
        let right ← extended sub braces n (some q) right
        if (← get).length = before then return right.tokens
        tightened sub braces n p right
      else return right.tokens
    | none => return right.tokens

end

/-- A bound on how often the operators in some tokens take turns. -/
def turns (ts : Tokens) : Nat := 4 * ts.length + 4

/-- Adds operators that are at least as tight as `base` to a left operand. -/
def operationOn (sub : Sub) (braces : Bool) (base : Option Precedence) (left : Piece) : Reader Piece := do
  extended sub braces (turns (← get)) base left

def expression (sub : Sub) (braces : Bool) : Reader Piece := do
  operationOn sub braces none (← operand sub braces)

def scrutinee (sub : Sub) (braces : Bool) : Reader Piece := do
  operationOn sub braces (some .compare) (← operand sub braces)

/-- The end of a range. -/
def limit (sub : Sub) (braces : Bool) : Reader Piece := do
  return .plain (← rightOperand sub braces (turns (← get)) .range)

/-- An expression that stands by itself. What is over at its closing brace goes on only with a dot or a question
mark. -/
def standalone (sub : Sub) : Reader Piece := do
  let attributes ← outerTokens sub
  let marked (e : Piece) : Piece :=
    if e.isVerbatim then e else { e with tokens := attributes ++ e.tokens }
  if ← next startsBlockForm then
    let e ← blockForm sub
    if ← next fun ts => startsWithDot ts || startsWithOperator "?" ts then
      operationOn sub true none (marked (← withSuffixes sub e))
    else return marked e
  else operationOn sub true none (marked (← operand sub true))

end LiveSwap.Forwarding.Grammar
