import LiveSwap.Forwarding.Grammar.Operation
/-!
Statements.
-/

namespace LiveSwap.Forwarding.Grammar

open Reader

/-- A statement, and whether further ones may follow it. -/
structure StatementPiece where
  tokens : Tokens
  isOver : Bool

/-- A binding of values. One that can fail has a block for that; no brace comes in front of it. -/
def letStatement (sub : Sub) : Reader Tokens := do
  let mark ← word "let"
  let shape ← sub.tokens .pattern
  let type ← Reader.when (startsWithOperator ":") do
    let colon ← operator ":"
    return colon ++ (← sub.tokens (.type true))
  let value ← Reader.when (startsWithOperator "=") do
    let sign ← operator "="
    let value ← sub (.expression true)
    let otherwise ← Reader.when (fun ts => !value.endsInBrace && startsWithWord "else" ts) do
      let mark ← word "else"
      return mark ++ (← block sub)
    return sign ++ value.tokens ++ otherwise
  return mark ++ shape ++ type ++ value ++ (← operator ";")

/-- What follows the plain path that comes next, if one does. -/
def afterPlainPath (ts : Tokens) : Tokens := ((plainPath.run ts).map (·.2)).getD []

/-- Whether an invocation comes next that is a statement of its own: one with braces that no suffix follows. -/
def startsBracedInvocation (ts : Tokens) : Bool :=
  let rest := afterPlainPath ts
  startsWithOperator "!" rest && startsBlock (rest.drop 1)
    && !(startsWithDot (rest.drop 2) || startsWithOperator "?" (rest.drop 2))

/-- Whether an invocation comes next that declares what it names. -/
def startsNamedInvocation (ts : Tokens) : Bool :=
  let rest := afterPlainPath ts
  startsWithOperator "!" rest && (startsWithName (rest.drop 1) || startsWithWord "try" (rest.drop 1))

/-- Whether an item comes next, and no expression that starts with the same word. -/
def startsItem (ts : Tokens) : Bool :=
  let rest := afterFirst ts
  let third := afterSecond ts
  startsWithWordOf ["pub", "extern", "use", "fn", "mod", "type", "struct", "enum", "trait", "impl", "macro"] ts
    || (startsWithWord "crate" ts && !startsWithOperator "::" rest)
    || (startsWithWord "static" ts && (startsWithWord "mut" rest || startsWithName rest))
    || (startsWithWord "const" ts
      && !(startsBlock rest || startsWithWordOf ["static", "move"] rest || startsWithOperator "|" rest
        || (startsWithWord "async" rest && !startsWithWordOf ["unsafe", "extern", "fn"] third)))
    || (startsWithWord "unsafe" ts && !startsBlock rest)
    || (startsWithWord "async" ts && startsWithWordOf ["unsafe", "extern", "fn"] rest)
    || (startsWithWord "union" ts && startsWithName rest)
    || (startsWithWord "auto" ts && startsWithWord "trait" rest)
    || (startsWithWord "default" ts && startsWithWordOf ["unsafe", "impl"] rest)
    || startsNamedInvocation ts

/-- An expression as a statement. One that stays as it stands loses its attributes. -/
def expressionStatement (sub : Sub) (attributes : Tokens) : Reader StatementPiece := do
  let e ← sub .standalone
  let semicolon ← maybeOperator ";"
  let isOver := !semicolon.isEmpty || match e.shape with
    | .block => true
    | .invocation braced => braced
    | _ => false
  let attributes := if e.isVerbatim then [] else attributes
  return ⟨attributes ++ e.tokens ++ semicolon, isOver⟩

def statement (sub : Sub) : Reader StatementPiece := do
  let before ← get
  let attributes ← outerTokens sub
  if ← next startsBracedInvocation then
    let path ← plainPath
    let invoked ← invoked
    return ⟨attributes ++ path ++ invoked ++ (← maybeOperator ";"), true⟩
  else if ← nextWord "let" then return ⟨attributes ++ (← letStatement sub), true⟩
  else if ← next startsItem then
    set before
    return ⟨← sub.tokens .item, true⟩
  else expressionStatement sub attributes

/-- Statements up to the end. Semicolons may stand between any two; what needs one to be over has one, unless it
comes last. -/
def statements (sub : Sub) : Reader Tokens := do go (← get).length
where
  go : Nat → Reader Tokens
    | 0 => return []
    | n + 1 => do
      if ← next List.isEmpty then return []
      if ← nextOperator ";" then return (← operator ";") ++ (← go n)
      let s ← statement sub
      require (s.isOver || (← next List.isEmpty))
      return s.tokens ++ (← go n)

end LiveSwap.Forwarding.Grammar
