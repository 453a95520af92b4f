import LiveSwap.Forwarding.Grammar.Path
/-!
Patterns.
-/

namespace LiveSwap.Forwarding.Grammar

open Reader

/-! ### Alternatives -/

/-- Whether a bar comes next that separates alternatives. -/
def startsWithBar (ts : Tokens) : Bool := startsWithOperator "|" ts && !startsWithOperatorOf ["||", "|="] ts

/-- Alternatives with bars between them, and possibly one in front. -/
def alternatives (sub : Sub) : Reader Piece := do
  let lead ← maybeOperator "|"
  let first ← sub .pattern
  let rest ← manyWhile startsWithBar do
    let bar ← operator "|"
    return bar ++ (← sub.tokens .pattern)
  if lead.isEmpty && rest.isEmpty then return first
  return .plain (lead ++ first.tokens ++ rest.flatten)

/-- The alternatives of one place in a list of patterns. -/
def alternativeTokens (sub : Sub) : Reader Tokens := return (← alternatives sub).tokens

/-- The alternatives of one place between brackets. A range that is open at an end needs parentheses there. -/
def element (sub : Sub) : Reader Tokens := do
  let found ← alternatives sub
  require !found.isOpenRange
  return found.tokens

/-! ### Ranges -/

/-- A value at either end of a range: a literal, a block or a path. -/
def rangeEnd (sub : Sub) : Reader Tokens := do
  if ← next startsWithLiteral then literal
  else if ← nextWord "const" then return (← word "const") ++ (← body sub)
  else do
    require (← next startsPath)
    return (← path sub true).tokens

/-- Whether a range is over after its dots. -/
def endsRange (ts : Tokens) : Bool :=
  ts.isEmpty || startsWithOperatorOf ["|", "=", ",", ";"] ts || startsWithColon ts || startsWithWord "if" ts

/-- The dots of a range. Three of them mean the same as two with the sign for equality. -/
def rangeDots : Reader Tokens := do
  if ← nextOperator "..." then
    let dots ← operator "..."
    return dots.take 2 ++ Tokens.operator "="
  operatorOf ["..=", ".."]

/-- The rest of a range after its start. One that includes its end has an end. -/
def rangeRest (sub : Sub) (start : Tokens) : Reader Piece := do
  let dots ← rangeDots
  if ← next endsRange then
    require (dots.length = 2)
    return ⟨start ++ dots, .range true⟩
  return ⟨start ++ dots ++ (← rangeEnd sub), .range start.isEmpty⟩

/-- What dots at the start of a pattern are: a range without a start, or all values that are left. -/
def leadingDots (sub : Sub) : Reader Piece := do
  require !(← nextOperator "...")
  require (← nextOperator "..")
  let found ← rangeRest sub []
  return if found.tokens.length = 2 then .plain found.tokens else found

/-! ### Paths -/

/-- A field of a pattern: under a pattern of its own, or bound to its own name. -/
def fieldPattern (sub : Sub) : Reader Tokens := do
  let boxed ← maybeWord "box"
  let byReference ← maybeWord "ref"
  let mutability ← maybeWord "mut"
  let marks := boxed ++ byReference ++ mutability
  if !marks.isEmpty then return marks ++ [← name]
  let named ← next startsWithName
  let self ← fieldName
  if !named || (← nextOperator ":") then
    let colon ← operator ":"
    return self ++ colon ++ (← alternativeTokens sub)
  return self

/-- The fields of a pattern; dots for all further ones come last. -/
def fieldPatterns (sub : Sub) : Reader Tokens := do
  let fields ← entriesUpTo List.isEmpty "," do
    let attributes ← outerTokens sub
    if ← nextOperator ".." then
      let dots ← operator ".."
      require (← next List.isEmpty)
      return attributes ++ dots
    return attributes ++ (← fieldPattern sub)
  return fields.tokens "," id

/-- A pattern that starts with a path: an invocation, a constructor, a range or the path alone. -/
def pathPattern (sub : Sub) : Reader Piece := do
  let path ← path sub true
  if path.isPlain && (← next startsWithBang) then return .plain (path.tokens ++ (← invoked))
  if ← next (startsWithGroup .brace) then
    return .plain (path.tokens ++ (← grouped .brace (fieldPatterns sub)))
  if ← next (startsWithGroup .parenthesis) then
    return .plain (path.tokens ++ (← grouped .parenthesis (commaSeparated (alternativeTokens sub))))
  if ← nextOperator ".." then rangeRest sub path.tokens
  else return .plain path.tokens

/-- Whether a pattern that starts with a path comes next. -/
def startsPathPattern (ts : Tokens) : Bool :=
  let rest := ts.drop 1
  (startsWithName ts && (startsWithOperatorOf ["::", "!", ".."] rest || startsWithGroup .brace rest
      || startsWithGroup .parenthesis rest))
    || (startsWithWord "self" ts && startsWithOperator "::" rest)
    || startsWithOperatorOf ["::", "<"] ts || startsWithWordOf ["Self", "super", "crate"] ts

/-! ### All patterns -/

/-- A name that a value is bound to, with a pattern for the value itself. -/
def binding (sub : Sub) : Reader Tokens := do
  let byReference ← maybeWord "ref"
  let mutability ← maybeWord "mut"
  let self ← if ← nextWord "self" then anyWord else name
  let inner ← Reader.when (startsWithOperator "@") do
    let sign ← operator "@"
    return sign ++ (← sub.tokens .pattern)
  return byReference ++ mutability ++ self :: inner

/-- A pattern without alternatives. One behind a box stays as it stands. -/
def pattern (sub : Sub) : Reader Piece := do
  if ← next startsPathPattern then pathPattern sub
  else if ← nextWord "_" then return .plain (← word "_")
  else if ← nextWord "box" then
    return ⟨← verbatim (do let _ ← word "box"; sub .pattern), .verbatim⟩
  else if ← next fun ts => startsWithLiteral ts || startsWithWord "const" ts then
    let start ← rangeEnd sub
    if ← nextOperator ".." then rangeRest sub start else return .plain start
  else if ← next fun ts => startsWithName ts || startsWithWordOf ["ref", "mut", "self"] ts then
    return .plain (← binding sub)
  else if ← nextOperator "&" then
    let ampersand ← operator "&"
    let mutability ← maybeWord "mut"
    return .plain (ampersand ++ mutability ++ (← sub.tokens .pattern))
  else if ← next (startsWithGroup .parenthesis) then
    return .plain (← grouped .parenthesis (commaSeparated (alternativeTokens sub)))
  else if ← next (startsWithGroup .bracket) then
    return .plain (← grouped .bracket (commaSeparated (element sub)))
  else leadingDots sub

end LiveSwap.Forwarding.Grammar
