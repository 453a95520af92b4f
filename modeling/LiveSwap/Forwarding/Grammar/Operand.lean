import LiveSwap.Forwarding.Grammar.Control
import LiveSwap.Text.Pieces
/-!
Operands: expressions without operators between operands.
-/

namespace LiveSwap.Forwarding.Grammar

open Reader

/-! ### Atoms -/

/-- A tuple, or an expression in parentheses. -/
def tuple (sub : Sub) : Reader Tokens := grouped .parenthesis (commaSeparated (sub.tokens (.expression true)))

/-- What brackets hold in an expression: elements, or one element and how often it is repeated. -/
def arrayContent (sub : Sub) : Reader Tokens := do
  if ← next List.isEmpty then return []
  let first ← sub.tokens (.expression true)
  if ← nextOperator ";" then
    let semicolon ← operator ";"
    return first ++ semicolon ++ (← sub.tokens (.expression true))
  if ← next List.isEmpty then return first
  let comma ← operator ","
  return first ++ comma ++ (← commaSeparated (sub.tokens (.expression true)))

/-- A field with its value. A name may stand for both. -/
def fieldValue (sub : Sub) : Reader Tokens := do
  let attributes ← outerTokens sub
  let named ← next startsWithName
  let self ← fieldName
  if !named || (← nextOperator ":") then
    let colon ← operator ":"
    return attributes ++ self ++ colon ++ (← sub.tokens (.expression true))
  return attributes ++ self

/-- The fields of a value. Dots for all further ones come last, with what they are taken from. -/
def fieldValues (sub : Sub) : Reader Tokens := do
  let fields ← entriesUpTo List.isEmpty "," do
    if ← nextOperator ".." then
      let dots ← operator ".."
      let base ← Reader.when (fun ts => !ts.isEmpty) (sub.tokens (.expression true))
      require (← next List.isEmpty)
      return dots ++ base
    fieldValue sub
  return fields.tokens "," id

/-- An expression that starts with a path: an invocation, a value with fields, or the path alone. -/
def pathExpression (sub : Sub) (braces : Bool) : Reader Piece := do
  let path ← path sub true
  if path.isPlain && (← next startsWithBang) then
    let invoked ← invoked
    return ⟨path.tokens ++ invoked, .invocation (Piece.plain invoked).endsInBrace⟩
  if braces && (← next startsBlock) then
    return .plain (path.tokens ++ (← grouped .brace (fieldValues sub)))
  return .plain path.tokens

/-- A pattern held against a value. -/
def patternTest (sub : Sub) (braces : Bool) : Reader Tokens := do
  let mark ← word "let"
  let shape ← alternativeTokens sub
  let sign ← operator "="
  return mark ++ shape ++ sign ++ (← sub.tokens (.scrutinee braces))

/-- The dots of a range. -/
def limitDots : Reader Tokens := do
  require !(← nextOperator "...")
  operatorOf ["..=", ".."]

/-- Whether nothing follows the dots of a range that could be its end. -/
def endsUnlimited (braces : Bool) (ts : Tokens) : Bool :=
  ts.isEmpty || startsWithDot ts || (!braces && startsBlock ts) || startsWithWord "as" ts
    || startsWithOperatorOf [",", ";", "?", "=>", "=", "+", "/", "%", "^", ">", "<=", "!=", "-=", "*=", "&=", "|=",
      "<<="] ts

/-- A range from its dots on. One that includes its end has an end. -/
def rangeFrom (sub : Sub) (braces : Bool) (start : Tokens) : Reader Piece := do
  let dots ← limitDots
  if dots.length = 2 && (← next (endsUnlimited braces)) then return ⟨start ++ dots, .range true⟩
  return ⟨start ++ dots ++ (← sub.tokens (.limit braces)), .range start.isEmpty⟩

/-- Something that only the compiler knows: `builtin # name (…)`. -/
def intrinsic : Reader Unit := do
  let _ ← word "builtin"
  let _ ← operator "#"
  let _ ← name
  discard (anyGroup .parenthesis)

/-- Whether an expression that starts with a path comes next. -/
def startsPathExpression (ts : Tokens) : Bool :=
  let rest := ts.drop 1
  startsPath ts || (startsWithWord "try" ts && startsWithOperatorOf ["!", "::"] rest)

/-- An expression that neither operators nor suffixes take part in. -/
def atom (sub : Sub) (braces : Bool) : Reader Piece := do
  if ← next startsWithLiteral then return .plain (← literal)
  else if ← next startsLaterBlock then return .plain (← laterBlock sub)
  else if ← next (startsMarkedBlock "try") then blockForm sub
  else if ← next startsClosure then return .plain (← closure sub braces)
  else if ← next fun ts => startsWithWord "builtin" ts && startsWithOperator "#" (ts.drop 1) then
    return ⟨← verbatim intrinsic, .verbatim⟩
  else if ← next startsPathExpression then pathExpression sub braces
  else if ← next (startsWithGroup .parenthesis) then return .plain (← tuple sub)
  else if ← nextWord "break" then return .plain (← breakJump sub braces)
  else if ← nextWord "continue" then return .plain (← continueJump)
  else if ← nextWord "return" then return .plain (← jump sub "return")
  else if ← nextWord "yield" then return .plain (← jump sub "yield")
  else if ← nextWord "become" then
    return ⟨← verbatim (do let _ ← word "become"; sub (.expression true)), .verbatim⟩
  else if ← next (startsWithGroup .bracket) then return .plain (← grouped .bracket (arrayContent sub))
  else if ← nextWord "let" then return .plain (← patternTest sub braces)
  else if ← nextOperator ".." then rangeFrom sub braces []
  else if ← nextWord "_" then return .plain (← word "_")
  else blockForm sub

/-! ### Suffixes -/

/-- Fields by place that a literal with points in it names, each behind a dot of its own. -/
def placesOf (text : String) (p : Position) : Option Tokens := do
  let parts := Text.pieces '.' text.toList
  let places ← (parts.filter fun part => !part.isEmpty).mapM fun part => Literal.place? (String.ofList part)
  let fields := places.map fun n => [Token.literal (toString n) p]
  return (fields.intersperse (Tokens.operator ".")).flatten

/-- What follows a dot: fields by place, a wait, a method with its arguments, or a field by name. A point at the
end of a literal is one more dot. -/
def member (sub : Sub) : Reader Tokens := do
  let dot ← operator "."
  let places ← Reader.when startsWithPlaces do
    match ← any with
    | .literal text p =>
      let some places := placesOf text p | failure
      return if text.endsWith "." then places ++ Tokens.operator "." else places
    | _ => failure
  if !places.isEmpty && !endsInDot places then return dot ++ places
  if ← nextWord "await" then return dot ++ places ++ (← word "await")
  if !(← next startsWithName) then return dot ++ places ++ (← place)
  let self ← name
  let arguments ← Reader.when (startsWithOperator "::") do
    require (← next (opensArguments true))
    sub.tokens .arguments
  let call ← Reader.when (fun ts => !arguments.isEmpty || startsWithGroup .parenthesis ts) (tuple sub)
  return dot ++ places ++ self :: arguments ++ call
where
  /-- Whether a number with a point in it comes next. -/
  startsWithPlaces : Tokens → Bool
    | .literal text _ :: _ => text.toList.head?.any Char.isDigit && text.toList.contains '.'
    | _ => false
  endsInDot (ts : Tokens) : Bool := ts.getLast?.any (·.isPunct '.')

/-- Whether something comes next that belongs to what is before it. A range takes arguments and an index alone. -/
def startsSuffix (afterRange : Bool) (ts : Tokens) : Bool :=
  startsWithGroup .parenthesis ts || startsWithGroup .bracket ts
    || (!afterRange && (startsWithDot ts || startsWithOperator "?" ts))

def suffix (sub : Sub) : Reader Tokens := do
  if ← next (startsWithGroup .parenthesis) then tuple sub
  else if ← next (startsWithGroup .bracket) then grouped .bracket (sub.tokens (.expression true))
  else if ← nextOperator "?" then operator "?"
  else member sub

/-- Adds all suffixes that come next. -/
def withSuffixes (sub : Sub) (e : Piece) : Reader Piece := do
  if ← next (startsSuffix e.isRange) then
    let first ← suffix sub
    let rest ← manyWhile (startsSuffix false) (suffix sub)
    return .plain (e.tokens ++ first ++ rest.flatten)
  return e

/-! ### Signs -/

/-- The ampersand of a borrow, and what kind of borrow it is. -/
def borrowMark : Reader Tokens := do
  let ampersand ← operator "&"
  if ← next fun ts => startsWithWord "raw" ts && startsWithWordOf ["mut", "const"] (ts.drop 1) then
    return ampersand ++ (← word "raw") ++ (← wordOf ["mut", "const"])
  return ampersand ++ (← maybeWord "mut")

/-- An operand: attributes, signs, an atom and suffixes. What stays as it stands does so with its attributes, and
no attribute goes with a range. -/
def operand (sub : Sub) (braces : Bool) : Reader Piece := do
  let before ← get
  let attributes ← outerTokens sub
  if ← nextOperator "&" then
    return .plain (attributes ++ (← borrowMark) ++ (← sub.tokens (.operand braces)))
  if ← next (startsWithOperatorOf ["*", "!", "-"]) then
    return .plain (attributes ++ (← operatorOf ["*", "!", "-"]) ++ (← sub.tokens (.operand braces)))
  let e ← withSuffixes sub (← atom sub braces)
  if e.isVerbatim then return { e with tokens := before.take (before.length - (← get).length) }
  require (attributes.isEmpty || !e.isRange)
  return { e with tokens := attributes ++ e.tokens }

end LiveSwap.Forwarding.Grammar
