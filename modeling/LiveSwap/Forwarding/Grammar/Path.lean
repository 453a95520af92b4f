import LiveSwap.Forwarding.Grammar.Form
/-!
Paths and their arguments.
-/

namespace LiveSwap.Forwarding.Grammar

open Reader

/-- The type that is returned, after an arrow. -/
def output (sub : Sub) (plus : Bool) : Reader Tokens :=
  Reader.when (startsWithOperator "->") do
    let arrow ← operator "->"
    return arrow ++ (← sub.tokens (.type plus))

/-- A segment of a path. -/
structure Segment where
  name : Token
  /-- The arguments in angle brackets, if there are any brackets. -/
  arguments : Tokens
  /-- Whether there is an argument between the brackets. -/
  isApplied : Bool
  deriving Repr

def Segment.tokens (s : Segment) : Tokens := s.name :: s.arguments

/-- A path; `lead` is what stands before the segments. -/
structure Path where
  /-- Whether the path starts with a type in angle brackets. -/
  isQualified : Bool
  lead : Tokens
  segments : List Segment
  deriving Repr

namespace Path

def further (segments : List Segment) : Tokens :=
  segments.flatMap fun s => Tokens.operator "::" ++ s.tokens

def tokens (p : Path) : Tokens :=
  p.lead ++ match p.segments with
    | [] => []
    | s :: rest => s.tokens ++ further rest

/-- Whether nothing but names make up the path, so that something may be invoked by it. -/
def isPlain (p : Path) : Bool := !p.isQualified && p.segments.all fun s => s.arguments.isEmpty

/-- Whether the path is a single segment and starts nowhere else. -/
def isSole (p : Path) : Bool := p.lead.isEmpty && p.segments.length = 1

/-- Whether the path ends without arguments, so that some in parentheses may follow. -/
def isBare (p : Path) : Bool := p.segments.getLast?.all fun s => !s.isApplied

/-- The path without brackets that its last segment may end in. -/
def withoutBrackets (p : Path) : Path :=
  match p.segments.reverse with
  | [] => p
  | last :: rest => { p with segments := (⟨last.name, [], false⟩ :: rest).reverse }

end Path

/-- Whether an angle bracket opens arguments here, possibly after colons. -/
def opensArguments (inExpression : Bool) (ts : Tokens) : Bool :=
  (!inExpression && startsWithOperator "<" ts && !startsWithOperatorOf ["<=", "<<="] ts)
    || (startsWithOperator "::" ts && startsWithOperator "<" (ts.drop 2))

/-- A segment of a path. -/
def segment (sub : Sub) (inExpression : Bool) : Reader Segment := do
  if ← next (startsWithWordOf ["super", "self", "crate", "try"]) then return ⟨← any, [], false⟩
  let self ← if ← nextWord "Self" then anyWord else name
  if ← next (opensArguments inExpression) then
    let arguments ← sub.tokens .arguments
    let brackets := if startsWithOperator "::" arguments then arguments.drop 2 else arguments
    return ⟨self, arguments, 2 < brackets.length⟩
  return ⟨self, [], false⟩

/-- The further segments of a path. -/
def furtherSegments (sub : Sub) (inExpression : Bool) (goesOn : Tokens → Bool) : Reader (List Segment) :=
  manyWhile goesOn do
    let _ ← operator "::"
    segment sub inExpression

/-- A path that no type in angle brackets is in front of. Colons before a parenthesis do not go on with it. -/
def unqualifiedPath (sub : Sub) (inExpression : Bool) : Reader Path := do
  let lead ← maybeOperator "::"
  let first ← segment sub inExpression
  let rest ← furtherSegments sub inExpression fun ts =>
    startsWithOperator "::" ts && !startsWithGroup .parenthesis (ts.drop 2)
  return ⟨false, lead, first :: rest⟩

/-- A path that may start with a type in angle brackets. -/
def path (sub : Sub) (inExpression : Bool) : Reader Path := do
  if ← nextOperator "<" then
    let opened ← operator "<"
    let self ← sub.tokens (.type true)
    let role ← Reader.when (startsWithWord "as") do
      let as ← word "as"
      return as ++ (← unqualifiedPath sub false).tokens
    let closed ← operator ">"
    let colons ← operator "::"
    let first ← segment sub inExpression
    let rest ← furtherSegments sub inExpression (startsWithOperator "::")
    return ⟨true, opened ++ self ++ role ++ closed ++ colons, first :: rest⟩
  unqualifiedPath sub inExpression

/-- Arguments in parentheses and what they lead to. -/
def callArguments (sub : Sub) : Reader Tokens := do
  let _ ← maybeOperator "::"
  let inputs ← grouped .parenthesis (commaSeparated (sub.tokens (.type true)))
  return inputs ++ (← output sub false)

/-- Whether arguments in parentheses come next, possibly after colons. -/
def opensCall (ts : Tokens) : Bool :=
  startsWithGroup .parenthesis ts
    || (startsWithOperator "::" ts && startsWithGroup .parenthesis (ts.drop 2))

/-- A path that may end in arguments in parentheses. -/
def callPath (sub : Sub) : Reader Tokens := do
  let path ← unqualifiedPath sub false
  if path.isBare && (← next opensCall) then
    return path.withoutBrackets.tokens ++ (← callArguments sub)
  return path.tokens

/-! ### Arguments in angle brackets -/

/-- A generic argument, and whether it is a lifetime. -/
structure PathArgument where
  isLifetime : Bool
  tokens : Tokens

def startsConstant (ts : Tokens) : Bool := startsWithLiteral ts || startsWithGroup .brace ts

/-- A value in place of a type: a literal or a block. -/
def constantArgument (sub : Sub) : Reader Tokens := do
  if ← next startsWithLiteral then literal else body sub

/-- What an associated type or constant is: `= T` or `= 3`. -/
def equated (sub : Sub) : Reader Tokens := do
  let sign ← operator "="
  if ← next startsConstant then return sign ++ (← constantArgument sub)
  return sign ++ (← sub.tokens (.type true))

/-- What an associated type is bounded by: `: A + B`. -/
def constrained (sub : Sub) : Reader Tokens := do
  let colon ← operator ":"
  let stop (ts : Tokens) := startsWithOperatorOf [",", ">"] ts
  return colon ++ (← entriesWhile stop "+" (sub.tokens .bound)).tokens "+" id

/-- A generic argument. What could be a type by itself may be the name that another argument is for. -/
def argument (sub : Sub) : Reader PathArgument := do
  if ← next fun ts => startsWithLifetime ts && !startsWithOperator "+" (afterFirst ts) then
    return ⟨true, ← lifetime⟩
  if ← next startsConstant then return ⟨false, ← constantArgument sub⟩
  let type ← sub (.type true)
  match type.shape with
  | .path true =>
    if ← nextOperator "=" then return ⟨false, type.tokens ++ (← equated sub)⟩
    if ← nextOperator ":" then return ⟨false, type.tokens ++ (← constrained sub)⟩
    return ⟨false, type.tokens⟩
  | _ => return ⟨false, type.tokens⟩

/-- Generic arguments in angle brackets; lifetimes come first. -/
def angleArguments (sub : Sub) : Reader Tokens := do
  let lead ← maybeOperator "::"
  let opened ← operator "<"
  let arguments ← entriesUpTo (startsWithOperator ">") "," (argument sub)
  let closed ← operator ">"
  return lead ++ opened ++ arguments.tokensWithFirst (·.isLifetime) (·.tokens) ++ closed

end LiveSwap.Forwarding.Grammar
