import LiveSwap.Forwarding.Grammar.Signature
/-!
Members: what traits, implementations and foreign interfaces declare.
-/

namespace LiveSwap.Forwarding.Grammar

open Reader

/-! ### Types and constants -/

/-- Where the conditions on a type stand that is declared by name. -/
inductive ConditionPlace where
  | beforeValue
  | afterValue
  | either
  deriving DecidableEq, Repr

/-- A type or a constant that is declared by name. -/
structure NamedPiece where
  name : Token
  tokens : Tokens
  /-- Whether it has bounds, or parameters or conditions of its own. -/
  isSpecial : Bool
  isDefined : Bool

def conditionTokens (clause : Option WhereClause) : Tokens := whereTokens (clause.getD .empty)

/-- A value or type after the sign for equality, if there is one. -/
def definition (r : Reader Tokens) : Reader Tokens :=
  Reader.when (startsWithOperator "=") do
    let sign ← operator "="
    return sign ++ (← r)

/-- A type that is declared by name. -/
def namedTypeItem (sub : Sub) (place : ConditionPlace) : Reader NamedPiece := do
  let mark ← word "type"
  let self ← name
  let generics ← generics sub
  let isSpecial ← nextOperator ":"
  let stop (ts : Tokens) := startsWithWord "where" ts || startsWithOperatorOf ["=", ";"] ts
  let bounds ← boundsUpTo stop (sub.tokens .bound)
  let early ← if place = .afterValue then pure none else whereClause sub
  let value ← definition (sub.tokens (.type true))
  let late ← if place = .beforeValue || early.isSome then pure none else whereClause sub
  let stop ← operator ";"
  return {
    name := self
    tokens := mark ++ self :: generics.tokens ++ bounds ++ conditionTokens early ++ value
      ++ conditionTokens late ++ stop
    isSpecial, isDefined := !value.isEmpty }

/-- Whether a constant comes next. -/
def startsConstantItem (ts : Tokens) : Bool :=
  startsWithWord "const" ts && (startsWithName (ts.drop 1) || startsWithWord "_" (ts.drop 1))

/-- A constant. -/
def constantItem (sub : Sub) : Reader NamedPiece := do
  let mark ← word "const"
  let self ← if ← nextWord "_" then anyWord else name
  let generics ← generics sub
  let colon ← operator ":"
  let type ← sub.tokens (.type true)
  let value ← definition (sub.tokens (.expression true))
  let conditions ← whereClause sub
  let stop ← operator ";"
  return {
    name := self
    tokens := mark ++ self :: colon ++ type ++ value ++ stop
    isSpecial := generics.opening.isSome || conditions.isSome, isDefined := !value.isEmpty }

/-! ### Invocations -/

/-- Whether a path comes next by which something may be invoked among members. -/
def startsInvocation (ts : Tokens) : Bool :=
  startsWithName ts || startsWithWordOf ["self", "super", "crate"] ts || startsWithOperator "::" ts

/-- An invocation; without braces it ends in a semicolon. -/
def invocation : Reader Tokens := do
  require (← next startsInvocation)
  let path ← plainPath
  let call ← invoked
  let stop ← if (Piece.plain call).endsInBrace then pure [] else operator ";"
  return path ++ call ++ stop

/-! ### Traits -/

/-- A method with its own attributes and those at the start of its body. -/
def method (sub : Sub) (attributes : List Attribute) : Reader (Method × Tokens) := do
  let signature ← signature sub
  let tokens := attributeTokens attributes ++ signature.tokens
  if ← nextOperator ";" then
    let stop ← operator ";"
    return (⟨attributes, signature⟩, tokens ++ stop)
  let ((inner, content), p) ← group .brace (bodyContent sub)
  return (⟨attributes ++ inner, signature⟩, tokens ++ [.group .brace content p])

/-- An item of a trait without a mark in front, or nothing if it is of no kind of its own. -/
def plainTraitItem (sub : Sub) (attributes : List Attribute) : Reader (Option (TraitItem × Tokens)) := do
  let before := attributeTokens attributes
  if ← next (startsSignature false) then
    let (m, tokens) ← method sub attributes
    return some (.method m, tokens)
  else if ← next startsConstantItem then
    let c ← constantItem sub
    return if c.isSpecial then none else some (.associatedConstant c.name, before ++ c.tokens)
  else
    let t ← namedTypeItem sub .afterValue
    return some (.associatedType t.name, before ++ t.tokens)

/-- An item of a trait, and its tokens. One with a visibility or a mark for defaults is of no kind of its own. -/
def traitItem (sub : Sub) : Reader (TraitItem × Tokens) := do
  let before ← get
  let other : TraitItem := .other (Tokens.position before)
  let attributes ← attributes sub
  let marks := (← visibility) ++ (← maybeWord "default")
  if marks.isEmpty && (← next startsInvocation) && !(← next (startsSignature false)) then
    return (other, attributeTokens attributes ++ (← invocation))
  let item ← plainTraitItem sub attributes
  match item, marks with
  | some found, [] => return found
  | _, _ => return (other, before.take (before.length - (← get).length))

/-! ### Implementations -/

/-- An item of an implementation. What could not be one stays as it stands. -/
def implementationItem (sub : Sub) : Reader Tokens := orVerbatim do
  let attributes ← outerTokens sub
  let visible ← visibility
  let mark ← Reader.when (fun ts => startsWithWord "default" ts && !startsWithOperator "!" (ts.drop 1))
    (word "default")
  let before := attributes ++ visible ++ mark
  if ← next (startsSignature false) then
    let signature ← signature sub
    if ← nextOperator ";" then
      let _ ← operator ";"
      return none
    return some (before ++ signature.tokens ++ (← body sub))
  else if ← nextWord "const" then
    let c ← constantItem sub
    return if c.isSpecial || !c.isDefined then none else some (before ++ c.tokens)
  else if ← nextWord "type" then
    let t ← namedTypeItem sub .afterValue
    return if t.isSpecial || !t.isDefined then none else some (before ++ t.tokens)
  else
    require (visible.isEmpty && mark.isEmpty)
    return some (attributes ++ (← invocation))

/-! ### Foreign interfaces -/

/-- A function of a foreign interface. One that is marked as safe or has a body stays as it stands. -/
def foreignFunction (sub : Sub) (before : Tokens) : Reader (Option Tokens) := do
  let constness ← maybeWord "const"
  let asyncness ← maybeWord "async"
  let unsafety ← maybeWord "unsafe"
  let safety ← if unsafety.isEmpty then maybeWord "safe" else pure []
  let signature ← signatureFrom sub constness asyncness unsafety
  if ← next startsBraceGroup then
    let _ ← body sub
    return none
  let stop ← operator ";"
  return if safety.isEmpty then some (before ++ signature.tokens ++ stop) else none
where
  startsBraceGroup (ts : Tokens) : Bool := startsWithGroup .brace ts

/-- A static of a foreign interface. One with a mark or a value stays as it stands. -/
def foreignStatic (sub : Sub) (before : Tokens) : Reader (Option Tokens) := do
  let marks ← maybeWord "unsafe"
  let marks ← if marks.isEmpty then maybeWord "safe" else pure marks
  let mark ← word "static"
  let mutability ← maybeWord "mut"
  let self ← name
  let colon ← operator ":"
  let type ← sub.tokens (.type true)
  let value ← definition (sub.tokens (.expression true))
  let stop ← operator ";"
  if !marks.isEmpty || !value.isEmpty then return none
  return some (before ++ mark ++ mutability ++ self :: colon ++ type ++ stop)

/-- Whether a static comes next, possibly with a mark in front. -/
def startsForeignStatic (ts : Tokens) : Bool :=
  startsWithWord "static" ts
    || (startsWithWordOf ["unsafe", "safe"] ts && startsWithWord "static" (ts.drop 1))

/-- An item of a foreign interface. -/
def foreignItem (sub : Sub) : Reader Tokens := orVerbatim do
  let attributes ← outerTokens sub
  let visible ← visibility
  let before := attributes ++ visible
  if ← next (startsSignature true) then foreignFunction sub before
  else if ← next startsForeignStatic then foreignStatic sub before
  else if ← nextWord "type" then
    let t ← namedTypeItem sub .either
    return if t.isSpecial || t.isDefined then none else some (before ++ t.tokens)
  else
    require visible.isEmpty
    return some (attributes ++ (← invocation))

end LiveSwap.Forwarding.Grammar
