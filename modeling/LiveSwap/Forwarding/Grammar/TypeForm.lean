import LiveSwap.Forwarding.Grammar.Generics
/-!
Types.
-/

namespace LiveSwap.Forwarding.Grammar

open Reader

/-! ### Parentheses -/

/-- What parentheses hold in a type that is no trait object. -/
inductive Enclosed where
  | elements (tokens : Tokens)
  | sole (type : Piece)

/-- The types in the parentheses of a tuple, or the one in parentheses of its own. -/
def enclosedTypes (sub : Sub) : Reader Enclosed := do
  let first ← sub (.type true)
  if ← nextOperator "," then
    let comma ← operator ","
    return .elements (first.tokens ++ comma ++ (← commaSeparated (sub.tokens (.type true))))
  return .sole first

/-- The bound that a type in parentheses is, if it is one, with its parentheses. -/
def enclosedBound? (p : Position) (type : Piece) : Option Tokens :=
  match type.shape with
  | .path _ => some [.group .parenthesis type.tokens p]
  | .bound bare => some [.group .parenthesis bare p]
  | _ => none

/-- A type that starts with parentheses: a unit, a tuple, a type by itself, or a sum of bounds of which the
first is in parentheses. -/
def parenthesized (sub : Sub) (plus : Bool) : Reader Piece := do
  let content := match (← get).head? with
    | some (.group _ inner _) => inner
    | _ => []
  if content.isEmpty then return .plain (← anyGroup .parenthesis)
  if startsWithLifetime content then return .plain (← grouped .parenthesis (bounds sub .object true))
  if startsWithOperator "?" content then
    let ((bare, _), p) ← group .parenthesis (traitBound sub false)
    let first : Tokens := [.group .parenthesis bare p]
    let rest ← addedBounds sub
    return ⟨first ++ rest, if rest.isEmpty then .bound bare else .plain⟩
  match ← group .parenthesis (enclosedTypes sub) with
  | (.elements tokens, p) => return .plain [.group .parenthesis tokens p]
  | (.sole type, p) =>
    if plus && (← nextOperator "+") then
      if let some first := enclosedBound? p type then return .plain (first ++ (← addedBounds sub))
    return .plain [.group .parenthesis type.tokens p]

/-! ### Functions -/

/-- Whether a name with a colon comes next. -/
def startsNamed (instances : Bool) (ts : Tokens) : Bool :=
  (startsWithName ts || startsWithWord "_" ts || (instances && startsWithWord "self" ts))
    && startsWithColon (ts.drop 1)

/-- Whether the instance comes next as a value of its own. -/
def startsOwnInstance (ts : Tokens) : Bool := startsWithWord "mut" ts && startsWithWord "self" (ts.drop 1)

/-- An argument in the type of a function. The first one may be the instance; one that is marked as mutable stays
as it stands. -/
def functionInput (sub : Sub) (first : Bool) : Reader Tokens := orVerbatim do
  let marked ← if first then next startsOwnInstance else pure false
  let _ ← Reader.when (fun _ => marked) (word "mut")
  let instanceNext ← next (startsWithWord "self")
  let self ← Reader.when (startsNamed first) do
    let self ← anyWord
    return self :: (← operator ":")
  if first && !(instanceNext && !self.isEmpty) && (← next startsOwnInstance) then
    let _ ← word "mut"
    let _ ← word "self"
    return none
  if marked && self.isEmpty then
    let _ ← word "self"
    return none
  let type ← sub.tokens (.type true)
  return if marked then none else some (self ++ type)

/-- Whether the dots of variadic arguments come next, possibly under a name. -/
def startsVariadic (ts : Tokens) : Bool :=
  startsWithOperator "..." ts
    || ((startsWithName ts || startsWithWord "_" ts) && startsWithOperator ":" (ts.drop 1)
      && startsWithOperator "..." (ts.drop 2))

/-- The arguments in the type of a function. Variadic ones come last. -/
def functionInputs (sub : Sub) : Reader Tokens := do go true (← get).length
where
  go (first : Bool) : Nat → Reader Tokens
    | 0 => return []
    | n + 1 => do
      if ← next List.isEmpty then return []
      let attributes ← outerTokens sub
      if ← next startsVariadic then
        let self ← Reader.when startsWithAnyWord do
          let self ← anyWord
          return self :: (← operator ":")
        let dots ← operator "..."
        let comma ← maybeOperator ","
        require (← next List.isEmpty)
        return attributes ++ self ++ dots ++ comma
      let input ← functionInput sub first
      if ← next List.isEmpty then return attributes ++ input
      let comma ← operator ","
      return attributes ++ input ++ comma ++ (← go false n)

/-- How functions are called: `extern` and the name of a convention. -/
def convention : Reader Tokens :=
  Reader.when (startsWithWord "extern") do
    return (← word "extern") ++ (← Reader.when startsWithText literal)

/-- The type of a function. -/
def functionType (sub : Sub) : Reader Tokens := do
  let unsafety ← maybeWord "unsafe"
  let convention ← convention
  let mark ← word "fn"
  let inputs ← grouped .parenthesis (functionInputs sub)
  return unsafety ++ convention ++ mark ++ inputs ++ (← output sub false)

def startsFunction (ts : Tokens) : Bool := startsWithWordOf ["fn", "unsafe", "extern"] ts

/-! ### Types by name -/

/-- A type that is named: a path, an invocation, or a sum of bounds that starts with a path. -/
def namedType (sub : Sub) (plus : Bool) (universal : Tokens) : Reader Piece := do
  let path ← path sub false
  if path.isQualified then return .plain path.tokens
  if path.isPlain && (← next startsWithBang) then return .plain (path.tokens ++ (← invoked))
  let rest ← if plus then furtherBounds sub .object else pure ⟨[], false⟩
  let tokens := universal ++ path.tokens
  if !rest.tokens.isEmpty then return .plain (tokens ++ rest.tokens)
  return ⟨tokens, if universal.isEmpty then .path path.isSole else .bound tokens⟩

/-- A type that is universal in lifetimes: that of a function, or a bound. -/
def universalType (sub : Sub) (plus : Bool) : Reader Piece := do
  let universal ← binder sub
  if ← next startsFunction then return .plain (universal ++ (← functionType sub))
  require (← next startsPathWord)
  namedType sub plus universal

/-! ### All types -/

/-- A type behind a reference or a pointer. -/
def behind (sub : Sub) (mark : Tokens) : Reader Tokens := return mark ++ (← sub.tokens (.type false))

/-- What brackets hold in a type: the type of the elements, and their number if it is fixed. -/
def elements (sub : Sub) : Reader Tokens := do
  let type ← sub.tokens (.type true)
  let size ← Reader.when (startsWithOperator ";") do
    let semicolon ← operator ";"
    return semicolon ++ (← sub.tokens (.expression true))
  return type ++ size

/-- A trait object. One that is marked by a star stays as it stands. -/
def traitObject (sub : Sub) (plus : Bool) : Reader Tokens := orVerbatim do
  let mark ← word "dyn"
  let star ← maybeOperator "*"
  let bounds ← bounds sub .object plus
  return if star.isEmpty then some (mark ++ bounds) else none

/-- A type that neither parentheses nor a name are at the start of. -/
def markedType (sub : Sub) (plus : Bool) : Reader Tokens := do
  if ← nextWord "dyn" then traitObject sub plus
  else if ← next (startsWithGroup .bracket) then grouped .bracket (elements sub)
  else if ← nextOperator "*" then
    let star ← operator "*"
    behind sub (star ++ (← wordOf ["const", "mut"]))
  else if ← nextOperator "&" then
    let ampersand ← operator "&"
    let life ← Reader.when startsWithLifetime lifetime
    behind sub (ampersand ++ life ++ (← maybeWord "mut"))
  else if ← nextOperator "!" then operator "!"
  else if ← nextWord "impl" then
    let mark ← word "impl"
    return mark ++ (← bounds sub .opaqueType plus)
  else if ← nextWord "_" then word "_"
  else do
    require (← next startsWithLifetime)
    bounds sub .object true

def typeForm (sub : Sub) (plus : Bool) : Reader Piece := do
  if ← nextWord "for" then universalType sub plus
  else if ← next (startsWithGroup .parenthesis) then parenthesized sub plus
  else if ← next startsFunction then return .plain (← functionType sub)
  else if ← next startsPath then namedType sub plus []
  else return .plain (← markedType sub plus)

end LiveSwap.Forwarding.Grammar
