import LiveSwap.Forwarding.Grammar.Path
/-!
Generic parameters, bounds and where clauses.
-/

namespace LiveSwap.Forwarding.Grammar

open Reader

/-- A colon and what is bounded by it; a colon without bounds leaves no trace. -/
def bounded (colon : Tokens) (bounds : Entries Tokens) : Tokens :=
  if bounds.items.isEmpty then [] else colon ++ bounds.tokens "+" id

/-- Bounds after a colon, if there is one. They may end where `stop` says. -/
def boundsWhile (stop : Tokens → Bool) (r : Reader Tokens) : Reader Tokens :=
  Reader.when (startsWithOperator ":") do
    let colon ← operator ":"
    return bounded colon (← entriesWhile stop "+" r)

/-- Bounds after a colon, if there is one, up to a point that `stop` tells. -/
def boundsUpTo (stop : Tokens → Bool) (r : Reader Tokens) : Reader Tokens :=
  Reader.when (startsWithOperator ":") do
    let colon ← operator ":"
    return bounded colon (← entriesUpTo stop "+" r)

/-! ### Parameters -/

def lifetimeParam (attributes : Tokens) : Reader GenericParam := do
  let self ← lifetime
  let stop (ts : Tokens) := ts.isEmpty || startsWithOperatorOf [",", ">"] ts
  let bounds ← boundsWhile stop lifetime
  return ⟨.lifetime, self.getLast?.getD default, attributes ++ self ++ bounds⟩

def typeParam (sub : Sub) (attributes : Tokens) : Reader GenericParam := do
  let self ← name
  let stop (ts : Tokens) := ts.isEmpty || startsWithOperatorOf [",", ">", "="] ts
  let bounds ← boundsWhile stop (sub.tokens .bound)
  let default ← Reader.when (startsWithOperator "=") do
    let sign ← operator "="
    return sign ++ (← sub.tokens (.type true))
  return ⟨.type, self, attributes ++ self :: bounds ++ default⟩

def constantParam (sub : Sub) (attributes : Tokens) : Reader GenericParam := do
  let mark ← word "const"
  let self ← name
  let colon ← operator ":"
  let type ← sub.tokens (.type true)
  let default ← Reader.when (startsWithOperator "=") do
    let sign ← operator "="
    if ← next startsWithName then return sign ++ [← name]
    return sign ++ (← constantArgument sub)
  return ⟨.constant, self, attributes ++ mark ++ self :: colon ++ type ++ default⟩

/-- A parameter; one without a name only where `unnamed` says so. -/
def genericParam (sub : Sub) (unnamed : Bool) : Reader GenericParam := do
  let attributes ← outerTokens sub
  if ← next startsWithLifetime then lifetimeParam attributes
  else if ← nextWord "const" then constantParam sub attributes
  else if unnamed && (← nextWord "_") then
    let self ← anyWord
    return ⟨.type, self, attributes ++ [self]⟩
  else typeParam sub attributes

def paramList (sub : Sub) (unnamed : Bool) : Reader (Entries GenericParam) :=
  entriesUpTo (startsWithOperator ">") "," (genericParam sub unnamed)

/-- Generic parameters in angle brackets, if there are any brackets. -/
def generics (sub : Sub) : Reader Generics := do
  if ← nextOperator "<" then
    let opened ← operator "<"
    let params ← paramList sub true
    let _ ← operator ">"
    return ⟨some (Tokens.position opened), params⟩
  return .empty

/-- Whether an angle bracket opens generic parameters where it could open a path as well. -/
def opensGenerics (ts : Tokens) : Bool :=
  let inner := ts.drop 1
  let rest := afterFirst inner
  startsWithOperator "<" ts
    && (startsWithOperatorOf [">", "#"] inner
      || ((startsWithLifetime inner || startsWithName inner)
        && (startsWithOperatorOf [">", ",", "="] rest || startsWithColon rest))
      || startsWithWord "const" inner)

/-- Lifetimes that a type or a bound is universal in: `for < 'a >`. -/
def binder (sub : Sub) : Reader Tokens :=
  Reader.when (startsWithWord "for") do
    let mark ← word "for"
    let opened ← operator "<"
    let params ← paramList sub false
    let closed ← operator ">"
    return mark ++ opened ++ params.tokens "," (·.tokens) ++ closed

/-! ### Bounds -/

/-- What may be a bound in some place, besides lifetimes and traits. -/
structure BoundScope where
  /-- Traits that hold at compile time. -/
  constness : Bool
  /-- What a type captures. -/
  capture : Bool
  deriving DecidableEq, Repr

namespace BoundScope

/-- Trait objects have plain bounds. -/
def object : BoundScope := ⟨false, false⟩

/-- The bounds of parameters, conditions and associated types. -/
def parameter : BoundScope := ⟨true, false⟩

/-- Types that only their bounds are known of. -/
def opaqueType : BoundScope := ⟨true, true⟩

end BoundScope

/-- What a type captures: `use < 'a , T >`, lifetimes first. -/
def capture : Reader Tokens := do
  let mark ← word "use"
  let opened ← operator "<"
  let captured ← entriesUpTo (startsWithOperator ">") "," do
    if ← next startsWithLifetime then return PathArgument.mk true (← lifetime)
    else if ← nextWord "Self" then return ⟨false, ← word "Self"⟩
    else return ⟨false, [← name]⟩
  let closed ← operator ">"
  return mark ++ opened ++ captured.tokensWithFirst (·.isLifetime) (·.tokens) ++ closed

/-- A trait as a bound, and whether it is marked as one that holds at compile time. A question mark goes with
no universal lifetimes. -/
def traitBound (sub : Sub) (constness : Bool) : Reader (Tokens × Bool) := do
  let universal ← binder sub
  let mark ← do
    if ← next (startsWithGroup .bracket) then grouped .bracket (word "const") else maybeWord "const"
  require (constness || mark.isEmpty)
  let modifier ← maybeOperator "?"
  require (modifier.isEmpty || (universal.isEmpty && !(← nextWord "for")))
  let path ← callPath sub
  return (universal ++ mark ++ modifier ++ path, !mark.isEmpty)

/-- One bound. A marked one stays as it stands. -/
def boundIn (sub : Sub) (scope : BoundScope) : Reader Tokens := do
  if ← next startsWithLifetime then lifetime
  else if ← nextWord "use" then
    require scope.capture
    capture
  else orVerbatim do
    let (tokens, marked) ← do
      if ← next (startsWithGroup .parenthesis) then
        let ((inner, marked), p) ← group .parenthesis (traitBound sub scope.constness)
        pure ([Token.group .parenthesis inner p], marked)
      else traitBound sub scope.constness
    return if marked then none else some tokens

/-- A bound of a parameter. -/
def bound (sub : Sub) : Reader Tokens := boundIn sub .parameter

def startsBound (scope : BoundScope) (ts : Tokens) : Bool :=
  startsWithAnyWord ts || startsWithOperatorOf ["::", "?"] ts || startsWithLifetime ts
    || startsWithGroup .parenthesis ts || (scope.constness && startsWithGroup .bracket ts)

/-- Whether a bound comes next that is no trait. -/
def startsMinorBound (ts : Tokens) : Bool := startsWithLifetime ts || startsWithWord "use" ts

/-- Bounds as they were read, and whether one of them is a trait. -/
structure BoundSum where
  tokens : Tokens
  namesTrait : Bool

/-- One bound as a sum. -/
def soleBound (sub : Sub) (scope : BoundScope) : Reader BoundSum := do
  let minor ← next startsMinorBound
  return ⟨← boundIn sub scope, !minor⟩

/-- A plus after a bound and further bounds, each behind a plus; the last plus may have none behind it. -/
def furtherBounds (sub : Sub) (scope : BoundScope) : Reader BoundSum := do
  if ← nextOperator "+" then
    let sign ← operator "+"
    let rest ← entriesWhile (fun ts => !startsBound scope ts) "+" (soleBound sub scope)
    return ⟨sign ++ rest.tokens "+" (·.tokens), rest.items.any (·.namesTrait)⟩
  return ⟨[], false⟩

/-- One bound or, where `plus` allows it, a sum of bounds; at least one of them is a trait. -/
def bounds (sub : Sub) (scope : BoundScope) (plus : Bool) : Reader Tokens := do
  let first ← soleBound sub scope
  let rest ← if plus then furtherBounds sub scope else pure ⟨[], false⟩
  require (first.namesTrait || rest.namesTrait)
  return first.tokens ++ rest.tokens

/-- Further bounds of a trait object that began in parentheses; each plus has one behind it. -/
def addedBounds (sub : Sub) : Reader Tokens := do
  let rest ← manyWhile (startsWithOperator "+") do
    let sign ← operator "+"
    return sign ++ (← boundIn sub .object)
  return rest.flatten

/-! ### Where clauses -/

/-- Whether a where clause, or the bounds of one of its conditions, ends here. -/
def endsCondition (ts : Tokens) : Bool :=
  ts.isEmpty || startsWithGroup .brace ts || startsWithOperatorOf [",", ";", "="] ts || startsWithColon ts

def condition (sub : Sub) : Reader Condition := do
  if ← next fun ts => startsWithLifetime ts && startsWithOperator ":" (afterFirst ts) then
    let self ← lifetime
    let colon ← operator ":"
    let stop (ts : Tokens) := endsCondition ts || startsWithOperator ":" ts
    let bounds ← entriesWhile stop "+" lifetime
    return ⟨none, self ++ colon ++ bounds.tokens "+" id⟩
  let universal ← binder sub
  let type ← sub.tokens (.type true)
  let colon ← operator ":"
  let bounds ← entriesWhile endsCondition "+" (sub.tokens .bound)
  return ⟨some type, universal ++ type ++ colon ++ bounds.tokens "+" id⟩

/-- A where clause, if there is one. It has no generic parameters of its own. -/
def whereClause (sub : Sub) : Reader (Option WhereClause) := do
  if ← nextWord "where" then
    let _ ← word "where"
    require !(← next opensGenerics)
    return some (← entriesWhile endsCondition "," (condition sub))
  return none

end LiveSwap.Forwarding.Grammar
