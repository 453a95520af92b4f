import LiveSwap.Forwarding.Grammar.Member
import LiveSwap.Forwarding.Grammar.Statement
/-!
Items: what modules and blocks declare.
-/

namespace LiveSwap.Forwarding.Grammar

open Reader

/-! ### Data -/

/-- Whether fields come next that are declared in the place of a type. -/
def startsFieldsInPlace (ts : Tokens) : Bool :=
  startsWithWord "struct" ts || (startsWithWord "union" ts && startsBlock (ts.drop 1))

/-- A field with a name. Without one its fields may be declared in its place; they stay as they stand. -/
def namedField (sub : Sub) : Reader Tokens := do
  let attributes ← outerTokens sub
  let visible ← visibility
  let unnamed ← nextWord "_"
  let self ← if unnamed then anyWord else name
  let colon ← operator ":"
  let inPlace ← next startsFieldsInPlace
  let type ← if unnamed && inPlace then verbatim (do let _ ← anyWord; sub .fields)
    else sub.tokens (.type true)
  return attributes ++ visible ++ self :: colon ++ type

/-- Fields with names. -/
def namedFields (sub : Sub) : Reader Tokens := grouped .brace (commaSeparated (namedField sub))

/-- Fields without names. -/
def placedFields (sub : Sub) : Reader Tokens := grouped .parenthesis <| commaSeparated do
  let attributes ← outerTokens sub
  let visible ← visibility
  return attributes ++ visible ++ (← sub.tokens (.type true))

/-- What the name and the parameters of a structure are followed by. Conditions come before names and after
places. -/
def structContent (sub : Sub) : Reader Tokens := do
  let early ← whereClause sub
  if early.isNone && (← next (startsWithGroup .parenthesis)) then
    let fields ← placedFields sub
    let late ← whereClause sub
    return fields ++ conditionTokens late ++ (← operator ";")
  let fields ← if ← next startsBlock then namedFields sub else operator ";"
  return conditionTokens early ++ fields

/-- A structure. -/
def structItem (sub : Sub) : Reader Tokens := do
  let mark ← word "struct"
  let self ← name
  let generics ← generics sub
  return mark ++ self :: generics.tokens ++ (← structContent sub)

/-- A union. -/
def unionItem (sub : Sub) : Reader Tokens := do
  let mark ← word "union"
  let self ← name
  let generics ← generics sub
  let conditions ← whereClause sub
  return mark ++ self :: generics.tokens ++ conditionTokens conditions ++ (← namedFields sub)

/-- A variant of an enumeration; all variants are seen alike. -/
def variant (sub : Sub) : Reader Tokens := do
  let attributes ← outerTokens sub
  let _ ← visibility
  let self ← name
  let fields ← do
    if ← next startsBlock then namedFields sub
    else Reader.when (startsWithGroup .parenthesis) (placedFields sub)
  let value ← definition (sub.tokens (.expression true))
  return attributes ++ self :: fields ++ value

/-- An enumeration. -/
def enumItem (sub : Sub) : Reader Tokens := do
  let mark ← word "enum"
  let self ← name
  let generics ← generics sub
  let conditions ← whereClause sub
  let variants ← grouped .brace (commaSeparated (variant sub))
  return mark ++ self :: generics.tokens ++ conditionTokens conditions ++ variants

/-! ### Imports -/

/-- What is imported. A path from the root inside braces leaves the whole import as it stands; `root` says
whether there may be one. -/
def useTree (sub : Sub) (root : Bool) : Reader Piece := do
  if ← next fun ts => startsWithName ts || startsWithWordOf ["self", "super", "crate", "try"] ts then
    let self ← anyWord
    if ← nextOperator "::" then
      let colons ← operator "::"
      return .plain (self :: colons ++ (← sub.tokens (.useTree false)))
    let renamed ← Reader.when (startsWithWord "as") do
      let mark ← word "as"
      return mark ++ [← if ← nextWord "_" then anyWord else name]
    return .plain (self :: renamed)
  else if ← nextOperator "*" then return .plain (← operator "*")
  else
    let (trees, p) ← group .brace <| entriesUpTo List.isEmpty "," do
      let lead ← if root then maybeOperator "::" else pure []
      let tree ← sub (.useTree (root && lead.isEmpty))
      return Piece.mk (lead ++ tree.tokens) (if lead.isEmpty then tree.shape else .verbatim)
    let tokens : Tokens := [.group .brace (trees.tokens "," (·.tokens)) p]
    return ⟨tokens, if trees.items.any (·.isVerbatim) then .verbatim else .plain⟩

/-- An import. -/
def useItem (sub : Sub) : Reader (Option Tokens) := do
  let mark ← word "use"
  let lead ← maybeOperator "::"
  let tree ← sub (.useTree lead.isEmpty)
  let stop ← operator ";"
  return if tree.isVerbatim then none else some (mark ++ lead ++ tree.tokens ++ stop)

/-- A crate that is named. -/
def crateItem : Reader Tokens := do
  let mark := (← word "extern") ++ (← word "crate")
  let self ← if ← nextWord "self" then anyWord else name
  let renamed ← Reader.when (startsWithWord "as") do
    let mark ← word "as"
    return mark ++ [← if ← nextWord "_" then anyWord else name]
  return mark ++ self :: renamed ++ (← operator ";")

/-! ### Traits -/

/-- What a trait starts with. -/
structure TraitHead where
  /-- The marks in front. -/
  unsafety : Tokens
  auto : Tokens
  name : Token
  generics : Generics

namespace TraitHead

def tokens (h : TraitHead) : Tokens :=
  h.unsafety ++ h.auto ++ .word "trait" :: h.name :: h.generics.tokens

def isUnmarked (h : TraitHead) : Bool := h.unsafety.isEmpty && h.auto.isEmpty

end TraitHead

def traitHead (sub : Sub) : Reader TraitHead := do
  let unsafety ← maybeWord "unsafe"
  let auto ← maybeWord "auto"
  let _ ← word "trait"
  return ⟨unsafety, auto, ← name, ← generics sub⟩

/-- What a trait goes on with after its name and parameters. -/
structure TraitBody where
  conditions : Option WhereClause
  items : List TraitItem
  tokens : Tokens

def traitBody (sub : Sub) : Reader TraitBody := do
  let stop (ts : Tokens) := startsWithWord "where" ts || startsBlock ts
  let bounds ← boundsUpTo stop (sub.tokens .bound)
  let conditions ← whereClause sub
  let ((inner, items), p) ← group .brace do
    let inner ← innerAttributes sub
    return (attributeTokens inner, ← manyWhile (fun ts => !ts.isEmpty) (traitItem sub))
  return {
    conditions, items := items.map (·.1)
    tokens := bounds ++ conditionTokens conditions ++ [.group .brace (inner ++ items.flatMap (·.2)) p] }

/-- What the name of a sum of traits goes on with. -/
def traitSum (sub : Sub) : Reader Tokens := do
  let sign ← operator "="
  let stop (ts : Tokens) := startsWithWord "where" ts || startsWithOperator ";" ts
  let bounds ← entriesUpTo stop "+" (boundIn sub .object)
  let conditions ← whereClause sub
  return sign ++ bounds.tokens "+" id ++ conditionTokens conditions ++ (← operator ";")

/-- A trait, or the name of a sum of traits. -/
def traitForm (sub : Sub) : Reader Tokens := do
  let head ← traitHead sub
  if head.isUnmarked && (← nextOperator "=") then return head.tokens ++ (← traitSum sub)
  return head.tokens ++ (← traitBody sub).tokens

/-! ### Implementations -/

/-- Whether a mark for implementations that hold at compile time comes next. -/
def startsConstMark (ts : Tokens) : Bool :=
  startsWithWord "const" ts || (startsWithOperator "?" ts && startsWithWord "const" (ts.drop 1))

/-- What is implemented and for what; nothing where that could be no implementation. -/
def implementationHead (sub : Sub) : Reader (Option Tokens) := do
  let before ← get
  let polarity ← Reader.when (fun ts => startsWithOperator "!" ts && !startsBlock (ts.drop 1)) (operator "!")
  let first ← sub (.type true)
  if ← nextWord "for" then
    let role ← word "for"
    let type ← sub.tokens (.type true)
    return match first.shape with
      | .path _ => some (polarity ++ first.tokens ++ role ++ type)
      | _ => none
  if polarity.isEmpty then return some first.tokens
  return some (before.take (before.length - (← get).length))

/-- An implementation. One that is seen from elsewhere or holds at compile time stays as it stands. -/
def implementation (sub : Sub) (attributes visible : Tokens) : Reader (Option Tokens) := do
  let mark ← maybeWord "default"
  let unsafety ← maybeWord "unsafe"
  let start ← word "impl"
  let generics ← if ← next opensGenerics then generics sub else pure .empty
  let constness ← Reader.when startsConstMark do
    return (← maybeOperator "?") ++ (← word "const")
  let head ← implementationHead sub
  let conditions ← whereClause sub
  let items ← grouped .brace do
    let inner ← innerAttributes sub
    let items ← manyWhile (fun ts => !ts.isEmpty) (implementationItem sub)
    return attributeTokens inner ++ items.flatten
  if !visible.isEmpty || !constness.isEmpty then return none
  return head.map fun head =>
    attributes ++ mark ++ unsafety ++ start ++ generics.tokens ++ head ++ conditionTokens conditions ++ items

/-! ### Functions, values and modules -/

/-- A function. Without a body it stays as it stands. -/
def functionItem (sub : Sub) (before : Tokens) : Reader (Option Tokens) := do
  let signature ← signature sub
  if ← nextOperator ";" then
    let _ ← operator ";"
    return none
  return some (before ++ signature.tokens ++ (← body sub))

/-- A static. Without a type or a value it stays as it stands. -/
def staticItem (sub : Sub) (before : Tokens) : Reader (Option Tokens) := do
  let mark ← word "static"
  let mutability ← maybeWord "mut"
  let self ← name
  let type ← Reader.when (fun ts => !startsWithOperator "=" ts) do
    let colon ← operator ":"
    return colon ++ (← sub.tokens (.type true))
  let value ← definition (sub.tokens (.expression true))
  let stop ← operator ";"
  if type.isEmpty || value.isEmpty then return none
  return some (before ++ mark ++ mutability ++ self :: type ++ value ++ stop)

/-- A foreign interface. -/
def foreignInterface (sub : Sub) : Reader Tokens := do
  let unsafety ← maybeWord "unsafe"
  require (← nextWord "extern")
  let convention ← convention
  let items ← grouped .brace do
    let inner ← innerAttributes sub
    let items ← manyWhile (fun ts => !ts.isEmpty) (foreignItem sub)
    return attributeTokens inner ++ items.flatten
  return unsafety ++ convention ++ items

/-- A module, here or elsewhere. -/
def moduleItem (sub : Sub) : Reader Tokens := do
  let unsafety ← maybeWord "unsafe"
  let mark ← word "mod"
  let self ← if ← nextWord "try" then anyWord else name
  let content ← if ← nextOperator ";" then operator ";" else grouped .brace do
    let inner ← innerAttributes sub
    let items ← manyWhile (fun ts => !ts.isEmpty) (sub.tokens .item)
    return attributeTokens inner ++ items.flatten
  return unsafety ++ mark ++ self :: content

/-- An invocation that may name what it declares; without braces it ends in a semicolon. -/
def namedInvocation : Reader Tokens := do
  require (← next startsInvocation)
  let path ← plainPath
  let bang ← operator "!"
  let self ← Reader.when (fun ts => startsWithName ts || startsWithWord "try" ts) (return [← any])
  let content ← anyDelimited
  let stop ← if (Piece.plain content).endsInBrace then pure [] else operator ";"
  return path ++ bang ++ self ++ content ++ stop

/-- What declares something that can be invoked. -/
def invocable : Reader Unit := do
  let _ ← word "macro"
  let _ ← name
  let _ ← Reader.when (startsWithGroup .parenthesis) (anyGroup .parenthesis)
  discard (anyGroup .brace)

/-! ### All items -/

/-- An item that starts with its own word, or nothing if it stays as it stands. `before` is what stands before
that word. -/
def markedItem (sub : Sub) (before : Tokens) : Reader (Option Tokens) := do
  if ← next (startsSignature false) then functionItem sub before
  else if ← nextWord "use" then return (← useItem sub).map (before ++ ·)
  else if ← nextWord "static" then staticItem sub before
  else if ← nextWord "const" then
    let c ← constantItem sub
    return if c.isSpecial || !c.isDefined then none else some (before ++ c.tokens)
  else if ← nextWord "type" then
    let t ← namedTypeItem sub .beforeValue
    return if t.isSpecial || !t.isDefined then none else some (before ++ t.tokens)
  else if ← nextWord "macro" then
    invocable
    return none
  else
    let tokens ← do
      if ← next fun ts => startsWithWord "extern" ts && startsWithWord "crate" (ts.drop 1) then crateItem
      else if ← nextWord "struct" then structItem sub
      else if ← nextWord "enum" then enumItem sub
      else if ← next fun ts => startsWithWord "union" ts && startsWithName (ts.drop 1) then unionItem sub
      else if ← next (startsMarked ["mod"]) then moduleItem sub
      else traitForm sub
    return some (before ++ tokens)
where
  /-- Whether one of some words comes next, possibly with a mark for safety in front. -/
  startsMarked (words : List String) (ts : Tokens) : Bool :=
    startsWithWordOf words (if startsWithWord "unsafe" ts then ts.drop 1 else ts)

/-- Whether an implementation comes next. -/
def startsImplementation (ts : Tokens) : Bool :=
  startsWithWord "impl" ts || (startsWithWord "unsafe" ts && startsWithWord "impl" (ts.drop 1))
    || (startsWithWord "default" ts && !startsWithOperator "!" (ts.drop 1))

/-- Whether a foreign interface comes next. -/
def startsForeignInterface (ts : Tokens) : Bool :=
  (startsWithWord "extern" ts && !startsWithWord "crate" (ts.drop 1))
    || (startsWithWord "unsafe" ts && startsWithWord "extern" (ts.drop 1))

/-- Whether a trait comes next that has a mark for what it has by itself. -/
def startsAutoTrait (ts : Tokens) : Bool := startsWithWord "auto" ts && startsWithWord "trait" (ts.drop 1)

/-- An item. An invocation and a foreign interface are seen from nowhere else. -/
def itemForm (sub : Sub) : Reader Tokens := orVerbatim do
  let attributes ← outerTokens sub
  let visible ← visibility
  if ← next (startsSignature false) then functionItem sub (attributes ++ visible)
  else if ← next startsImplementation then implementation sub attributes visible
  else if ← next startsForeignInterface then
    require visible.isEmpty
    return some (attributes ++ (← foreignInterface sub))
  else if ← next fun ts => startsInvocation ts && !startsAutoTrait ts
      && !(startsWithWord "union" ts && startsWithName (ts.drop 1)) then
    require visible.isEmpty
    return some (attributes ++ (← namedInvocation))
  else markedItem sub (attributes ++ visible)

end LiveSwap.Forwarding.Grammar
