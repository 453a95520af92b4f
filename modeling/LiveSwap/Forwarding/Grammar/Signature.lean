import LiveSwap.Forwarding.Grammar.TypeForm
/-!
Visibility and signatures.
-/

namespace LiveSwap.Forwarding.Grammar

open Reader

/-- Who may see a declaration. Parentheses that name no place belong to what follows. -/
def visibility : Reader Tokens :=
  Reader.when (startsWithWord "pub") do
    let mark ← word "pub"
    return mark ++ (← restriction <|> pure [])
where
  restriction : Reader Tokens := grouped .parenthesis do
    if ← nextWord "in" then return (← word "in") ++ (← plainPath)
    wordOf ["crate", "self", "super"]

/-! ### Inputs -/

/-- An input, or the dots in place of further ones. -/
inductive InputForm where
  | input (i : Input)
  | variadic (tokens : Tokens)

/-- The instance as an input; a path that starts with the same word is none. -/
def receiver (sub : Sub) (attributes : List Attribute) : Reader Receiver := do
  let reference ← Reader.when (startsWithOperator "&") do
    let ampersand ← operator "&"
    return ampersand ++ (← Reader.when startsWithLifetime lifetime)
  let mutability ← maybeWord "mut"
  let self ← word "self"
  require !(← nextOperator "::")
  let annotation ← Reader.when (fun ts => reference.isEmpty && startsWithOperator ":" ts) do
    let colon ← operator ":"
    return colon ++ (← sub.tokens (.type true))
  return ⟨attributes, reference, mutability, self, annotation⟩

/-- The dots of variadic arguments and the comma after them. -/
def variadicDots : Reader Tokens := do
  let dots ← operator "..."
  if ← next List.isEmpty then return dots
  return dots ++ (← operator ",")

/-- An input that is no receiver. A type with arguments may stand without a pattern. -/
def argumentInput (sub : Sub) (attributes : List Attribute) : Reader InputForm := do
  if ← next fun ts => startsWithName ts && startsWithOperator "<" (ts.drop 1) then
    return .input (.argument ⟨attributes, [.word "_"], ← sub.tokens (.type true)⟩)
  let pattern ← sub.tokens .pattern
  let colon ← operator ":"
  if ← nextOperator "..." then
    return .variadic (attributeTokens attributes ++ pattern ++ colon ++ (← variadicDots))
  return .input (.argument ⟨attributes, pattern, ← sub.tokens (.type true)⟩)

def inputForm (sub : Sub) : Reader InputForm := do
  let attributes ← attributes sub
  if ← nextOperator "..." then return .variadic (attributeTokens attributes ++ (← variadicDots))
  (do return .input (.receiver (← receiver sub attributes))) <|> argumentInput sub attributes

/-- The inputs of a signature and its variadic arguments. Only the first input may be a receiver, and nothing
follows variadic arguments. -/
def inputs (sub : Sub) : Reader (Entries Input × Tokens) := do
  go true (← get).length
where
  go (first : Bool) : Nat → Reader (Entries Input × Tokens)
    | 0 => return (.empty, [])
    | n + 1 => do
      if ← next List.isEmpty then return (.empty, [])
      match ← inputForm sub with
      | .variadic tokens => return (.empty, tokens)
      | .input i => do
        match i with
        | .receiver _ => require first
        | .argument _ => pure ()
        if ← next List.isEmpty then return (⟨[i], false⟩, [])
        let _ ← operator ","
        let (rest, variadic) ← go false n
        if rest.items.isEmpty then return (⟨[i], true⟩, variadic)
        return ({ rest with items := i :: rest.items }, variadic)

/-! ### Signatures -/

/-- A signature from its calling convention on. -/
def signatureFrom (sub : Sub) (constness asyncness unsafety : Tokens) : Reader Signature := do
  let abi ← convention
  let _ ← word "fn"
  let self ← name
  let generics ← generics sub
  let ((inputs, variadic), _) ← group .parenthesis (inputs sub)
  let output ← do
    if ← nextOperator "->" then
      let _ ← operator "->"
      pure (some (← sub.tokens (.type true)))
    else pure none
  let conditions ← whereClause sub
  return {
    constness, asyncness, unsafety, abi, name := self, generics, inputs, variadic, output
    conditions := conditions.getD .empty }

def signature (sub : Sub) : Reader Signature := do
  let constness ← maybeWord "const"
  let asyncness ← maybeWord "async"
  let unsafety ← maybeWord "unsafe"
  signatureFrom sub constness asyncness unsafety

/-- Whether a signature comes next, where `safe` says whether one may be marked as safe. -/
def startsSignature (safe : Bool) (ts : Tokens) : Bool :=
  (((do
    let _ ← maybeWord "const"
    let _ ← maybeWord "async"
    let _ ← if safe && (← nextWord "safe") then word "safe" else maybeWord "unsafe"
    let _ ← convention
    word "fn" : Reader Tokens)).run ts).isSome

end LiveSwap.Forwarding.Grammar
