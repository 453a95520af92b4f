import LiveSwap.Forwarding.Grammar.Generics
import LiveSwap.Forwarding.Grammar.Pattern
/-!
Expressions that steer what is evaluated: choices, loops, blocks, jumps and closures.
-/

namespace LiveSwap.Forwarding.Grammar

open Reader

/-- Whether a block comes next. -/
def startsBlock (ts : Tokens) : Bool := startsWithGroup .brace ts

/-- Whether an expression comes next. -/
def startsExpression (ts : Tokens) : Bool :=
  (startsWithAnyWord ts && !startsWithWord "as" ts) || startsWithAnyGroup ts || startsWithLiteral ts
    || startsWithBang ts
    || (startsWithOperator "-" ts && !startsWithOperatorOf ["-=", "->"] ts)
    || (startsWithOperator "*" ts && !startsWithOperator "*=" ts)
    || (startsWithOperator "|" ts && !startsWithOperator "|=" ts)
    || (startsWithOperator "&" ts && !startsWithOperator "&=" ts)
    || (startsWithOperator "<" ts && !startsWithOperatorOf ["<=", "<<="] ts)
    || startsWithOperatorOf ["..", "::", "#"] ts || startsWithLifetime ts

/-! ### Choices -/

/-- A choice with all its further branches. -/
def choice (sub : Sub) : Reader Tokens := do go (← get).length
where
  go : Nat → Reader Tokens
    | 0 => failure
    | n + 1 => do
      let mark ← word "if"
      let test ← sub.tokens (.expression false)
      let yes ← block sub
      let no ← Reader.when (startsWithWord "else") do
        let mark ← word "else"
        return mark ++ (← if ← nextWord "if" then go n else block sub)
      return mark ++ test ++ yes ++ no

/-- An arm of a match. A comma may be missing after a block and at the end. -/
def arm (sub : Sub) : Reader Tokens := do
  let attributes ← outerTokens sub
  let shape ← alternativeTokens sub
  let guarded ← Reader.when (startsWithWord "if") do
    let mark ← word "if"
    return mark ++ (← sub.tokens (.expression true))
  let arrow ← operator "=>"
  let value ← sub .standalone
  let optional ← next List.isEmpty
  let comma ← if value.isBlock || optional then maybeOperator "," else operator ","
  return attributes ++ shape ++ guarded ++ arrow ++ value.tokens ++ comma

/-- A choice by patterns. -/
def matching (sub : Sub) : Reader Tokens := do
  let mark ← word "match"
  let value ← sub.tokens (.expression false)
  let arms ← grouped .brace do
    let inner ← innerAttributes sub
    let arms ← manyWhile (fun ts => !ts.isEmpty) (arm sub)
    return attributeTokens inner ++ arms.flatten
  return mark ++ value ++ arms

/-! ### Loops and blocks -/

/-- A loop that a condition ends. -/
def whileLoop (sub : Sub) : Reader Tokens := do
  let mark ← word "while"
  let test ← sub.tokens (.expression false)
  return mark ++ test ++ (← body sub)

/-- A loop over the elements of something. -/
def forLoop (sub : Sub) : Reader Tokens := do
  let mark ← word "for"
  let shape ← alternativeTokens sub
  let role ← word "in"
  let range ← sub.tokens (.expression false)
  return mark ++ shape ++ role ++ range ++ (← body sub)

/-- A block behind a word. -/
def markedBlock (sub : Sub) (mark : String) : Reader Tokens := do
  let mark ← word mark
  return mark ++ (← body sub)

/-- A block that what fails in it leaves. -/
def tryBlock (sub : Sub) : Reader Tokens := do
  let mark ← word "try"
  return mark ++ (← block sub)

/-- Whether a loop over elements comes next; the same word may start a closure. -/
def startsForLoop (ts : Tokens) : Bool := startsWithWord "for" ts && !opensGenerics (ts.drop 1)

/-- Whether a given word comes next with a block behind it. -/
def startsMarkedBlock (mark : String) (ts : Tokens) : Bool := startsWithWord mark ts && startsBlock (ts.drop 1)

/-- Whether a label comes next, or a block or loop that could have one. -/
def startsLabelable (ts : Tokens) : Bool :=
  startsBlock ts || startsWithLifetime ts || startsWithWordOf ["while", "loop"] ts || startsForLoop ts

/-- A block or loop that may have a label. -/
def labelable (sub : Sub) : Reader Tokens := do
  let label ← Reader.when startsWithLifetime do
    let label ← lifetime
    return label ++ (← operator ":")
  let labelled ← do
    if ← nextWord "while" then whileLoop sub
    else if ← nextWord "for" then forLoop sub
    else if ← nextWord "loop" then markedBlock sub "loop"
    else body sub
  return label ++ labelled

/-- Whether an expression comes next that is over at its closing brace. -/
def startsBlockForm (ts : Tokens) : Bool :=
  startsLabelable ts || startsWithWordOf ["if", "match", "unsafe"] ts || startsMarkedBlock "try" ts
    || startsMarkedBlock "const" ts

/-- An expression that is over at its closing brace. -/
def blockForm (sub : Sub) : Reader Piece := do
  let tokens ← do
    if ← nextWord "if" then choice sub
    else if ← nextWord "match" then matching sub
    else if ← nextWord "unsafe" then markedBlock sub "unsafe"
    else if ← nextWord "const" then markedBlock sub "const"
    else if ← nextWord "try" then tryBlock sub
    else labelable sub
  return ⟨tokens, .block⟩

/-! ### Jumps -/

/-- A value that a jump takes along, if there is one. -/
def takenAlong (sub : Sub) (test : Tokens → Bool) : Reader Tokens :=
  Reader.when (fun ts => startsExpression ts && test ts) (sub.tokens (.expression true))

/-- Leaves a loop or block. No label goes with a value that starts with a label itself. -/
def breakJump (sub : Sub) (braces : Bool) : Reader Tokens := do
  let mark ← word "break"
  require !(← next fun ts => startsWithLifetime ts && startsWithOperator ":" (afterFirst ts))
  let label ← Reader.when startsWithLifetime lifetime
  return mark ++ label ++ (← takenAlong sub fun ts => braces || !startsBlock ts)

/-- A jump to where a word says, with a value. -/
def jump (sub : Sub) (mark : String) : Reader Tokens := do
  let mark ← word mark
  return mark ++ (← takenAlong sub fun _ => true)

/-- Goes on with the next round of a loop. -/
def continueJump : Reader Tokens := do
  let mark ← word "continue"
  return mark ++ (← Reader.when startsWithLifetime lifetime)

/-! ### Closures -/

/-- An input of a closure. A pattern that stays as it stands loses its attributes unless a type follows. -/
def closureInput (sub : Sub) : Reader Tokens := do
  let attributes ← outerTokens sub
  let shape ← sub .pattern
  if ← nextOperator ":" then
    let colon ← operator ":"
    return attributes ++ shape.tokens ++ colon ++ (← sub.tokens (.type true))
  return if shape.isVerbatim then shape.tokens else attributes ++ shape.tokens

/-- Whether a closure comes next. -/
def startsClosure (ts : Tokens) : Bool :=
  let rest := ts.drop 1
  startsWithOperator "|" ts || startsWithWordOf ["move", "static"] ts
    || (startsWithWord "for" ts && opensGenerics rest)
    || (startsWithWord "const" ts && !startsBlock rest)
    || (startsWithWord "async" ts && (startsWithOperator "|" rest || startsWithWord "move" rest))

/-- A closure. One that says what it returns has a block for its body. -/
def closure (sub : Sub) (braces : Bool) : Reader Tokens := do
  let universal ← binder sub
  let constness ← maybeWord "const"
  let movability ← maybeWord "static"
  let asyncness ← maybeWord "async"
  let taking ← maybeWord "move"
  let opened ← operator "|"
  let inputs ← entriesUpTo (startsWithOperator "|") "," (closureInput sub)
  let closed ← operator "|"
  let output ← output sub true
  let value ← if output.isEmpty then sub.tokens (.expression braces) else block sub
  return universal ++ constness ++ movability ++ asyncness ++ taking ++ opened ++ inputs.tokens "," id
    ++ closed ++ output ++ value

/-- Whether a block that is run later comes next. -/
def startsLaterBlock (ts : Tokens) : Bool :=
  startsMarkedBlock "async" ts
    || (startsWithWord "async" ts && startsMarkedBlock "move" (ts.drop 1))

/-- A block that is run later. -/
def laterBlock (sub : Sub) : Reader Tokens := do
  let mark ← word "async"
  let taking ← maybeWord "move"
  return mark ++ taking ++ (← block sub)

end LiveSwap.Forwarding.Grammar
