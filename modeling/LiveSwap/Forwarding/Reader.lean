import LiveSwap.Forwarding.Entries
/-!
Reading forms off a list of tokens.

A reader takes tokens off the front or refuses. What it reads it also gives back as tokens, spaced the way
generated code spaces them: the characters of one operator belong together, all other punctuation stands
alone, whatever the spacing was in the text.
-/

namespace LiveSwap.Forwarding

abbrev Reader := StateT Tokens Option

namespace Reader

/-- Words that are not names. -/
def keywords : List String := [
  "_", "abstract", "as", "async", "await", "become", "box", "break", "const", "continue", "crate", "do",
  "dyn", "else", "enum", "extern", "false", "final", "fn", "for", "if", "impl", "in", "let", "loop",
  "macro", "match", "mod", "move", "mut", "override", "priv", "pub", "ref", "return", "Self", "self",
  "static", "struct", "super", "trait", "true", "try", "type", "typeof", "unsafe", "unsized", "use",
  "virtual", "where", "while", "yield"]

/-! ### Looking ahead -/

/-- Whether punctuation with these characters comes first: all of them but the last are joint. -/
def startsWithCharacters : List Char → Tokens → Bool
  | [], _ => true
  | [c], .punct d _ _ :: _ => c = d
  | c :: cs, .punct d joint _ :: rest => c = d && joint && startsWithCharacters cs rest
  | _, _ => false

/-- Whether an operator comes first; a longer one that starts with it counts too. -/
def startsWithOperator (text : String) : Tokens → Bool := startsWithCharacters text.toList

/-- Whether one of several operators comes first. -/
def startsWithOperatorOf (texts : List String) (ts : Tokens) : Bool := texts.any (startsWithOperator · ts)

def startsWithWord (word : String) : Tokens → Bool
  | .ident t _ :: _ => t = word
  | _ => false

/-- Whether one of several words comes first. -/
def startsWithWordOf (words : List String) (ts : Tokens) : Bool := words.any (startsWithWord · ts)

/-- Whether a name comes first. -/
def startsWithName : Tokens → Bool
  | .ident t _ :: _ => !keywords.contains t
  | _ => false

/-- Whether a word comes first, be it a name or not. -/
def startsWithAnyWord : Tokens → Bool
  | .ident .. :: _ => true
  | _ => false

def startsWithGroup (d : Delimiter) : Tokens → Bool
  | .group e _ _ :: _ => d = e
  | _ => false

/-- Whether a group comes first, whatever its delimiters. -/
def startsWithAnyGroup : Tokens → Bool
  | .group .. :: _ => true
  | _ => false

def startsWithLifetime : Tokens → Bool
  | .punct '\'' _ _ :: .ident .. :: _ => true
  | _ => false

/-- Whether a literal comes first; a number may have a sign, and truth values are literals. -/
def startsWithLiteral : Tokens → Bool
  | .literal .. :: _ => true
  | .punct '-' _ _ :: .literal t _ :: _ => t.toList.head?.any Char.isDigit
  | .ident t _ :: _ => t = "true" || t = "false"
  | _ => false

/-- Whether a literal comes first that is a text. -/
def startsWithText : Tokens → Bool
  | .literal t _ :: _ => t.startsWith "\"" || t.startsWith "r"
  | _ => false

/-- What a list of tokens holds after its first token; a lifetime counts as one. -/
def afterFirst : Tokens → Tokens
  | .punct '\'' _ _ :: .ident .. :: rest => rest
  | _ :: rest => rest
  | [] => []

/-- What a list of tokens holds after its first two tokens. -/
def afterSecond (ts : Tokens) : Tokens := afterFirst (afterFirst ts)

/-- Whether a colon comes first that is no half of a double one. -/
def startsWithColon (ts : Tokens) : Bool := startsWithOperator ":" ts && !startsWithOperator "::" ts

/-- Whether a dot comes first that no other dot belongs to. -/
def startsWithDot (ts : Tokens) : Bool := startsWithOperator "." ts && !startsWithOperator ".." ts

/-- Whether an exclamation mark comes first that invokes something. -/
def startsWithBang (ts : Tokens) : Bool := startsWithOperator "!" ts && !startsWithOperator "!=" ts

/-- Tests what comes next. -/
def next (test : Tokens → Bool) : Reader Bool := return test (← get)

def nextOperator (text : String) : Reader Bool := next (startsWithOperator text)

def nextWord (word : String) : Reader Bool := next (startsWithWord word)

/-- Refuses unless something holds. -/
def require (condition : Bool) : Reader Unit := if condition then pure () else failure

/-! ### Single forms -/

/-- Any one token. -/
def any : Reader Token := do
  match ← get with
  | t :: rest => set rest; return t
  | [] => failure

/-- A name. -/
def name : Reader Token := do
  require (← next startsWithName)
  any

/-- Any word. -/
def anyWord : Reader Token := do
  require (← next startsWithAnyWord)
  any

/-- One given word. -/
def word (text : String) : Reader Tokens := do
  require (← nextWord text)
  return [← any]

/-- One of several words. -/
def wordOf (texts : List String) : Reader Tokens := do
  require (← next (startsWithWordOf texts))
  return [← any]

/-- The characters of an operator, all but the last joint. -/
def joined : Tokens → Tokens
  | [] => []
  | [.punct c _ p] => [.punct c false p]
  | .punct c _ p :: rest => .punct c true p :: joined rest
  | t :: rest => t :: joined rest

/-- One given operator. -/
def operator (text : String) : Reader Tokens := do
  require (← nextOperator text)
  let ts ← get
  set (ts.drop text.length)
  return joined (ts.take text.length)

/-- The first of several operators that comes next. -/
def operatorOf : List String → Reader Tokens
  | [] => failure
  | text :: texts => do
    if ← nextOperator text then operator text else operatorOf texts

/-- A lifetime. -/
def lifetime : Reader Tokens := do
  require (← next startsWithLifetime)
  let ts ← get
  set (afterFirst ts)
  match ts with
  | .punct c _ p :: t :: _ => return [.punct c true p, t]
  | _ => failure

/-- A literal; a sign in front of a number is a part of it. -/
def literal : Reader Tokens := do
  require (← next startsWithLiteral)
  match ← any with
  | .punct c _ p =>
    match ← any with
    | .literal t _ => return [.literal (String.singleton c ++ t) p]
    | _ => failure
  | t => return [t]

/-- Reads all of some tokens. -/
def whole {α : Type} (r : Reader α) (ts : Tokens) : Reader α :=
  match r.run ts with
  | some (a, []) => pure a
  | _ => failure

/-- A group, all of which is read. -/
def group {α : Type} (d : Delimiter) (r : Reader α) : Reader (α × Position) := do
  match ← any with
  | .group e inner p => do
    require (d = e)
    return (← whole r inner, p)
  | _ => failure

/-- A group whose content is read to tokens. -/
def grouped (d : Delimiter) (r : Reader Tokens) : Reader Tokens := do
  let (inner, p) ← group d r
  return [.group d inner p]

/-- A group with any content. -/
def anyGroup (d : Delimiter) : Reader Tokens := do
  require (← next (startsWithGroup d))
  return [← any]

/-- A group with any delimiters and any content. -/
def anyDelimited : Reader Tokens := do
  require (← next startsWithAnyGroup)
  return [← any]

/-- The tokens that a reader yields, or else those that it takes, as they stand. -/
def orVerbatim (r : Reader (Option Tokens)) : Reader Tokens := do
  let before ← get
  match ← r with
  | some tokens => return tokens
  | none => return before.take (before.length - (← get).length)

/-- The tokens that a reader takes, as they stand. -/
def verbatim {α : Type} (r : Reader α) : Reader Tokens := orVerbatim (do let _ ← r; return none)

/-! ### Combinations -/

/-- Reads a form if something announces it. -/
def when (test : Tokens → Bool) (r : Reader Tokens) : Reader Tokens := do
  if ← next test then r else return []

/-- A word that may be missing. -/
def maybeWord (text : String) : Reader Tokens := when (startsWithWord text) (word text)

/-- An operator that may be missing. -/
def maybeOperator (text : String) : Reader Tokens :=
  when (startsWithOperator text) (operator text)

/-- Repeats a reader at most so many times, as long as something announces it. -/
def repeatWhile {α : Type} (test : Tokens → Bool) (r : Reader α) : Nat → Reader (List α)
  | 0 => return []
  | n + 1 => do
    if ← next test then
      let a ← r
      return a :: (← repeatWhile test r n)
    else return []

/-- Repeats a reader that takes at least one token each time. -/
def manyWhile {α : Type} (test : Tokens → Bool) (r : Reader α) : Reader (List α) := do
  repeatWhile test r (← get).length

/-- Entries with a separator between any two, up to a point that `stop` tells. -/
def entriesUpTo {α : Type} (stop : Tokens → Bool) (separator : String) (r : Reader α) : Reader (Entries α) := do
  go (← get).length
where
  go : Nat → Reader (Entries α)
    | 0 => return .empty
    | n + 1 => do
      if ← next stop then return .empty
      let a ← r
      if ← next stop then return ⟨[a], false⟩
      let _ ← operator separator
      let rest ← go n
      if rest.items.isEmpty then return ⟨[a], true⟩
      return { rest with items := a :: rest.items }

/-- Entries that go on as long as there are separators; after a separator they may end where `stop` says. -/
def entriesWhile {α : Type} (stop : Tokens → Bool) (separator : String) (r : Reader α) : Reader (Entries α) := do
  go (← get).length
where
  go : Nat → Reader (Entries α)
    | 0 => return .empty
    | n + 1 => do
      if ← next stop then return .empty
      let a ← r
      if !(← nextOperator separator) then return ⟨[a], false⟩
      let _ ← operator separator
      let rest ← go n
      if rest.items.isEmpty then return ⟨[a], true⟩
      return { rest with items := a :: rest.items }

/-- Entries up to the end of the tokens. -/
def commaSeparated (r : Reader Tokens) : Reader Tokens := do
  return (← entriesUpTo List.isEmpty "," r).tokens "," id

end Reader

end LiveSwap.Forwarding
