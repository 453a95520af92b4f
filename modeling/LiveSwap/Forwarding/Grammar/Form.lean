import LiveSwap.Forwarding.Literal
import LiveSwap.Forwarding.Reader
import LiveSwap.Forwarding.Trait
/-!
Forms: the parts of a declaration whose grammars refer to each other.

The grammar of a form is written over a reader `sub` for the forms inside it, so each can be read on its own;
they are tied together at the end. What a form is printed as is a list of tokens; what its surroundings have to
know of it besides is its shape.
-/

namespace LiveSwap.Forwarding.Grammar

open Reader

/-- The forms. `braces` says whether an expression may end in a braced list of fields here. -/
inductive Form where
  /-- A type; `plus` says whether a sum of bounds may be one here. -/
  | type (plus : Bool)
  /-- A bound of a parameter or of an associated type. -/
  | bound
  /-- Generic arguments in angle brackets. -/
  | arguments
  /-- A pattern without alternatives. -/
  | pattern
  | expression (braces : Bool)
  /-- An expression without operators between operands. -/
  | operand (braces : Bool)
  /-- The value that a pattern is held against; logical operators end it. -/
  | scrutinee (braces : Bool)
  /-- The end of a range. -/
  | limit (braces : Bool)
  /-- An expression that stands by itself. One that is a block is over at its closing brace. -/
  | standalone
  /-- All that a block holds. -/
  | statements
  | item
  /-- Fields with names, in braces. -/
  | fields
  /-- What is imported; `root` says whether a path from the root may be among it. -/
  | useTree (root : Bool)
  deriving DecidableEq, Repr

/-- What a form turned out to be, as far as its surroundings depend on it. -/
inductive Shape where
  | plain
  /-- A type that is a path from no root; `sole` if it is a single word, with or without arguments. -/
  | path (sole : Bool)
  /-- A type that is a single bound, which is `bare` without its parentheses. -/
  | bound (bare : Tokens)
  /-- A range; `isOpen` if one of its ends is missing. -/
  | range (isOpen : Bool)
  | comparison
  /-- An expression that ends with a block of its own. -/
  | block
  | invocation (braced : Bool)
  /-- An expression that is not taken apart. -/
  | verbatim
  deriving Repr

/-- A form that was read. -/
structure Piece where
  tokens : Tokens
  shape : Shape
  deriving Repr

namespace Piece

/-- A form of which nothing but its tokens matters. -/
def plain (tokens : Tokens) : Piece := ⟨tokens, .plain⟩

def isRange (p : Piece) : Bool :=
  match p.shape with
  | .range _ => true
  | _ => false

def isOpenRange (p : Piece) : Bool :=
  match p.shape with
  | .range isOpen => isOpen
  | _ => false

def isComparison (p : Piece) : Bool :=
  match p.shape with
  | .comparison => true
  | _ => false

def isBlock (p : Piece) : Bool :=
  match p.shape with
  | .block => true
  | _ => false

def isVerbatim (p : Piece) : Bool :=
  match p.shape with
  | .verbatim => true
  | _ => false

/-- Whether a brace comes last. -/
def endsInBrace (p : Piece) : Bool := p.tokens.getLast?.any fun t => startsWithGroup .brace [t]

end Piece

/-- A reader for the forms inside a form. -/
abbrev Sub := Form → Reader Piece

/-- Reads a form of which nothing but its tokens matters. -/
def Sub.tokens (sub : Sub) (form : Form) : Reader Tokens := return (← sub form).tokens

/-! ### Plain paths -/

/-- The words that may stand in a path although they are not names. -/
def pathWords : List String := ["super", "self", "Self", "crate"]

def startsPathWord (ts : Tokens) : Bool := startsWithName ts || startsWithWordOf pathWords ts

/-- Whether a path comes next. -/
def startsPath (ts : Tokens) : Bool :=
  startsPathWord ts || startsWithOperator "::" ts || startsWithOperator "<" ts

/-- A path without arguments. -/
def plainPath : Reader Tokens := do
  let lead ← maybeOperator "::"
  let first ← segment
  let rest ← manyWhile (startsWithOperator "::") (do
    let colons ← operator "::"
    return colons ++ [← segment])
  return lead ++ first :: rest.flatten
where
  segment : Reader Token := do
    require (← next startsPathWord)
    any

/-- What is invoked by a path that was read: the mark and the group with any content. -/
def invoked : Reader Tokens := return (← operator "!") ++ (← anyDelimited)

/-! ### Attributes -/

/-- A single literal in place of an expression. -/
def soleLiteral : Reader Tokens := do
  let found ← literal
  require (← next List.isEmpty)
  return found

/-- The value of an attribute: a literal, or another expression that no attribute is in front of. -/
def attributeValue (sub : Sub) : Reader Tokens :=
  soleLiteral <|> do
    require !(← next fun ts => startsWithOperator "#" ts && startsWithGroup .bracket (ts.drop 1))
    sub.tokens (.expression true)

/-- What an attribute says: a path alone, one with arguments or one with a value. -/
def attributeContent (sub : Sub) : Reader Tokens := do
  let path ← if ← nextWord "unsafe" then word "unsafe" else plainPath
  if ← next startsWithAnyGroup then return path ++ (← anyDelimited)
  if ← next fun ts => startsWithOperator "=" ts && !startsWithOperatorOf ["==", "=>"] ts then
    let sign ← operator "="
    return path ++ sign ++ (← attributeValue sub)
  return path

/-- The path that an attribute starts with, if it is a single word. -/
def soleWord : Tokens → Option String
  | .ident text _ :: rest => if startsWithOperator "::" rest then none else some text
  | _ => none

/-- An attribute of what follows it. -/
def outerAttribute (sub : Sub) : Reader Attribute := do
  let mark ← operator "#"
  let (inner, p) ← group .bracket (attributeContent sub)
  return ⟨mark ++ [.group .bracket inner p], soleWord inner⟩

/-- An attribute of what it stands in. -/
def innerAttribute (sub : Sub) : Reader Attribute := do
  let mark ← operator "#"
  let bang ← operator "!"
  let (inner, p) ← group .bracket (attributeContent sub)
  return ⟨mark ++ bang ++ [.group .bracket inner p], soleWord inner⟩

def attributes (sub : Sub) : Reader (List Attribute) :=
  manyWhile (startsWithOperator "#") (outerAttribute sub)

def innerAttributes (sub : Sub) : Reader (List Attribute) :=
  manyWhile (fun ts => startsWithOperator "#" ts && startsWithOperator "!" (ts.drop 1)) (innerAttribute sub)

/-- The attributes of what follows them, as tokens. -/
def outerTokens (sub : Sub) : Reader Tokens := return attributeTokens (← attributes sub)

/-! ### Blocks and members -/

/-- A block. -/
def block (sub : Sub) : Reader Tokens := grouped .brace (sub.tokens .statements)

/-- What a body holds: attributes of what it is the body of, and statements. -/
def bodyContent (sub : Sub) : Reader (List Attribute × Tokens) := do
  let inner ← innerAttributes sub
  return (inner, attributeTokens inner ++ (← sub.tokens .statements))

/-- A block that may start with attributes of what it is the body of. -/
def body (sub : Sub) : Reader Tokens := grouped .brace (return (← bodyContent sub).2)

/-- A place in a tuple. However it is written, it is printed as a decimal number. -/
def place : Reader Tokens := do
  match ← any with
  | .literal text p =>
    match Literal.place? text with
    | some n => return [.literal (toString n) p]
    | none => failure
  | _ => failure

/-- The name of a field or its place. -/
def fieldName : Reader Tokens := do
  if ← next startsWithName then return [← name] else place

end LiveSwap.Forwarding.Grammar
