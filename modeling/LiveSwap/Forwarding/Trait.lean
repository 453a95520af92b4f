import LiveSwap.Forwarding.Entries
/-!
What a trait declares, as far as forwarding looks into it: a signature is taken apart, while types, bounds and
attributes stay lists of tokens.
-/

namespace LiveSwap.Forwarding

/-- An attribute: all its tokens, and its path if that is a single word. -/
structure Attribute where
  tokens : Tokens
  word : Option String
  deriving Repr

def attributeTokens (attributes : List Attribute) : Tokens := attributes.flatMap (·.tokens)

inductive GenericKind where
  | lifetime
  | type
  | constant
  deriving DecidableEq, Repr

/-- A generic parameter: the tokens of its declaration, and its name alone. -/
structure GenericParam where
  kind : GenericKind
  name : Token
  tokens : Tokens
  deriving Repr

/-- Generic parameters; `opening` is where their angle bracket stands, if there is one. -/
structure Generics where
  opening : Option Position
  params : Entries GenericParam
  deriving Repr

namespace Generics

/-- No generic parameters. -/
def empty : Generics := ⟨none, .empty⟩

/-- Lifetimes come first, whatever the order of declaration. -/
def tokens (g : Generics) : Tokens :=
  if g.params.items.isEmpty then []
  else
    Tokens.operator "<" ++ g.params.tokensWithFirst (fun p => p.kind = .lifetime) (·.tokens)
      ++ Tokens.operator ">"

end Generics

/-- A condition of a where clause. `bounded` is the type that it is on, or nothing if it is on a lifetime. -/
structure Condition where
  bounded : Option Tokens
  tokens : Tokens
  deriving Repr

abbrev WhereClause := Entries Condition

/-- A where clause without conditions leaves no trace. -/
def whereTokens (clause : WhereClause) : Tokens :=
  if clause.items.isEmpty then [] else .word "where" :: clause.tokens "," (·.tokens)

/-- How a method takes the instance. -/
structure Receiver where
  attributes : List Attribute
  /-- The ampersand and the lifetime after it. -/
  reference : Tokens
  mutability : Tokens
  self : Tokens
  /-- The colon and the type after it. -/
  annotation : Tokens
  deriving Repr

namespace Receiver

def tokens (r : Receiver) : Tokens :=
  attributeTokens r.attributes ++ r.reference ++ r.mutability ++ r.self ++ r.annotation

/-- Whether the receiver is a plain shared reference. -/
def isShared (r : Receiver) : Bool :=
  !r.reference.isEmpty && r.mutability.isEmpty && r.annotation.isEmpty

end Receiver

/-- An argument that is no receiver. -/
structure Argument where
  attributes : List Attribute
  pattern : Tokens
  type : Tokens
  deriving Repr

def Argument.tokens (a : Argument) : Tokens :=
  attributeTokens a.attributes ++ a.pattern ++ Tokens.operator ":" ++ a.type

inductive Input where
  | receiver (r : Receiver)
  | argument (a : Argument)
  deriving Repr

def Input.tokens : Input → Tokens
  | .receiver r => r.tokens
  | .argument a => a.tokens

/-- The signature of a method. Parts that may be missing are lists of tokens that may be empty. -/
structure Signature where
  constness : Tokens
  asyncness : Tokens
  unsafety : Tokens
  abi : Tokens
  name : Token
  generics : Generics
  inputs : Entries Input
  variadic : Tokens
  /-- The type of what the method returns. -/
  output : Option Tokens
  conditions : WhereClause
  deriving Repr

/-- The signature as code. Variadic arguments come last, after a comma. -/
def Signature.tokens (s : Signature) : Tokens :=
  let comma :=
    if s.variadic.isEmpty || s.inputs.items.isEmpty || s.inputs.trailing then []
    else Tokens.operator ","
  s.constness ++ s.asyncness ++ s.unsafety ++ s.abi ++ [.word "fn", s.name] ++ s.generics.tokens
    ++ [.enclosed .parenthesis (s.inputs.tokens "," Input.tokens ++ comma ++ s.variadic)]
    ++ (match s.output with
      | some type => Tokens.operator "->" ++ type
      | none => [])
    ++ whereTokens s.conditions

structure Method where
  attributes : List Attribute
  signature : Signature
  deriving Repr

inductive TraitItem where
  | method (m : Method)
  | associatedType (name : Token)
  | associatedConstant (name : Token)
  /-- An item of any other kind, with its first token's place. -/
  | other (position : Position)
  deriving Repr

/-- A trait: its declaration as code, and what forwarding needs to know of it. -/
structure TraitDeclaration where
  tokens : Tokens
  unsafety : Tokens
  name : Token
  generics : Generics
  /-- The where clause; one without conditions counts too. -/
  conditions : Option WhereClause
  items : List TraitItem
  deriving Repr

end LiveSwap.Forwarding
