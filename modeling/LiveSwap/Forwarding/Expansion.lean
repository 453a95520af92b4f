import LiveSwap.Forwarding.Lexer
import LiveSwap.Forwarding.Rule
/-!
Generated forwarding: the implementation of a trait for its proxies.

A trait comes back as it was, followed by an implementation in which each method hands its arguments on to the
installed instance, or by the rules that the trait breaks.
-/

namespace LiveSwap.Forwarding

/-- The name of the type parameter that stands for the instance's type. -/
def targetType : String := "__PhoenixTarget"

/-- The name that the instance goes by inside a forwarding call. -/
def targetName : String := "__target"

/-- The name of the argument in a given place; the receiver has place 0. -/
def argumentName (place : Nat) : String := "__arg" ++ toString place

/-- A call of the trait's own method on the instance. -/
structure ForwardedCall where
  method : Token
  /-- The type and constant parameters, handed on by name. -/
  parameters : List Token
  arguments : List String
  deriving Repr

/-- A method that forwards: the attributes that it keeps, its signature and its call. -/
structure ForwardedMethod where
  attributes : List Attribute
  signature : Signature
  call : ForwardedCall
  deriving Repr

structure ForwardingImpl where
  trait : Token
  methods : List ForwardedMethod
  deriving Repr

/-! ### Methods -/

/-- An input under the name for its place. The receiver keeps its own. -/
def Input.renamed (place : Nat) : Input → Input
  | .receiver r => .receiver r
  | .argument a => .argument { a with pattern := [.word (argumentName place)] }

/-- The name that an input is handed on by. -/
def Input.handedOn? (place : Nat) : Input → Option String
  | .receiver _ => none
  | .argument _ => some (argumentName place)

namespace Signature

/-- The signature with all arguments named for their places. -/
def renamed (s : Signature) : Signature :=
  { s with inputs := { s.inputs with items := s.inputs.items.mapIdx Input.renamed } }

/-- The names of the arguments in order. -/
def argumentNames (s : Signature) : List String :=
  (s.inputs.items.mapIdx Input.handedOn?).filterMap id

/-- The names of the type and constant parameters in order. -/
def explicitParameters (s : Signature) : List Token :=
  (s.generics.params.items.filter fun p => p.kind ≠ .lifetime).map (·.name)

end Signature

/-- The forwarding form of a method. Of its attributes it keeps those that decide whether it exists. -/
def Method.forwarded (m : Method) : ForwardedMethod where
  attributes := m.attributes.filter fun a => a.word = some "cfg"
  signature := m.signature.renamed
  call := ⟨m.signature.name, m.signature.explicitParameters, m.signature.argumentNames⟩

/-- The forwarding form of an item, if it is a method. -/
def TraitItem.forwarded? : TraitItem → Option ForwardedMethod
  | .method m => some m.forwarded
  | _ => none

/-! ### Traits -/

/-- The declaration, kept as it was, and what is generated for it. -/
structure Expansion where
  kept : Tokens
  generated : Except (List Violation) ForwardingImpl

/-- What is generated for a trait: an implementation if no rule is broken. -/
def TraitDeclaration.generate (t : TraitDeclaration) : Except (List Violation) ForwardingImpl :=
  match t.violations with
  | [] => .ok ⟨t.name, t.items.filterMap TraitItem.forwarded?⟩
  | violations => .error violations

def TraitDeclaration.expand (t : TraitDeclaration) : Expansion := ⟨t.tokens, t.generate⟩

/-! ### Code

`path` is the path of the crate that proxies come from. -/

/-- Separates entries by commas. -/
def commas : List Tokens → Tokens
  | [] => []
  | [t] => t
  | t :: rest => t ++ Tokens.operator "," ++ commas rest

/-- A type in angle brackets. -/
def angled (inner : Tokens) : Tokens := Tokens.operator "<" ++ inner ++ Tokens.operator ">"

/-- A path from the root of all crates. -/
def rootPath (segments : List String) : Tokens :=
  segments.flatMap fun s => Tokens.operator "::" ++ [.word s]

/-- The type of proxies. -/
def proxyPath (path : Tokens) : Tokens := path ++ Tokens.operator "::" ++ [.word "ForwardingProxy"]

/-- The call on the instance. A call without arguments keeps the comma after the instance. -/
def ForwardedCall.tokens (trait : Token) (c : ForwardedCall) : Tokens :=
  let parameters :=
    if c.parameters.isEmpty then []
    else Tokens.operator "::" ++ angled (commas (c.parameters.map ([·])))
  angled [.word targetType, .word "as", trait] ++ Tokens.operator "::" ++ [c.method] ++ parameters
    ++ [.enclosed .parenthesis
      (.word targetName :: Tokens.operator "," ++ commas (c.arguments.map fun a => [.word a]))]

/-- The closure that is run against the instance. -/
def ForwardedCall.closure (trait : Token) (c : ForwardedCall) : Tokens :=
  [.word "move"] ++ Tokens.operator "|" ++ [.word targetName] ++ Tokens.operator ":"
    ++ Tokens.operator "&" ++ [.word targetType] ++ Tokens.operator "|"
    ++ [.enclosed .brace (c.tokens trait)]

/-- A method's body hands the closure to the proxy. -/
def ForwardedMethod.body (path : Tokens) (trait : Token) (m : ForwardedMethod) : Tokens :=
  proxyPath path ++ Tokens.operator "::" ++ [.word "forward", .enclosed .parenthesis
    (.word "self" :: Tokens.operator "," ++ m.call.closure trait)]

/-- An attribute that is a single word. -/
def wordAttribute (text : String) : Tokens := Tokens.operator "#" ++ [.enclosed .bracket [.word text]]

def ForwardedMethod.tokens (path : Tokens) (trait : Token) (m : ForwardedMethod) : Tokens :=
  attributeTokens m.attributes ++ wordAttribute "inline" ++ m.signature.tokens
    ++ [.enclosed .brace (m.body path trait)]

/-- What the instance's type has to satisfy. -/
def targetBounds (trait : Token) : Tokens :=
  let plus := Tokens.operator "+"
  Tokens.operator "?" ++ rootPath ["core", "marker", "Sized"] ++ plus ++ [trait] ++ plus
    ++ rootPath ["core", "marker", "Send"] ++ plus ++ rootPath ["core", "marker", "Sync"] ++ plus
    ++ Tokens.lifetime "static"

/-- The implementation as code. -/
def ForwardingImpl.tokens (path : Tokens) (i : ForwardingImpl) : Tokens :=
  let target := [Token.word targetType]
  wordAttribute "automatically_derived" ++ [.word "impl"] ++ angled target ++ [i.trait, .word "for"]
    ++ proxyPath path ++ angled target ++ [.word "where"] ++ target ++ Tokens.operator ":"
    ++ targetBounds i.trait ++ Tokens.operator ","
    ++ [.enclosed .brace (i.methods.flatMap (·.tokens path i.trait))]

/-- A broken rule as code: an invocation that stops the compiler with the rule's message. It stands where the
rule is broken. -/
def Violation.tokens (v : Violation) : Tokens :=
  let stop := rootPath ["core", "compile_error"] ++ Tokens.operator "!"
    ++ [.enclosed .brace [.literal (Lexeme.literalOf v.rule.message.toList) .start]]
  stop.map (·.movedTo v.position)

/-- All code that a trait comes back as: itself, and what is generated for it. -/
def Expansion.tokens (path : Tokens) (e : Expansion) : Tokens :=
  e.kept ++ match e.generated with
    | .ok i => i.tokens path
    | .error violations => violations.flatMap Violation.tokens

end LiveSwap.Forwarding
