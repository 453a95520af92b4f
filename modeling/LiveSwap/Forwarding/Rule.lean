import LiveSwap.Forwarding.Trait
/-!
What a trait must be like to be forwarded.

A forwarding call runs against whichever instance is installed at the moment, and the instance may be replaced
as soon as the call returns. So a method has to take `&self`, nothing may borrow from the instance, and the
instance's own type may not show. Each rule has one text; a violation says which rule is broken, and where.
-/

namespace LiveSwap.Forwarding

inductive Rule where
  | genericTrait
  | unsafeTrait
  | associatedType
  | associatedConstant
  | otherItem
  | asyncMethod
  | unsafeMethod
  | externMethod
  | variadicMethod
  | exclusiveReceiver
  | missingReceiver
  | selfBound
  | selfArgument
  | selfReturn
  | opaqueReturn
  | borrowReturn
  deriving DecidableEq, Repr

def Rule.message : Rule → String
  | genericTrait => "#[forwarding] does not support generic traits"
  | unsafeTrait => "#[forwarding] cannot be applied to unsafe traits"
  | associatedType => "#[forwarding] does not support associated types"
  | associatedConstant => "#[forwarding] does not support associated constants"
  | otherItem => "#[forwarding] only supports method items"
  | asyncMethod => "#[forwarding] does not support async methods"
  | unsafeMethod => "#[forwarding] does not support unsafe methods"
  | externMethod => "#[forwarding] does not support extern methods"
  | variadicMethod => "#[forwarding] does not support variadic methods"
  | exclusiveReceiver =>
    "forwarded methods must take \x60&self\x60; proxies only hold shared access to the instance"
  | missingReceiver =>
    "forwarded methods must take \x60&self\x60; associated functions cannot be forwarded"
  | selfBound => "#[forwarding] does not support methods with bounds on \x60Self\x60"
  | selfArgument => "\x60Self\x60 in argument types cannot be forwarded"
  | selfReturn => "\x60Self\x60 in return types cannot be forwarded"
  | opaqueReturn => "#[forwarding] does not support \x60impl Trait\x60 return types"
  | borrowReturn =>
    "forwarded methods cannot return borrows; the instance may be replaced once the call returns"

/-- A broken rule, and the place of the code that breaks it. -/
structure Violation where
  rule : Rule
  position : Position
  deriving DecidableEq, Repr

/-! ### Searching tokens -/

namespace Tokens

mutual

/-- Where a word first occurs, at any depth. -/
def find? (text : String) : Tokens → Option Position
  | [] => none
  | t :: rest => (findIn? text t).or (find? text rest)

/-- Where a word first occurs in one token. -/
def findIn? (text : String) : Token → Option Position
  | .ident found p => if found = text then some p else none
  | .group _ inner _ => find? text inner
  | _ => none

end

/-- Whether the lifetime `'static` comes next. -/
def startsWithStatic : Tokens → Bool
  | .punct '\'' _ _ :: .ident "static" _ :: _ => true
  | _ => false

mutual

/-- Where a borrow first occurs that may end, at any depth: an ampersand that `'static` does not follow, or a
lifetime other than `'static`. -/
def borrow? : Tokens → Option Position
  | [] => none
  | t :: rest => (borrowIn? t rest).or (borrow? rest)

/-- Where such a borrow first occurs in one token, given what follows that token. -/
def borrowIn? : Token → Tokens → Option Position
  | .group _ inner _, _ => borrow? inner
  | .punct c joint p, rest =>
    if c = '&' && !startsWithStatic rest then some p
    else if c = '\'' && !startsWithStatic (.punct c joint p :: rest) then some p
    else none
  | _, _ => none

end

end Tokens

/-! ### Signatures -/

namespace Signature

/-- Breaks a rule where the tokens start, if there are any. -/
def unlessAbsent (rule : Rule) (tokens : Tokens) : Option Violation :=
  if tokens.isEmpty then none else some ⟨rule, Tokens.position tokens⟩

/-- The first input has to be a plain shared receiver. -/
def receiverViolation (s : Signature) : Option Violation :=
  match s.inputs.items with
  | .receiver r :: _ =>
    if r.isShared then none else some ⟨.exclusiveReceiver, Tokens.position r.tokens⟩
  | _ => some ⟨.missingReceiver, s.name.position⟩

/-- No condition may be on a type that holds `Self`. -/
def boundViolation (s : Signature) : Option Violation :=
  (s.conditions.items.findSome? fun c => c.bounded.bind (Tokens.find? "Self")).map fun p => ⟨.selfBound, p⟩

/-- No argument but the receiver may be of a type that holds `Self`. -/
def argumentViolation (s : Signature) : Option Violation :=
  ((s.inputs.items.drop 1).findSome? fun
    | .argument a => Tokens.find? "Self" a.type
    | .receiver _ => none).map fun p => ⟨.selfArgument, p⟩

/-- What a search finds in the type that is returned. -/
def outputViolation (s : Signature) (rule : Rule) (search : Tokens → Option Position) : Option Violation :=
  (s.output.bind search).map fun p => ⟨rule, p⟩

/-- All rules for signatures, in the order in which they are checked. -/
def violations (s : Signature) : List (Option Violation) := [
  unlessAbsent .asyncMethod s.asyncness,
  unlessAbsent .unsafeMethod s.unsafety,
  unlessAbsent .externMethod s.abi,
  unlessAbsent .variadicMethod s.variadic,
  s.receiverViolation,
  s.boundViolation,
  s.argumentViolation,
  s.outputViolation .selfReturn (Tokens.find? "Self"),
  s.outputViolation .opaqueReturn (Tokens.find? "impl"),
  s.outputViolation .borrowReturn Tokens.borrow?]

/-- The first rule that a signature breaks. -/
def violation? (s : Signature) : Option Violation := s.violations.findSome? id

end Signature

/-! ### Traits -/

namespace TraitItem

/-- The first rule that an item breaks. -/
def violation? : TraitItem → Option Violation
  | .method m => m.signature.violation?
  | .associatedType name => some ⟨.associatedType, name.position⟩
  | .associatedConstant name => some ⟨.associatedConstant, name.position⟩
  | .other p => some ⟨.otherItem, p⟩

end TraitItem

namespace TraitDeclaration

/-- The rule that a trait breaks as a whole. One without generic parameters is generic by its where clause;
that has no place of its own. -/
def violation? (t : TraitDeclaration) : Option Violation :=
  if !t.generics.params.items.isEmpty then
    some ⟨.genericTrait, t.generics.opening.getD .start⟩
  else if t.conditions.isSome then some ⟨.genericTrait, .start⟩
  else Signature.unlessAbsent .unsafeTrait t.unsafety

/-- All rules that a trait breaks: one as a whole, or else at most one per item. -/
def violations (t : TraitDeclaration) : List Violation :=
  match t.violation? with
  | some v => [v]
  | none => t.items.filterMap TraitItem.violation?

end TraitDeclaration

end LiveSwap.Forwarding
