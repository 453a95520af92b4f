import LiveSwap.Forwarding.Grammar.Closed
import LiveSwap.Forwarding.Lexer
/-!
Declarations of traits.
-/

namespace LiveSwap.Forwarding

namespace Grammar

open Reader

/-- A trait with all that is before it. -/
def traitDeclaration (sub : Sub) : Reader TraitDeclaration := do
  let attributes ← attributes sub
  let visible ← visibility
  let head ← traitHead sub
  let body ← traitBody sub
  return {
    tokens := attributeTokens attributes ++ visible ++ head.tokens ++ body.tokens
    unsafety := head.unsafety, name := head.name, generics := head.generics
    conditions := body.conditions, items := body.items }

end Grammar

/-- The trait that a text declares, if it declares exactly one and nothing else. -/
def TraitDeclaration.ofText? (text : String) : Option TraitDeclaration := do
  let tokens ← Tokens.ofText? text
  let (declaration, rest) ← (Grammar.traitDeclaration (Grammar.read (16 * text.length + 16))).run tokens
  if rest.isEmpty then some declaration else none

end LiveSwap.Forwarding
