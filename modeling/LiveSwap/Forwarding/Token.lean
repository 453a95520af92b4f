/-!
Token trees: what an interface declaration is written in, and what generated code is made of.

A token tree is an identifier, a punctuation character, a literal or a delimited group of token trees. A
punctuation character that is *joint* belongs together with the next one, so `->` is a joint `-` followed by
`>`. Every token knows where it starts.
-/

namespace LiveSwap.Forwarding

/-- A place in a text: lines count from one, columns from zero. -/
structure Position where
  line : Nat
  column : Nat
  deriving DecidableEq, Repr

namespace Position

/-- The start of a text. Tokens that no text holds are said to stand here. -/
def start : Position := ⟨1, 0⟩

/-- The place after a character. -/
def after (p : Position) (c : Char) : Position :=
  if c = '\n' then ⟨p.line + 1, 0⟩ else ⟨p.line, p.column + 1⟩

/-- The place after some characters. -/
def advance (p : Position) (cs : List Char) : Position := cs.foldl after p

end Position

inductive Delimiter where
  | parenthesis
  | bracket
  | brace
  /-- Nothing is written. What a macro inserts is held together like this. -/
  | invisible
  deriving DecidableEq, Repr

inductive Token where
  | ident (text : String) (position : Position)
  | punct (char : Char) (joint : Bool) (position : Position)
  | literal (text : String) (position : Position)
  | group (delimiter : Delimiter) (inner : List Token) (position : Position)
  deriving Repr

instance : Inhabited Token := ⟨.literal "" .start⟩

abbrev Tokens := List Token

namespace Token

def position : Token → Position
  | ident _ p | punct _ _ p | literal _ p | group _ _ p => p

/-- The token at another place. What a group holds stays where it is. -/
def movedTo (p : Position) : Token → Token
  | ident text _ => ident text p
  | punct c joint _ => punct c joint p
  | literal text _ => literal text p
  | group d inner _ => group d inner p

def isIdent (text : String) : Token → Bool
  | ident t _ => t = text
  | _ => false

def isPunct (char : Char) : Token → Bool
  | punct c _ _ => c = char
  | _ => false

/-! ### Generated tokens -/

/-- A generated identifier. -/
def word (text : String) : Token := .ident text .start

/-- A generated group. -/
def enclosed (delimiter : Delimiter) (inner : Tokens) : Token := .group delimiter inner .start

end Token

namespace Tokens

/-- Where the first token starts. -/
def position : Tokens → Position
  | [] => .start
  | t :: _ => t.position

/-- A generated operator; its characters belong together. -/
def operator (text : String) : Tokens := go text.toList
where
  go : List Char → Tokens
    | [] => []
    | [c] => [.punct c false .start]
    | c :: cs => .punct c true .start :: go cs

/-- A generated lifetime. -/
def lifetime (name : String) : Tokens := [.punct '\'' true .start, .word name]

/-! ### Printing

Tokens are separated by one space, save after a joint character. Parentheses and brackets hug what they
hold, braces keep a space on either side, and of an invisible group only what it holds is seen. -/

/-- The text of the opening delimiter, and of the closing one. -/
def opening : Delimiter → String
  | .parenthesis => "("
  | .bracket => "["
  | .brace => "\x7b "
  | .invisible => ""

def closing (empty : Bool) : Delimiter → String
  | .parenthesis => ")"
  | .bracket => "]"
  | .brace => if empty then "\x7d" else " \x7d"
  | .invisible => ""

mutual

/-- The text of one token. -/
def renderToken : Token → String
  | .ident text _ => text
  | .punct c _ _ => String.singleton c
  | .literal text _ => text
  | .group d inner _ => opening d ++ render inner ++ closing inner.isEmpty d

/-- The text of a list of tokens. -/
def render : Tokens → String
  | [] => ""
  | [t] => renderToken t
  | t :: u :: rest =>
    let gap := match t with
      | .punct _ true _ => ""
      | _ => " "
    renderToken t ++ gap ++ render (u :: rest)

end

end Tokens

end LiveSwap.Forwarding
