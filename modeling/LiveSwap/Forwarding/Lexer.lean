import LiveSwap.Forwarding.Literal
import LiveSwap.Forwarding.Token
import LiveSwap.Text.Blank
import LiveSwap.Text.Quoted
/-!
From text to token trees.

Blanks and ordinary comments separate tokens. A documentation comment stands for the attribute that it
abbreviates. Text is read into lexemes first, in which delimiters stand alone; `nest` then pairs the
delimiters up. A text that cannot be read, or whose delimiters do not pair up, has no tokens.
-/

namespace LiveSwap.Forwarding

open LiveSwap.Text

/-- The characters that a text still holds, and where they start. -/
structure Cursor where
  rest : List Char
  position : Position
  deriving Repr

namespace Cursor

/-- Moves on to a point from which `rest` is left. -/
def moveTo (c : Cursor) (rest : List Char) : Cursor :=
  ⟨rest, c.position.advance (c.rest.take (c.rest.length - rest.length))⟩

def startsWith (c : Cursor) (text : String) : Bool := text.toList.isPrefixOf c.rest

end Cursor

inductive Lexeme where
  | leaf (token : Token)
  | opening (delimiter : Delimiter) (position : Position)
  | closing (delimiter : Delimiter)
  deriving Repr

namespace Lexeme

/-! ### Blanks and comments -/

/-- White space between tokens; marks of writing direction count as such. -/
def isSpace (c : Char) : Bool := isBlank c || c.toNat = 0x200E || c.toNat = 0x200F

/-- The body of a line comment and what follows it; a carriage return before the line feed belongs to
neither. -/
def line : List Char → List Char × List Char
  | [] => ([], [])
  | '\n' :: cs => ([], '\n' :: cs)
  | '\r' :: '\n' :: cs => ([], '\n' :: cs)
  | c :: cs => (c :: (line cs).1, (line cs).2)

/-- What follows a block comment, given how many are open. Block comments nest. -/
def block? : Nat → List Char → Option (List Char)
  | depth, '/' :: '*' :: cs => block? (depth + 1) cs
  | depth, '*' :: '/' :: cs => if depth ≤ 1 then some cs else block? (depth - 1) cs
  | depth, _ :: cs => block? depth cs
  | _, [] => none

/-- What follows a comment that documents nothing. -/
def comment? : List Char → Option (List Char)
  | '/' :: '/' :: '/' :: '/' :: cs => some (line cs).2
  | '/' :: '/' :: '/' :: _ | '/' :: '/' :: '!' :: _ => none
  | '/' :: '/' :: cs => some (line cs).2
  | '/' :: '*' :: '*' :: '/' :: cs => some cs
  | '/' :: '*' :: '*' :: '*' :: cs => block? 1 ('*' :: '*' :: cs)
  | '/' :: '*' :: '*' :: _ | '/' :: '*' :: '!' :: _ => none
  | '/' :: '*' :: cs => block? 1 cs
  | _ => none

/-- A block comment's text between its three opening and two closing characters, and what follows. -/
def documentedBlock? (cs : List Char) : Option (List Char × List Char) :=
  (block? 0 cs).map fun rest => ((cs.take (cs.length - rest.length - 2)).drop 3, rest)

/-- A documentation comment: whether it documents what it stands in, its text, and what follows it. -/
def documentation? (cs : List Char) : Option (Bool × List Char × List Char) :=
  let found := match cs with
    | '/' :: '/' :: '!' :: body => some (true, line body)
    | '/' :: '*' :: '!' :: _ => (documentedBlock? cs).map fun found => (true, found)
    | '/' :: '/' :: '/' :: '/' :: _ => none
    | '/' :: '/' :: '/' :: body => some (false, line body)
    | '/' :: '*' :: '*' :: '*' :: _ => none
    | '/' :: '*' :: '*' :: _ => (documentedBlock? cs).map fun found => (false, found)
    | _ => none
  found.filter fun (_, text, _) => !bareReturn text
where
  /-- Whether a carriage return stands without a line feed. -/
  bareReturn : List Char → Bool
    | [] => false
    | '\r' :: '\n' :: cs => bareReturn cs
    | c :: cs => c = '\r' || bareReturn cs

/-- A text as it stands between the quotes of a literal. A null character is written so that no digit after it
becomes a part of it. -/
def literalBody : List Char → List Char
  | [] => []
  | c :: cs =>
    let escaped := if c.toNat = 0 && cs.head?.any (fun d => '0' ≤ d && d ≤ '7') then ['\\', 'x', '0', '0']
      else Quoted.encodeChar c
    escaped ++ literalBody cs

/-- A text as a literal. -/
def literalOf (text : List Char) : String := String.ofList ('"' :: literalBody text ++ ['"'])

/-- The attribute that a documentation comment stands for. -/
def documentation (inner : Bool) (text : List Char) (p : Position) : List Lexeme :=
  let bang := if inner then [Lexeme.leaf (.punct '!' false p)] else []
  .leaf (.punct '#' false p) :: bang ++ [.leaf (.group .bracket
    [.ident "doc" p, .punct '=' false p, .literal (literalOf text) p] p)]

/-! ### Tokens -/

/-- The characters that punctuation is made of. -/
def punctuation : List Char := "~!@#$%^&*-=+|;:,<.>/?'".toList

/-- Whether a punctuation character stands here; the start of a comment is none. -/
def atPunctuation : List Char → Bool
  | '/' :: '/' :: _ | '/' :: '*' :: _ => false
  | c :: _ => punctuation.contains c
  | [] => false

/-- A name without a mark for raw names. -/
def bareName? : List Char → Option (List Char × List Char)
  | c :: cs =>
    if isIdentStart c then some (c :: cs.takeWhile isIdentContinue, cs.dropWhile isIdentContinue)
    else none
  | [] => none

/-- A name; a raw one keeps its mark, and some words cannot be raw. -/
def name? : List Char → Option (List Char × List Char)
  | 'r' :: '#' :: cs => (bareName? cs).bind fun (name, rest) =>
    if ["_", "super", "self", "Self", "crate"].contains (String.ofList name) then none
    else some ('r' :: '#' :: name, rest)
  | cs => bareName? cs

/-- How a literal that was not closed begins; a name cannot begin so. -/
def literalMarks : List String :=
  ["r\"", "r#\"", "r##", "b\"", "b'", "br\"", "br#", "c\"", "cr\"", "cr#"]

/-- The punctuation character at the cursor. An apostrophe is one only before a lifetime's name. -/
def punct? (at' : Cursor) : Option (Token × List Char) :=
  match at'.rest with
  | '\'' :: cs => (name? cs).bind fun (_, rest) =>
    match rest with
    | '\'' :: _ => none
    | '#' :: _ => if "r#".toList.isPrefixOf cs then some (.punct '\'' true at'.position, cs) else none
    | _ => some (.punct '\'' true at'.position, cs)
  | c :: cs => if atPunctuation (c :: cs) then some (.punct c (atPunctuation cs) at'.position, cs) else none
  | [] => none

/-- The token at the cursor that is no group. -/
def leaf? (at' : Cursor) : Option (Token × List Char) :=
  match Literal.rest? at'.rest with
  | some rest =>
    let text := at'.rest.take (at'.rest.length - rest.length)
    some (.literal (String.ofList text) at'.position, rest)
  | none => punct? at' <|>
    if literalMarks.any at'.startsWith then none
    else (name? at'.rest).map fun (name, rest) => (.ident (String.ofList name) at'.position, rest)

/-- The text that stands for something that could not be read. It counts as a literal. -/
def placeholder : List Char := "(/*ERROR*/)".toList

/-- The delimiter that a character opens or closes. -/
def openedBy? (c : Char) : Option Delimiter :=
  if c = '(' then some .parenthesis else if c = '[' then some .bracket
  else if c = '\x7b' then some .brace else none

def closedBy? (c : Char) : Option Delimiter :=
  if c = ')' then some .parenthesis else if c = ']' then some .bracket
  else if c = '\x7d' then some .brace else none

/-- What stands at the cursor, and the characters after it. Blanks and comments yield no lexeme. -/
def next? (at' : Cursor) : Option (List Lexeme × List Char) :=
  match at'.rest with
  | [] => none
  | c :: cs =>
    if isSpace c then some ([], cs.dropWhile isSpace)
    else match comment? (c :: cs) with
      | some rest => some ([], rest)
      | none => match documentation? (c :: cs) with
        | some (inner, text, rest) => some (documentation inner text at'.position, rest)
        | none =>
          if placeholder.isPrefixOf at'.rest then
            some ([.leaf (.literal (String.ofList placeholder) at'.position)], cs.drop (placeholder.length - 1))
          else match openedBy? c, closedBy? c with
            | some d, _ => some ([.opening d at'.position], cs)
            | none, some d => some ([.closing d], cs)
            | none, none => (leaf? at').map fun (token, rest) => ([.leaf token], rest)

/-- All lexemes of a text. Each step takes at least one character, so as many steps as there are
characters suffice. -/
def all? : Nat → Cursor → Option (List Lexeme)
  | _, ⟨[], _⟩ => some []
  | 0, _ => none
  | n + 1, at' => do
    let (found, rest) ← next? at'
    return found ++ (← all? n (at'.moveTo rest))

/-- A group that is still open: its delimiter, where it starts and what stands before it, last token
first. -/
structure Frame where
  delimiter : Delimiter
  position : Position
  before : Tokens

/-- Pairs delimiters up. `tokens` are those of the innermost open group, last one first. -/
def nest? : List Frame → Tokens → List Lexeme → Option Tokens
  | [], tokens, [] => some tokens.reverse
  | _ :: _, _, [] => none
  | frames, tokens, .leaf t :: rest => nest? frames (t :: tokens) rest
  | frames, tokens, .opening d p :: rest => nest? (⟨d, p, tokens⟩ :: frames) [] rest
  | [], _, .closing _ :: _ => none
  | frame :: frames, tokens, .closing d :: rest =>
    if frame.delimiter = d then
      nest? frames (.group d tokens.reverse frame.position :: frame.before) rest
    else none

end Lexeme

/-- The tokens of a text. A byte order mark in front of it is skipped. -/
def Tokens.ofText? (text : String) : Option Tokens :=
  let whole : Cursor := ⟨text.toList, .start⟩
  let body := match whole.rest with
    | c :: cs => if c.toNat = 0xFEFF then whole.moveTo cs else whole
    | [] => whole
  (Lexeme.all? body.rest.length body).bind (Lexeme.nest? [] [])

end LiveSwap.Forwarding
