import LiveSwap.Text.Identifier
/-!
The lexical form of literals: quoted texts with their escapes, raw texts, single characters and numbers.

Every function here takes the characters from some point on and gives what is left after the literal, or
nothing if no literal of its kind stands there.
-/

namespace LiveSwap.Forwarding.Literal

open LiveSwap.Text

/-- What a quoted text may hold. -/
inductive Flavour where
  | text
  | bytes
  | terminated
  deriving DecidableEq, Repr

/-- The value of a hexadecimal digit. -/
def hexValue? (c : Char) : Option Nat :=
  if c.isDigit then some (c.toNat - 48)
  else if 'a' ≤ c ∧ c ≤ 'f' then some (c.toNat - 87)
  else if 'A' ≤ c ∧ c ≤ 'F' then some (c.toNat - 55)
  else none

/-- Where a reader stands inside quotes. -/
inductive State where
  | plain
  /-- After a carriage return, which a line feed must follow. -/
  | carriage
  | escaped
  | hexFirst
  | hexSecond (high : Nat)
  | codePointOpen
  | codePoint (digits value : Nat)
  /-- Among the blanks after an escaped end of line. -/
  | continued
  | continuedCarriage
  deriving DecidableEq, Repr

/-- Whether a code point stands for a character that the flavour admits. -/
def admits (f : Flavour) (n : Nat) : Bool :=
  n.isValidChar && !(f = .terminated && n = 0)

/-- The state after an escape's first character. -/
def State.afterEscape (f : Flavour) (c : Char) : Option State :=
  if c = 'x' then some .hexFirst
  else if c = 'u' then if f = .bytes then none else some .codePointOpen
  else if c = '0' then if f = .terminated then none else some .plain
  else if ['n', 'r', 't', '\\', '\'', '"'].contains c then some .plain
  else if c = '\n' then some .continued
  else if c = '\r' then some .continuedCarriage
  else none

/-- The state after an ordinary character. -/
def State.afterPlain (f : Flavour) (c : Char) : Option State :=
  if c = '\\' then some .escaped
  else if c = '\r' then some .carriage
  else if f = .bytes && 128 ≤ c.toNat then none
  else if f = .terminated && c.toNat = 0 then none
  else some .plain

/-- The state after one more character, if the character is in place. -/
def State.next (f : Flavour) : State → Char → Option State
  | .plain, c => afterPlain f c
  | .carriage, c => if c = '\n' then some .plain else none
  | .escaped, c => afterEscape f c
  | .hexFirst, c => (hexValue? c).bind fun d =>
    if f = .text && 8 ≤ d then none else some (.hexSecond d)
  | .hexSecond high, c => (hexValue? c).bind fun d =>
    if f = .terminated && high = 0 && d = 0 then none else some .plain
  | .codePointOpen, c => if c = '\x7b' then some (.codePoint 0 0) else none
  | .codePoint digits value, c =>
    if c = '\x7d' then if 0 < digits && admits f value then some .plain else none
    else if c = '_' && 0 < digits then some (.codePoint digits value)
    else (hexValue? c).bind fun d =>
      if digits = 6 then none else some (.codePoint (digits + 1) (16 * value + d))
  | .continued, c =>
    if c = ' ' || c = '\t' || c = '\n' then some .continued
    else if c = '\r' then some .continuedCarriage
    else afterPlain f c
  | .continuedCarriage, c => if c = '\n' then some .continued else none

/-- An identifier glued to a literal is its suffix. -/
def skipSuffix : List Char → List Char
  | [] => []
  | c :: cs => if isIdentStart c then cs.dropWhile isIdentContinue else c :: cs

/-- Reads on to the closing quotes. -/
def untilQuote (f : Flavour) : State → List Char → Option (List Char)
  | _, [] => none
  | s, c :: cs =>
    if c = '"' && (s = .plain || s = .continued) then some (skipSuffix cs)
    else (s.next f c).bind fun s => untilQuote f s cs

/-- Reads on to the end of an escape. -/
def untilPlain (f : Flavour) : State → List Char → Option (List Char)
  | .plain, cs => some cs
  | _, [] => none
  | s, c :: cs => (s.next f c).bind fun s => untilPlain f s cs

/-- Reads the body of a raw text, closed by quotes and as many `#` as opened it. -/
def untilRawQuote (f : Flavour) (hashes : Nat) : List Char → Option (List Char)
  | [] => none
  | c :: cs =>
    if c = '"' && cs.take hashes = List.replicate hashes '#' then some (skipSuffix (cs.drop hashes))
    else if c = '\r' && cs.head? != some '\n' then none
    else if f = .bytes && 128 ≤ c.toNat then none
    else if f = .terminated && c.toNat = 0 then none
    else untilRawQuote f hashes cs

/-- Reads a raw text after the letters that announce it. -/
def raw (f : Flavour) (cs : List Char) : Option (List Char) :=
  let hashes := (cs.takeWhile (· = '#')).length
  match cs.drop hashes with
  | '"' :: body => if hashes ≤ 255 then untilRawQuote f hashes body else none
  | _ => none

/-- Reads one character after its opening apostrophe. -/
def character (f : Flavour) : List Char → Option (List Char)
  | [] => none
  | c :: cs =>
    let closed : List Char → Option (List Char)
      | '\'' :: rest => some (skipSuffix rest)
      | _ => none
    if c = '\\' then
      match cs with
      | '\n' :: _ | '\r' :: _ => none
      | _ => (untilPlain f .escaped cs).bind closed
    else if f = .bytes && 128 ≤ c.toNat then none
    else closed cs

/-! ### Numbers -/

def isDecimal (c : Char) : Bool := c.isDigit || c = '_'

/-- Nothing may follow a number that an identifier could go on with. -/
def wordBreak (cs : List Char) : Option (List Char) :=
  match cs with
  | c :: _ => if isIdentContinue c then none else some cs
  | [] => some []

/-- The part after the letter of an exponent; it holds a digit. -/
def exponent? (cs : List Char) : Option (List Char) :=
  let afterSign := match cs.dropWhile (· = '_') with
    | '+' :: rest | '-' :: rest => rest
    | rest => rest
  let digits := afterSign.takeWhile isDecimal
  if digits.any Char.isDigit then some (afterSign.dropWhile isDecimal) else none

/-- A number with a point or an exponent. -/
def float? (cs : List Char) : Option (List Char) := do
  let afterWhole := cs.dropWhile isDecimal
  let (hasPoint, afterFraction) ← match afterWhole with
    | '.' :: rest =>
      match rest with
      | c :: _ => if c = '.' || isIdentStart c then none else some (true, rest.dropWhile isDecimal)
      | [] => some (true, [])
    | _ => some (false, afterWhole)
  let letter := match afterFraction with
    | 'e' :: rest | 'E' :: rest => some rest
    | _ => none
  match letter.bind exponent?, hasPoint with
  | some rest, _ => wordBreak (skipSuffix rest)
  | none, true => wordBreak (skipSuffix afterFraction)
  | none, false => none

/-- Reads digits of a base; a digit from `0` to `9` that the base does not have spoils the number. -/
def digits? (base : Nat) : Bool → List Char → Option (List Char)
  | seen, [] => if seen then some [] else none
  | seen, c :: cs =>
    if c = '_' then if !seen && base = 10 then none else digits? base seen cs
    else match hexValue? c with
      | none => if seen then some (c :: cs) else none
      | some d =>
        if d < base then digits? base true cs
        else if c.isDigit then none
        else if seen then some (c :: cs) else none

/-- A whole number, in base ten or in one that its first letters name. -/
def whole? (cs : List Char) : Option (List Char) :=
  let rest := match cs with
    | '0' :: 'x' :: rest => digits? 16 false rest
    | '0' :: 'o' :: rest => digits? 8 false rest
    | '0' :: 'b' :: rest => digits? 2 false rest
    | _ => digits? 10 false cs
  rest.bind fun rest => wordBreak (skipSuffix rest)

/-- A number. -/
def number? (cs : List Char) : Option (List Char) :=
  match cs with
  | c :: _ => if c.isDigit then float? cs <|> whole? cs else none
  | [] => none

/-- The value of digits of a base, between which there may be underscores. -/
def value? (base : Nat) (cs : List Char) : Option Nat :=
  match cs.filter (· ≠ '_') with
  | [] => none
  | digits => digits.foldlM (fun n c =>
      (hexValue? c).bind fun d => if d < base then some (base * n + d) else none) 0

/-- The place in a tuple that a literal stands for: a whole number without a suffix, below 2^32. -/
def place? (text : String) : Option Nat :=
  let value := match text.toList with
    | '0' :: 'x' :: cs => value? 16 cs
    | '0' :: 'o' :: cs => value? 8 cs
    | '0' :: 'b' :: cs => value? 2 cs
    | cs => value? 10 cs
  value.filter (· < 4294967296)

/-! ### All literals -/

/-- What is left after the literal at the start of the text. -/
def rest? (cs : List Char) : Option (List Char) :=
  match cs with
  | '"' :: cs => untilQuote .text .plain cs
  | 'r' :: cs => raw .text cs
  | 'b' :: '"' :: cs => untilQuote .bytes .plain cs
  | 'b' :: 'r' :: cs => raw .bytes cs
  | 'b' :: '\'' :: cs => character .bytes cs
  | 'c' :: '"' :: cs => untilQuote .terminated .plain cs
  | 'c' :: 'r' :: cs => raw .terminated cs
  | '\'' :: cs => character .text cs
  | cs => number? cs

end LiveSwap.Forwarding.Literal
