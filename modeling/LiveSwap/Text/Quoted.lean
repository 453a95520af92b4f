import LiveSwap.Text.Printable
/-!
Quoted text in diagnostics: double quotes around the text, a backslash before quotes and backslashes, short
escapes for the usual control characters, and the code point in hexadecimal for whatever cannot be shown.
-/

namespace LiveSwap.Text.Quoted

/-- One character inside the quotes. -/
def encodeChar (c : Char) : List Char :=
  if c = '"' then ['\\', '"']
  else if c = '\\' then ['\\', '\\']
  else if c = '\n' then ['\\', 'n']
  else if c = '\r' then ['\\', 'r']
  else if c = '\t' then ['\\', 't']
  else if c.toNat = 0 then ['\\', '0']
  else if isPrintable c && !isGraphemeExtend c then [c]
  else ['\\', 'u', '\x7b'] ++ Nat.toDigits 16 c.toNat ++ ['\x7d']

def encode (s : String) : String :=
  String.ofList ('"' :: s.toList.flatMap encodeChar ++ ['"'])

/-- A bracketed list of quoted texts. -/
def encodeList (items : List String) : String :=
  "[" ++ ", ".intercalate (items.map encode) ++ "]"

end LiveSwap.Text.Quoted
