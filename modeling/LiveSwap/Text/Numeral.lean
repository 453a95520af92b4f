import LiveSwap.Text.Pieces
/-!
Signed 32-bit decimal numerals.

`read?` accepts an optional sign followed by one or more ASCII digits, as long as the value fits in
32 bits; `write` prints the canonical numeral of a value.
-/

namespace LiveSwap.Text.Numeral

/-- The value of one decimal digit. -/
def digitValue (c : Char) : Nat := c.toNat - '0'.toNat

/-- The value of a digit string, most significant digit first. -/
def digitsValue (ds : List Char) : Nat := ds.foldl (fun n d => 10 * n + digitValue d) 0

/-- The value of one or more digits and nothing else. -/
def magnitude? (ds : List Char) : Option Nat :=
  if ds.isEmpty = false ∧ ds.all Char.isDigit then some (digitsValue ds) else none

/-- The value of a numeral with an optional sign, of any size. -/
def signed? : List Char → Option Int
  | '-' :: ds => (magnitude? ds).map fun n => -(n : Int)
  | '+' :: ds => (magnitude? ds).map Int.ofNat
  | ds => (magnitude? ds).map Int.ofNat

/-- The values that fit in 32 bits. -/
def Fits (n : Int) : Prop := -2147483648 ≤ n ∧ n ≤ 2147483647

instance (n : Int) : Decidable (Fits n) := inferInstanceAs (Decidable (_ ∧ _))

/-- The value of a numeral, if it is one and its value fits. -/
def read? (cs : List Char) : Option Int32 :=
  (signed? cs).bind fun n => if Fits n then some (Int32.ofInt n) else none

/-- The canonical numeral: a minus sign for negative values, no leading zeros. -/
def write (n : Int32) : List Char :=
  if n.toInt < 0 then '-' :: Nat.toDigits 10 n.toInt.natAbs else Nat.toDigits 10 n.toInt.natAbs

end LiveSwap.Text.Numeral
