/-!
# Hexadecimal digits

Digits up to base 16, and the characters given by their code points in hexadecimal digits.
-/

namespace RowMap.Text

/-- The digit of a value below 16; letters are small. -/
def hexDigit (d : Nat) : Char :=
  if d < 10 then Char.ofNat (48 + d) else Char.ofNat (87 + d)

/-- The value of a digit of either case. -/
def hexValue? (c : Char) : Option Nat :=
  let n := c.toNat
  if 48 ≤ n ∧ n ≤ 57 then some (n - 48)
  else if 97 ≤ n ∧ n ≤ 102 then some (n - 87)
  else if 65 ≤ n ∧ n ≤ 70 then some (n - 55)
  else none

/-- The number that one or more digits of a base up to 16 stand for. -/
def basedNumber? (base : Nat) (digits : List Char) : Option Nat :=
  if digits = [] then none
  else digits.foldlM (fun n c => do
    let d ← hexValue? c
    if d < base then some (base * n + d) else none) 0

/-- The character of a code point in hexadecimal digits. -/
def codedChar? (digits : List Char) : Option Char := do
  let code ← basedNumber? 16 digits
  if code.isValidChar then some (Char.ofNat code) else none

/-- The character given by the next `width` digits. -/
def readCodedChar (width : Nat) (cs : List Char) : Option (Char × List Char) :=
  if (cs.take width).length = width then (codedChar? (cs.take width)).map (·, cs.drop width)
  else none

end RowMap.Text
