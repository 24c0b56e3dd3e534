import RowMap.Binary64.Shortest

/-!
# Doubles as text

`Binary64.text` writes a double positionally with the fewest digits that read back, and
`Binary64.read?` reads decimal text, rounding to the nearest double.
-/

namespace RowMap.Binary64

/-- The double nearest to a decimal. A number that starts more than 310 places before the point is
beyond every double, one that starts more than 330 places behind it is below every double. -/
def ofDecimal (negative : Bool) (d : Decimal) : Binary64 :=
  if d.coefficient = 0 then zero negative
  else if 310 < d.pointPlace then infinity negative
  else if d.pointPlace < -330 then zero negative
  else ofRatio negative (d.coefficient * Nat.pow 10 d.exponent.toNat)
    (Nat.pow 10 (-d.exponent).toNat)

/-- Reads a signed decimal, or one of the words `nan`, `inf` and `infinity` in any case. -/
def read? (text : List Char) : Option Binary64 :=
  let negative := text.head? = some '-'
  let unsigned := if negative ∨ text.head? = some '+' then text.tail else text
  let word := unsigned.map Char.toLower
  if word = "nan".toList then some .nan
  else if word = "inf".toList ∨ word = "infinity".toList then some (infinity negative)
  else (Decimal.read? unsigned).map (ofDecimal negative)

/-- Shortest digits without an exponent; a whole number has no point, and of two equally near
digit strings the larger is taken. -/
def text : Binary64 → String
  | .nan => "NaN"
  | .signed negative rank =>
    let magnitude :=
      if rank.val = infiniteRank then "inf".toList
      else if rank.val = 0 then ['0']
      else (shortest .up rank).positional
    String.ofList (if negative then '-' :: magnitude else magnitude)

end RowMap.Binary64
