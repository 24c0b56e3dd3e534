import RowMap.Decimal.Digits

/-!
# Decimals

A decimal is a coefficient times a power of ten. `Decimal.read?` reads the usual notation
(digits, an optional point, an optional exponent), and the layouts write one: `positional` never
uses an exponent, `scientific` always does.
-/

namespace RowMap

/-- The number `coefficient * 10 ^ exponent`. -/
structure Decimal where
  coefficient : Nat
  exponent : Int
  deriving DecidableEq

namespace Decimal

/-! ## Reading -/

/-- Reads an unsigned decimal up to the end of the text: digits with at most one point among or
beside them, at least one digit, then perhaps an exponent. -/
def read? (cs : List Char) : Option Decimal :=
  let whole := cs.takeWhile isDigit
  let afterWhole := cs.dropWhile isDigit
  let fraction := match afterWhole with
    | '.' :: rest => rest.takeWhile isDigit
    | _ => []
  let rest := match afterWhole with
    | '.' :: rest => rest.dropWhile isDigit
    | _ => afterWhole
  if whole = [] ∧ fraction = [] then none
  else
    let coefficient := value (whole ++ fraction)
    match rest with
    | [] => some ⟨coefficient, -fraction.length⟩
    | mark :: rest =>
      if mark = 'e' ∨ mark = 'E' then
        (signed? rest).map fun exponent => ⟨coefficient, exponent - fraction.length⟩
      else none

/-! ## Layouts -/

/-- The place of the point: this many digits stand before it. -/
def pointPlace (d : Decimal) : Int :=
  (digits d.coefficient).length + d.exponent

/-- The digits with the point where it belongs, zeros filling the gap; a whole number has no
point. -/
def positional (d : Decimal) : List Char :=
  let ds := digits d.coefficient
  if 0 ≤ d.exponent then ds ++ List.replicate d.exponent.toNat '0'
  else if 0 < d.pointPlace then
    ds.take d.pointPlace.toNat ++ '.' :: ds.drop d.pointPlace.toNat
  else '0' :: '.' :: (List.replicate (-d.pointPlace).toNat '0' ++ ds)

/-- One digit, the others after a point if there are any, and a signed exponent. -/
def scientific (d : Decimal) : List Char :=
  let exponent := d.pointPlace - 1
  let significand := match digits d.coefficient with
    | first :: second :: rest => first :: '.' :: second :: rest
    | short => short
  significand ++ 'e' :: (if exponent < 0 then '-' else '+') :: digits exponent.natAbs

end Decimal

end RowMap
