import RowMap.Binary64.Shortest
import RowMap.Json.Basic

/-!
# Numbers in JSON text

`Json.Number.text` writes a number and `Json.Number.ofLiteral?` evaluates a literal. An integer
that fits 64 bits stays an integer. Any other literal becomes a double in a fixed way that is not
always the nearest one: the leading digits that fit 64 bits are taken as a double, which is then
multiplied or divided once by a power of ten.
-/

namespace RowMap.Json.Number

open Decimal (digitValue digits)
open Binary64 (nearestRank units unitsPerOne infiniteRank)

/-! ## Writing -/

/-- A finite magnitude with a point or an exponent: positional from `10 ^ (-5)` up to below
`10 ^ 16`, otherwise with a signed exponent. -/
def magnitudeText (rank : Nat) : List Char :=
  let d := Binary64.shortest .toEven rank
  if rank = 0 then "0.0".toList
  else if -5 < d.pointPlace ∧ d.pointPlace ≤ 16 then
    if 0 ≤ d.exponent then d.positional ++ ['.', '0'] else d.positional
  else d.scientific

def text : Number → List Char
  | .integer n _ => Decimal.signed n
  | .real .nan _ => []
  | .real (.signed negative rank) _ =>
    if negative then '-' :: magnitudeText rank else magnitudeText rank

/-! ## Evaluating literals -/

/-- A number literal: its sign, the digits before and after the point, and the exponent. -/
structure Literal where
  negative : Bool
  whole : List Char
  fraction : Option (List Char)
  exponent : Option Int

/-- Appends digits to a significand as long as it stays below `2 ^ 64`; the digits left over are
returned with it. -/
def absorb : Nat → List Char → Nat × List Char
  | significand, [] => (significand, [])
  | significand, c :: rest =>
    let next := 10 * significand + digitValue c
    if next < 0x10000000000000000 then absorb next rest else (significand, c :: rest)

/-- The rank of the double nearest to a power of ten. -/
def powerRank (n : Nat) : Nat :=
  nearestRank (Nat.pow 10 n) 1

/-- The rounded product of a magnitude and a power of ten. -/
def timesPower (rank n : Nat) : Nat :=
  nearestRank (units rank * units (powerRank n)) (unitsPerOne * unitsPerOne)

/-- The rounded quotient of a magnitude and a power of ten. -/
def overPower (rank n : Nat) : Nat :=
  nearestRank (units rank) (units (powerRank n))

/-- Divides by `10 ^ 308` the given number of times, or until nothing is left. -/
def overLargest : Nat → Nat → Nat
  | rank, 0 => rank
  | rank, times + 1 => if rank = 0 then 0 else overLargest (overPower rank 308) times

/-- The magnitude `significand * 10 ^ exponent`; `none` if it is too large for a double. -/
def scale? (significand : Nat) (exponent : Int) : Option Nat :=
  let rank := nearestRank significand 1
  if 0 ≤ exponent then
    if exponent ≤ 308 then
      let product := timesPower rank exponent.toNat
      if product < infiniteRank then some product else none
    else if rank = 0 then some 0
    else none
  else
    let places := (-exponent).toNat
    let times := (places - 1) / 308
    some (overPower (overLargest rank times) (places - 308 * times))

/-- The double of a literal that is not kept as an integer. An exponent that does not fit 32 bits is
out of range unless nothing is left of the number. -/
def real? (l : Literal) : Option Number :=
  let whole := absorb 0 l.whole
  let fraction := absorb whole.1 (l.fraction.getD [])
  let taken := (l.fraction.getD []).length - fraction.2.length
  let start : Int := whole.2.length - taken
  let exponent := l.exponent.getD 0
  let magnitude : Option Nat :=
    if 0x80000000 ≤ exponent ∧ fraction.1 ≠ 0 then none
    else if 0x80000000 ≤ exponent ∨ exponent ≤ -0x80000000 then some 0
    else scale? fraction.1 (start + exponent)
  match magnitude with
  | none => none
  | some rank =>
    if h : rank < infiniteRank then
      some (.real (.signed l.negative ⟨rank, Nat.lt_succ_of_lt h⟩) (by simpa [Binary64.isFinite]))
    else none

/-- The number that a literal stands for; `none` if it is out of range. Minus zero is a double. -/
def ofLiteral? (l : Literal) : Option Number :=
  if l.fraction = none ∧ l.exponent = none then
    let magnitude := Decimal.value l.whole
    let n : Int := if l.negative then -(magnitude : Int) else magnitude
    if h : FitsWord n then
      if l.negative ∧ n = 0 then real? l else some (.integer n h)
    else real? l
  else real? l

end RowMap.Json.Number
