/-!
# Double-precision reals

A double is NaN, or a sign together with a rank: the non-negative doubles, infinity included, are
numbered in increasing order from zero, and the number is the bit pattern without its sign. Every
finite double is a whole number of units of `2 ^ -1074` (`Binary64.units`), so decoding, rounding
and comparing are exact arithmetic on natural numbers.

`Binary64.ofRatio` rounds a quotient to the nearest double, a tie going to the even rank;
`Binary64.fract` and `Binary64.toInt64` take a double apart at its point.
-/

namespace RowMap

/-- The number of doubles in a binade, `2 ^ 52`. -/
abbrev Binary64.binade : Nat := 0x10000000000000

/-- The rank of infinity: 2047 binades come before it. -/
def Binary64.infiniteRank : Nat := 2047 * Binary64.binade

/-- A double-precision real. All NaNs are one value. -/
inductive Binary64 where
  | nan
  | signed (negative : Bool) (rank : Fin (Binary64.infiniteRank + 1))
  deriving DecidableEq

namespace Binary64

/-! ## Bit patterns -/

/-- The sign bit. -/
abbrev signBit : Nat := 0x8000000000000000

/-- The double of a bit pattern. -/
def ofBits (bits : UInt64) : Binary64 :=
  let rank := bits.toNat % signBit
  if h : rank < infiniteRank + 1 then .signed (signBit ≤ bits.toNat) ⟨rank, h⟩ else .nan

/-- The bit pattern of a double; NaN has the quiet pattern without payload. -/
def toBits : Binary64 → UInt64
  | .nan => 0x7ff8000000000000
  | .signed negative rank => UInt64.ofNat ((if negative then signBit else 0) + rank)

/-! ## Exact values -/

/-- The magnitude of the double of the given rank, in units of `2 ^ -1074`. -/
def units (rank : Nat) : Nat :=
  if rank < binade then rank else (binade + rank % binade) * Nat.pow 2 (rank / binade - 1)

/-- How many units make one. -/
def unitsPerOne : Nat := Nat.pow 2 1074

def isFinite : Binary64 → Bool
  | .nan => false
  | .signed _ rank => rank < infiniteRank

/-! ## Rounding -/

/-- The quotient rounded to the nearest whole number, a tie going to the even one. -/
def roundHalfEven (num den : Nat) : Nat :=
  let quotient := num / den
  let twice := 2 * (num % den)
  if twice < den ∨ twice = den ∧ quotient % 2 = 0 then quotient else quotient + 1

/-- The rank of the double nearest to `num / den`; beyond the largest finite double it is the rank
of infinity. The quotient in units is rounded to 53 significant bits: a significand `m` below
`2 ^ 53` that is shifted by `s` binades has rank `s * 2 ^ 52 + m`. -/
def nearestRank (num den : Nat) : Nat :=
  let scaled := num * unitsPerOne
  let shift := (scaled / den).log2 + 1 - 53
  min (shift * binade + roundHalfEven scaled (den * Nat.pow 2 shift)) infiniteRank

/-- The double nearest to `num / den` under the given sign. -/
def ofRatio (negative : Bool) (num den : Nat) : Binary64 :=
  .signed negative ⟨nearestRank num den, Nat.lt_succ_of_le (Nat.min_le_right _ _)⟩

/-- The double nearest to a whole number. -/
def ofInt (i : Int) : Binary64 :=
  ofRatio (i < 0) i.natAbs 1

def zero (negative : Bool) : Binary64 :=
  .signed negative ⟨0, by decide⟩

def infinity (negative : Bool) : Binary64 :=
  .signed negative ⟨infiniteRank, by decide⟩

/-- Widens the bit pattern of a single-precision real, which loses nothing. -/
def ofSingleBits (bits : UInt32) : Binary64 :=
  let negative : Bool := 0x80000000 ≤ bits.toNat
  let rank := bits.toNat % 0x80000000
  let infiniteSingle := 0x7f800000
  if infiniteSingle < rank then .nan
  else if rank = infiniteSingle then infinity negative
  else
    let magnitude :=
      if rank < 0x800000 then rank
      else (0x800000 + rank % 0x800000) * Nat.pow 2 (rank / 0x800000 - 1)
    ofRatio negative magnitude (Nat.pow 2 149)

/-! ## Both sides of the point -/

/-- What stands behind the point, under the sign of the double unless it is zero. An infinity leaves
NaN, for it is taken from itself. -/
def fract : Binary64 → Binary64
  | .nan => .nan
  | .signed negative rank =>
    let rest := units rank % unitsPerOne
    if rank < infiniteRank then ofRatio (negative && 0 < rest) rest unitsPerOne else .nan

/-- The cast to an integer: what stands before the point, or the nearer bound if that does not fit
64 bits. NaN becomes zero. -/
def toInt64 : Binary64 → Int64
  | .nan => 0
  | .signed negative rank =>
    let magnitude : Int := units rank / unitsPerOne
    Int64.ofIntClamp (if negative then -magnitude else magnitude)

/-! ## Order -/

/-- The place of a number on the line: equal for the two zeros, increasing otherwise. -/
def place (negative : Bool) (rank : Nat) : Int :=
  if negative then -rank else rank

/-- Comparison as reals; false as soon as one side is NaN. -/
def le : Binary64 → Binary64 → Bool
  | .signed n a, .signed m b => place n a ≤ place m b
  | _, _ => false

/-- Strict comparison as reals, in the same way. -/
def lt : Binary64 → Binary64 → Bool
  | .signed n a, .signed m b => place n a < place m b
  | _, _ => false

/-- Equality as reals: the two zeros are equal, and NaN is not equal to itself. -/
def equals : Binary64 → Binary64 → Bool
  | .signed n a, .signed m b => place n a = place m b
  | _, _ => false

end Binary64

end RowMap
