import RowMap.Proofs.Binary64.Nearest

/-!
# The fields of a bit pattern

A bit pattern is a sign bit, eleven bits of exponent and 52 bits of fraction, and `bitsValue?` is
the number that these three stand for: the fraction counts units of `2 ^ (-1074)` if the exponent is
zero, has a leading bit in front otherwise, and means no number under the largest exponent. A double
has the rank that the exponent and the fraction make together, and it is the same number
(`toRat?_ofBits`).
-/

namespace RowMap.Binary64

def exponentField (bits : UInt64) : Nat :=
  bits.toNat / 2 ^ 52 % 2 ^ 11

def fractionField (bits : UInt64) : Nat :=
  bits.toNat % 2 ^ 52

/-- The number that an exponent and a fraction stand for. -/
def fieldsValue (exponent fraction : Nat) : ℚ :=
  if exponent = 0 then fraction * 2 ^ (-1074 : ℤ)
  else (2 ^ 52 + fraction) * 2 ^ ((exponent : ℤ) - 1075)

/-- The number that a bit pattern stands for, if it is none of the infinities and NaNs. -/
def bitsValue? (bits : UInt64) : Option ℚ :=
  if exponentField bits = 2047 then none
  else some (signedBy (2 ^ 63 ≤ bits.toNat) (fieldsValue (exponentField bits) (fractionField bits)))

theorem cast_two_pow (k : Nat) : ((Nat.pow 2 k : Nat) : ℚ) = 2 ^ (k : ℤ) := by
  rw [zpow_natCast]
  exact Nat.cast_pow 2 k

/-- The rank that the fields make together has their value. -/
theorem units_div_fields {exponent fraction : Nat} (h : fraction < 2 ^ 52) :
    (units (exponent * binade + fraction) / unitsPerOne : ℚ) = fieldsValue exponent fraction := by
  have hbinade : binade = 2 ^ 52 := by norm_num [binade]
  have hone : (unitsPerOne : ℚ) = 2 ^ (1074 : ℤ) := cast_two_pow 1074
  rw [fieldsValue]
  split
  · next hzero =>
    subst hzero
    have hunits : units (0 * binade + fraction) = fraction := by
      rw [Nat.zero_mul, Nat.zero_add, units, if_pos (hbinade ▸ h)]
    rw [hunits, hone, zpow_neg, div_eq_mul_inv]
  · next hpos =>
    obtain ⟨shift, rfl⟩ := Nat.exists_eq_succ_of_ne_zero hpos
    have hrank : (shift + 1) * binade + fraction = shift * binade + (binade + fraction) := by ring
    have hunits : units ((shift + 1) * binade + fraction) =
        (binade + fraction) * Nat.pow 2 shift := by
      rw [hrank, units_shifted (by omega) (.inr (Nat.le_add_right _ _))]
    have hexponent : ((shift + 1 : Nat) : ℤ) - 1075 = shift - 1074 := by omega
    rw [hunits, hone, Nat.cast_mul, cast_two_pow, mul_div_assoc, ← zpow_sub₀ (by norm_num),
      hexponent, hbinade]
    push_cast
    rfl

/-- The double of a bit pattern is the number that its fields stand for. -/
theorem toRat?_ofBits (bits : UInt64) : (ofBits bits).toRat? = bitsValue? bits := by
  have hbits := bits.toNat_lt
  have hrank : bits.toNat % signBit = exponentField bits * binade + fractionField bits := by
    simp only [exponentField, fractionField, signBit, binade]
    omega
  have hfraction : fractionField bits < 2 ^ 52 := Nat.mod_lt _ (by decide)
  have hexponent : exponentField bits < 2 ^ 11 := Nat.mod_lt _ (by decide)
  have hfinite : bits.toNat % signBit < infiniteRank ↔ exponentField bits ≠ 2047 := by
    rw [hrank]
    simp only [infiniteRank, binade]
    omega
  rw [ofBits, bitsValue?]
  split
  · next hle =>
    rw [toRat?]
    by_cases h : exponentField bits = 2047
    · rw [if_pos h, if_neg fun hlt => hfinite.mp hlt h]
    · rw [if_neg h, if_pos (hfinite.mpr h), amount_place]
      dsimp only
      rw [hrank, units_div_fields hfraction]
      rfl
  · next hnan =>
    rw [toRat?, if_pos]
    by_contra h
    have hlt := hfinite.mpr h
    omega

end RowMap.Binary64
