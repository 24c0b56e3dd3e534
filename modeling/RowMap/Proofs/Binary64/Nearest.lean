import Mathlib
import RowMap.Binary64.Shortest

/-!
# Nearest doubles

Doubles stand in a row, each at its place, the negative ones in front of zero and the two infinities
at the ends. `Nearest` says of a double that no other one is as near to a number, unless another one
is just as near and has an odd place; an infinity counts as the power of two that would come next.
There is one such place for each number (`Nearest.unique`).

Rounding a quotient yields its nearest double (`nearest_ofRatio`). The magnitude is found to lie
between the midpoints to its neighbours (`Rounded`), which is enough, for amounts increase with
their places.
-/

namespace RowMap.Binary64

theorem two_pow_pos (n : Nat) : 0 < Nat.pow 2 n :=
  Nat.pow_pos (by decide)

theorem two_pow_succ (n : Nat) : Nat.pow 2 (n + 1) = 2 * Nat.pow 2 n :=
  Nat.pow_succ'

theorem unitsPerOne_pos : 0 < unitsPerOne := by
  decide +kernel

/-- A significand of 53 bits that is shifted by some binades; where two binades meet, both of them
have it. -/
theorem units_shifted {shift significand : Nat} (h : significand ≤ 2 * binade)
    (hshift : shift = 0 ∨ binade ≤ significand) :
    units (shift * binade + significand) = significand * Nat.pow 2 shift := by
  unfold units
  simp only [binade] at *
  by_cases hsmall : significand < 0x10000000000000
  · obtain rfl := hshift.resolve_right (by omega)
    rw [if_pos (by omega)]
    simp
  · rw [if_neg (by omega)]
    by_cases htop : significand = 2 * 0x10000000000000
    · have hdiv : (shift * 0x10000000000000 + significand) / 0x10000000000000 - 1 = shift + 1 := by
        omega
      have hmod : (shift * 0x10000000000000 + significand) % 0x10000000000000 = 0 := by omega
      rw [hdiv, hmod, two_pow_succ, htop]
      ring
    · have hdiv : (shift * 0x10000000000000 + significand) / 0x10000000000000 - 1 = shift := by
        omega
      have hmod : 0x10000000000000 + (shift * 0x10000000000000 + significand) % 0x10000000000000 =
          significand := by omega
      rw [hdiv, hmod]

/-- Every rank has a significand and a shift. -/
theorem exists_shifted (rank : Nat) : ∃ shift significand, rank = shift * binade + significand ∧
    significand < 2 * binade ∧ (shift = 0 ∨ binade ≤ significand) := by
  simp only [binade]
  by_cases h : rank < 0x10000000000000
  · exact ⟨0, rank, by omega, by omega, .inl rfl⟩
  · exact ⟨rank / 0x10000000000000 - 1, 0x10000000000000 + rank % 0x10000000000000, by omega,
      by omega, .inr (by omega)⟩

/-- The next double is larger. -/
theorem units_lt_succ (rank : Nat) : units rank < units (rank + 1) := by
  obtain ⟨shift, significand, rfl, hlt, hshift⟩ := exists_shifted rank
  rw [Nat.add_assoc, units_shifted hlt.le hshift, units_shifted hlt (by omega)]
  exact Nat.mul_lt_mul_of_pos_right (Nat.lt_succ_self _) (Nat.pow_pos (by decide))

theorem units_strictMono : StrictMono units :=
  strictMono_nat_of_lt_succ units_lt_succ

/-- The magnitude after one of 53 bits is at least a step larger. -/
theorem units_succ_shifted {shift significand : Nat} (h : significand ≤ 2 * binade)
    (hshift : shift = 0 ∨ binade ≤ significand) :
    (significand + 1) * Nat.pow 2 shift ≤ units (shift * binade + significand + 1) := by
  rcases h.lt_or_eq with hlt | rfl
  · rw [Nat.add_assoc, units_shifted hlt (by omega)]
  · have hsum : shift * binade + 2 * binade + 1 = (shift + 1) * binade + (binade + 1) := by ring
    rw [hsum, units_shifted (by decide) (.inr (Nat.le_succ _)), two_pow_succ]
    nlinarith [two_pow_pos shift]

/-- The magnitude before one is a step smaller, unless a binade begins there. -/
theorem units_pred_shifted {shift significand : Nat} (h : significand ≤ 2 * binade)
    (hpos : 0 < significand) (hshift : shift = 0 ∨ binade < significand) :
    units (shift * binade + significand - 1) = (significand - 1) * Nat.pow 2 shift := by
  rw [Nat.add_sub_assoc hpos, units_shifted (by omega) (by omega)]

/-- The nearest whole number is at most a half away, and by a half only if it is even. -/
theorem roundHalfEven_spec (num : Nat) {den : Nat} (h : 0 < den) :
    (2 * (roundHalfEven num den * den) < 2 * num + den ∨
      2 * (roundHalfEven num den * den) = 2 * num + den ∧ roundHalfEven num den % 2 = 0) ∧
    (2 * num < 2 * (roundHalfEven num den * den) + den ∨
      2 * num = 2 * (roundHalfEven num den * den) + den ∧ roundHalfEven num den % 2 = 0) := by
  have hsplit := Nat.div_add_mod num den
  have hmod := Nat.mod_lt num h
  unfold roundHalfEven
  dsimp only
  rw [Nat.mul_comm] at hsplit
  split
  · omega
  · have hsucc : (num / den + 1) * den = num / den * den + den := Nat.succ_mul ..
    omega

/-- The quotient in units rounds to the magnitude of the rank: it lies between the midpoints to the
neighbours, or on one of them if the rank is even. Infinity has no upper neighbour. -/
structure Rounded (rank num den : Nat) : Prop where
  lower : lowerEnd rank * den < 2 * num ∨ lowerEnd rank * den = 2 * num ∧ rank % 2 = 0
  upper : infiniteRank ≤ rank ∨ 2 * num < upperEnd rank * den ∨
    2 * num = upperEnd rank * den ∧ rank % 2 = 0

/-- A quotient that has at most 53 bits before the point, and these if it is shifted at all: its
rounded significand under the shift has the rank to which it rounds. -/
theorem rounded_shifted {num den shift : Nat} (hden : 0 < den)
    (hupper : num ≤ 2 * binade * (den * Nat.pow 2 shift))
    (hlower : shift = 0 ∨ binade * (den * Nat.pow 2 shift) ≤ num) :
    Rounded (shift * binade + roundHalfEven num (den * Nat.pow 2 shift)) num den := by
  have hstep (k : Nat) : k * Nat.pow 2 shift * den = k * (den * Nat.pow 2 shift) := by ring
  have hpos : 0 < den * Nat.pow 2 shift := Nat.mul_pos hden (two_pow_pos shift)
  obtain ⟨hdown, hup⟩ := roundHalfEven_spec num hpos
  generalize roundHalfEven num (den * Nat.pow 2 shift) = m at *
  generalize den * Nat.pow 2 shift = step at *
  have hm : m ≤ 2 * binade := by
    by_contra hm
    have hbeyond := Nat.mul_le_mul_right step (Nat.succ_le_of_lt (Nat.lt_of_not_le hm))
    rw [Nat.succ_mul] at hbeyond
    omega
  have hm' : shift = 0 ∨ binade ≤ m := by
    refine hlower.imp_right fun hlower => ?_
    by_contra hm
    have hbelow := Nat.mul_le_mul_right step (Nat.succ_le_of_lt (Nat.lt_of_not_le hm))
    rw [Nat.succ_mul] at hbelow
    omega
  have heven : (shift * binade + m) % 2 = m % 2 := by
    simp only [binade]
    omega
  have hunits : units (shift * binade + m) * den = m * step := by
    rw [units_shifted hm hm', hstep]
  constructor
  · rw [lowerEnd, heven, Nat.add_mul, hunits]
    rcases Nat.eq_zero_or_pos (shift * binade + m) with hzero | hrank
    · -- There is nothing below zero.
      obtain rfl : m = 0 := by omega
      rw [hzero]
      have hnone : units (0 - 1) * den + 0 * step = 0 := by simp [units]
      omega
    · by_cases hbinade : shift = 0 ∨ binade < m
      · have hm₀ : 0 < m := by
          rcases hbinade with rfl | hm
          · omega
          · exact Nat.zero_lt_of_lt hm
        have hpred : (m - 1) * step + step = m * step := by
          rw [← Nat.succ_mul, Nat.succ_eq_add_one, Nat.sub_add_cancel hm₀]
        rw [units_pred_shifted hm hm₀ hbinade, hstep]
        omega
      · -- A binade begins here, and the quotient is not below it.
        obtain ⟨hshift, hle⟩ := not_or.mp hbinade
        obtain rfl : m = binade := by omega
        have hprev : units (shift * binade + binade - 1) < units (shift * binade + binade) :=
          units_strictMono (by omega)
        have hless := Nat.mul_lt_mul_of_pos_right hprev hden
        rw [hunits] at hless
        have hnum := hlower.resolve_left hshift
        omega
  · have hnext := Nat.mul_le_mul_right den (units_succ_shifted hm hm')
    rw [hstep, Nat.succ_mul] at hnext
    rw [upperEnd, heven, Nat.add_mul, hunits]
    omega

/-- The shift leaves the quotient the bits of a significand. -/
theorem shift_bounds (num : Nat) {den shift : Nat} (hden : 0 < den)
    (hshift : shift = (num / den).log2 + 1 - 53) :
    num ≤ 2 * binade * (den * Nat.pow 2 shift) ∧
      (shift = 0 ∨ binade * (den * Nat.pow 2 shift) ≤ num) := by
  have hbinade : binade = 2 ^ 52 := by norm_num [binade]
  have hpow : Nat.pow 2 shift = 2 ^ shift := rfl
  rw [hbinade, hpow]
  constructor
  · have hquotient : num / den < 2 ^ (53 + shift) :=
      Nat.lt_log2_self.trans_le (Nat.pow_le_pow_right (by decide) (by omega))
    have hnum := Nat.lt_mul_of_div_lt hquotient hden
    calc num ≤ 2 ^ (53 + shift) * den := hnum.le
      _ = 2 * 2 ^ 52 * (den * 2 ^ shift) := by ring
  · rcases Nat.eq_zero_or_pos shift with hzero | hpos
    · exact .inl hzero
    · have hne : num / den ≠ 0 := by
        intro hzero
        rw [hzero] at hshift
        simp [Nat.log2] at hshift
        omega
      have hlog : (num / den).log2 = 52 + shift := by omega
      have hquotient := Nat.log2_self_le hne
      rw [hlog] at hquotient
      refine .inr ?_
      calc 2 ^ 52 * (den * 2 ^ shift) = 2 ^ (52 + shift) * den := by ring
        _ ≤ num / den * den := Nat.mul_le_mul_right den hquotient
        _ ≤ num := Nat.div_mul_le_self num den

theorem lowerEnd_le_of_le {a b : Nat} (h : a ≤ b) : lowerEnd a ≤ lowerEnd b :=
  Nat.add_le_add (units_strictMono.monotone (Nat.sub_le_sub_right h 1))
    (units_strictMono.monotone h)

/-- What rounds beyond infinity rounds to it. -/
theorem Rounded.min_infinite {rank num den : Nat} (h : Rounded rank num den) :
    Rounded (min rank infiniteRank) num den := by
  rcases Nat.le_total rank infiniteRank with hle | hge
  · rwa [Nat.min_eq_left hle]
  · rw [Nat.min_eq_right hge]
    refine ⟨?_, .inl (Nat.le_refl _)⟩
    have hends := Nat.mul_le_mul_right den (lowerEnd_le_of_le hge)
    have heven : infiniteRank % 2 = 0 := by decide
    rcases h.lower with hlt | ⟨heq, -⟩
    · exact .inl (Nat.lt_of_le_of_lt hends hlt)
    · rw [heq] at hends
      omega

/-- The nearest rank is one that the quotient is rounded to. -/
theorem rounded_nearestRank (num : Nat) {den : Nat} (hden : 0 < den) :
    Rounded (nearestRank num den) (num * unitsPerOne) den := by
  obtain ⟨hupper, hlower⟩ := shift_bounds (num * unitsPerOne) hden rfl
  exact (rounded_shifted hden hupper hlower).min_infinite

/-! ## The row of doubles -/

/-- The number at a place of the row; at the two ends it is what would come next. -/
def amount (place : Int) : ℚ :=
  (if place < 0 then -(units place.natAbs : ℚ) else units place.natAbs) / unitsPerOne

theorem amount_natCast (rank : Nat) : amount rank = units rank / unitsPerOne := by
  rw [amount, if_neg (by omega), Int.natAbs_natCast]

theorem amount_zero : amount 0 = 0 := by
  have hunits : units 0 = 0 := rfl
  exact (amount_natCast 0).trans (by rw [hunits, Nat.cast_zero, zero_div])

/-- The row of doubles is symmetric about zero. -/
theorem amount_neg (place : Int) : amount (-place) = -amount place := by
  rcases lt_trichotomy place 0 with h | rfl | h
  · rw [amount, amount, if_neg (by omega), if_pos h, Int.natAbs_neg, neg_div, neg_neg]
  · rw [neg_zero, amount_zero, neg_zero]
  · rw [amount, amount, if_pos (by omega), if_neg (by omega), Int.natAbs_neg, neg_div]

/-- The doubles stand in their order. -/
theorem amount_strictMono : StrictMono amount := by
  have hsucc (rank : Nat) : amount rank < amount (rank + 1 : Nat) := by
    rw [amount_natCast, amount_natCast]
    have hunits : (units rank : ℚ) < units (rank + 1) := by exact_mod_cast units_lt_succ rank
    have hone : (0 : ℚ) < unitsPerOne := by exact_mod_cast unitsPerOne_pos
    exact div_lt_div_of_pos_right hunits hone
  refine strictMono_int_of_lt_succ fun place => ?_
  rcases place with rank | rank
  · exact_mod_cast hsucc rank
  · have hplace : Int.negSucc rank + 1 = -(rank : Int) := by omega
    rw [hplace, amount_neg, Int.negSucc_eq, amount_neg, neg_lt_neg_iff]
    exact_mod_cast hsucc rank

/-- No other number in the row is as near, or only one at an odd place while this one is even. -/
def NearestPlace (place : Int) (q : ℚ) : Prop :=
  ∀ other : Int, other.natAbs ≤ infiniteRank → other ≠ place →
    |amount place - q| < |amount other - q| ∨
      |amount place - q| = |amount other - q| ∧ place % 2 = 0

/-- The double is the nearest one to a number, a tie going to the even one. -/
def Nearest (q : ℚ) : Binary64 → Prop
  | .nan => False
  | .signed negative rank => NearestPlace (place negative rank) q

/-- The place nearest to the negated number is the negated place. -/
theorem nearestPlace_neg {p : Int} {q : ℚ} (h : NearestPlace p q) : NearestPlace (-p) (-q) := by
  have hdistance (p : Int) : |amount (-p) - -q| = |amount p - q| := by
    rw [amount_neg, ← abs_neg, neg_sub, neg_sub_neg]
  intro other hother hne
  have hpos := h (-other) (by rwa [Int.natAbs_neg]) (by omega)
  have hmirror := hdistance (-other)
  rw [neg_neg] at hmirror
  rw [hdistance, hmirror]
  exact hpos.imp_right fun ⟨hequal, heven⟩ => ⟨hequal, by omega⟩

section Middle

variable {a b q : ℚ} (h : a < b)

include h

/-- Of two numbers, the greater one is nearer exactly beyond the middle between them. -/
theorem greater_nearer_iff : |b - q| < |a - q| ↔ a + b < 2 * q := by
  rw [← sq_lt_sq]
  constructor <;> intro hlt <;> nlinarith

/-- The smaller of two amounts is the nearer one below their middle. -/
theorem smaller_nearer_iff : |a - q| < |b - q| ↔ 2 * q < a + b := by
  rw [← sq_lt_sq]
  constructor <;> intro hlt <;> nlinarith

/-- Two amounts are equally near to their middle only. -/
theorem equally_near_iff : |a - q| = |b - q| ↔ 2 * q = a + b := by
  rw [← sq_eq_sq_iff_abs_eq_abs]
  constructor
  · intro heq
    have hzero : (b - a) * (a + b - 2 * q) = 0 := by linear_combination -heq
    rcases mul_eq_zero.mp hzero with hab | hmid <;> linarith
  · intro hmid
    linear_combination (a - b) * -hmid

end Middle

/-- It is enough to look at the middles to the others. -/
theorem nearestPlace_iff {p : Int} {q : ℚ} : NearestPlace p q ↔
    ∀ other : Int, other.natAbs ≤ infiniteRank →
      (other < p → amount other + amount p < 2 * q ∨
        amount other + amount p = 2 * q ∧ p % 2 = 0) ∧
      (p < other → 2 * q < amount p + amount other ∨
        2 * q = amount p + amount other ∧ p % 2 = 0) := by
  refine forall_congr' fun other => imp_congr_right fun _ => ?_
  rcases lt_trichotomy other p with hlt | rfl | hlt
  · have ha := amount_strictMono hlt
    rw [greater_nearer_iff ha, eq_comm (b := |amount other - q|), equally_near_iff ha]
    simp [hlt, hlt.ne, hlt.le, eq_comm]
  · simp
  · have ha := amount_strictMono hlt
    rw [smaller_nearer_iff ha, equally_near_iff ha]
    simp [hlt, hlt.ne', hlt.le]

section Sum

variable {a b num den : Nat}

/-- One scale turns amounts and a quotient into whole numbers. -/
theorem exists_scale (a b num : Nat) (hden : 0 < den) : ∃ scale : ℚ, 0 < scale ∧
    (amount a + amount b) * scale = ((units a + units b) * den : Nat) ∧
    2 * (num / den : ℚ) * scale = (2 * (num * unitsPerOne) : Nat) := by
  have hone : (0 : ℚ) < unitsPerOne := by exact_mod_cast unitsPerOne_pos
  have hpos : (0 : ℚ) < den := by exact_mod_cast hden
  refine ⟨unitsPerOne * den, mul_pos hone hpos, ?_, ?_⟩
  · rw [amount_natCast, amount_natCast]
    push_cast
    field_simp
  · push_cast
    field_simp

/-- A quotient is above the middle of two amounts if it is so in whole numbers. -/
theorem sum_lt_iff (hden : 0 < den) : amount a + amount b < 2 * (num / den : ℚ) ↔
    (units a + units b) * den < 2 * (num * unitsPerOne) := by
  obtain ⟨scale, hscale, hsum, hquotient⟩ := exists_scale a b num hden
  rw [← mul_lt_mul_iff_left₀ hscale, hsum, hquotient, Nat.cast_lt]

/-- A quotient is below the middle of two amounts if it is so in whole numbers. -/
theorem lt_sum_iff (hden : 0 < den) : 2 * (num / den : ℚ) < amount a + amount b ↔
    2 * (num * unitsPerOne) < (units a + units b) * den := by
  obtain ⟨scale, hscale, hsum, hquotient⟩ := exists_scale a b num hden
  rw [← mul_lt_mul_iff_left₀ hscale, hsum, hquotient, Nat.cast_lt]

/-- A quotient is the middle of two amounts if it is so in whole numbers. -/
theorem sum_eq_iff (hden : 0 < den) : amount a + amount b = 2 * (num / den : ℚ) ↔
    (units a + units b) * den = 2 * (num * unitsPerOne) := by
  obtain ⟨scale, hscale, hsum, hquotient⟩ := exists_scale a b num hden
  rw [← mul_left_inj' hscale.ne', hsum, hquotient, Nat.cast_inj]

end Sum

/-- The rank to which a quotient rounds is the place of the nearest double. -/
theorem Rounded.nearestPlace {rank num den : Nat} (h : Rounded rank (num * unitsPerOne) den)
    (hden : 0 < den) : NearestPlace rank (num / den) := by
  rw [nearestPlace_iff]
  refine fun other hother => ⟨fun hlt => ?_, fun hlt => ?_⟩
  · have hle : amount other ≤ amount (rank - 1 : Nat) := amount_strictMono.monotone (by omega)
    have hlower : amount (rank - 1 : Nat) + amount rank < 2 * (num / den) ∨
        amount (rank - 1 : Nat) + amount rank = 2 * (num / den : ℚ) ∧ rank % 2 = 0 := by
      rw [sum_lt_iff hden, sum_eq_iff hden]
      exact h.lower
    rcases hlower with hlower | ⟨hlower, heven⟩
    · exact .inl (by linarith)
    · rcases hle.lt_or_eq with hless | heq
      · exact .inl (by linarith)
      · exact .inr ⟨by linarith, by omega⟩
  · have hle : amount (rank + 1 : Nat) ≤ amount other := amount_strictMono.monotone (by omega)
    have hupper : 2 * (num / den : ℚ) < amount rank + amount (rank + 1 : Nat) ∨
        2 * (num / den : ℚ) = amount rank + amount (rank + 1 : Nat) ∧ rank % 2 = 0 := by
      rw [lt_sum_iff hden, eq_comm, sum_eq_iff hden, eq_comm]
      exact h.upper.resolve_left (by omega)
    rcases hupper with hupper | ⟨hupper, heven⟩
    · exact .inl (by linarith)
    · rcases hle.lt_or_eq with hless | heq
      · exact .inl (by linarith)
      · exact .inr ⟨by linarith, by omega⟩

/-- A number under a sign. -/
def signedBy (negative : Bool) (q : ℚ) : ℚ :=
  if negative then -q else q

theorem abs_signedBy (negative : Bool) {q : ℚ} (h : 0 ≤ q) : |signedBy negative q| = q := by
  cases negative with
  | false => exact abs_of_nonneg h
  | true => exact (abs_neg q).trans (abs_of_nonneg h)

/-- The double at the nearest place is the nearest one. -/
theorem nearest_signed {negative : Bool} {rank : Fin (infiniteRank + 1)} {q : ℚ}
    (h : NearestPlace rank q) : Nearest (signedBy negative q) (.signed negative rank) := by
  cases negative with
  | false => exact h
  | true => exact nearestPlace_neg h

/-- Division rounds to the nearest double. -/
theorem nearest_ofRatio (negative : Bool) (num : Nat) {den : Nat} (hden : 0 < den) :
    Nearest (signedBy negative (num / den)) (ofRatio negative num den) :=
  nearest_signed ((rounded_nearestRank num hden).nearestPlace hden)

/-! ## There is one nearest double -/

/-- No two places are nearest to one number. -/
theorem NearestPlace.unique {p p' : Int} {q : ℚ} (hp : p.natAbs ≤ infiniteRank)
    (hp' : p'.natAbs ≤ infiniteRank) (h : NearestPlace p q) (h' : NearestPlace p' q) : p = p' := by
  by_contra hne
  wlog hlt : p < p' generalizing p p'
  · exact this hp' hp h' h (Ne.symm hne) (by omega)
  -- Both are as near as each other, so both are even, and there is a nearer one between them.
  obtain ⟨heq, heven⟩ : |amount p - q| = |amount p' - q| ∧ p % 2 = 0 := by
    rcases h p' hp' (Ne.symm hne) with hnear | hequal
    · rcases h' p hp hne with hnear' | ⟨hequal, -⟩
      · exact absurd hnear (not_lt.mpr hnear'.le)
      · exact absurd hequal hnear.ne'
    · exact hequal
  have heven' : p' % 2 = 0 := by
    rcases h' p hp hne with hnear | ⟨-, heven⟩
    · exact absurd heq hnear.ne'
    · exact heven
  have hleft := amount_strictMono (show p < p + 1 by omega)
  have hright := amount_strictMono (show p + 1 < p' by omega)
  have hmiddle := (equally_near_iff (hleft.trans hright)).mp heq
  rcases h (p + 1) (by omega) (by omega) with hnear | ⟨hequal, -⟩
  · rw [smaller_nearer_iff hleft] at hnear
    linarith
  · rw [equally_near_iff hleft] at hequal
    linarith

/-- The number that a double is, unless it is infinite or none. -/
def toRat? : Binary64 → Option ℚ
  | .nan => none
  | .signed negative rank =>
    if rank < infiniteRank then some (amount (place negative rank)) else none

theorem natAbs_place (negative : Bool) (rank : Nat) : (place negative rank).natAbs = rank := by
  cases negative <;> simp [place]

/-- No two amounts of doubles are nearest to one number. -/
theorem Nearest.unique {q : ℚ} {r r' : Binary64} (h : Nearest q r) (h' : Nearest q r') :
    r.toRat? = r'.toRat? := by
  cases r with
  | nan => exact h.elim
  | signed negative rank =>
    cases r' with
    | nan => exact h'.elim
    | signed negative' rank' =>
      have hrank := natAbs_place negative rank
      have hrank' := natAbs_place negative' rank'
      have hplace : place negative rank = place negative' rank' :=
        NearestPlace.unique (by omega) (by omega) h h'
      have hsame : rank.val = rank'.val := by rw [← hrank, ← hrank', hplace]
      rw [toRat?, toRat?, hplace, hsame]

/-- A double is the nearest one to its own amount. -/
theorem nearest_of_toRat? {q : ℚ} {r : Binary64} (h : r.toRat? = some q) : Nearest q r := by
  cases r with
  | nan => cases h
  | signed negative rank =>
    rw [toRat?] at h
    split at h
    · obtain rfl := Option.some.inj h
      intro other _ hne
      left
      rw [sub_self, abs_zero]
      exact abs_pos.mpr (sub_ne_zero.mpr (amount_strictMono.injective.ne hne))
    · cases h

/-- The amount at the place of a double is its signed magnitude. -/
theorem amount_place (negative : Bool) (rank : Nat) :
    amount (place negative rank) = signedBy negative (units rank / unitsPerOne) := by
  cases negative with
  | false => exact amount_natCast rank
  | true => rw [← amount_natCast]; exact amount_neg rank

/-- A magnitude is a whole number if its units are a multiple of those of one. -/
theorem units_div_eq_natCast_iff {rank k : Nat} :
    (units rank / unitsPerOne : ℚ) = k ↔ units rank = k * unitsPerOne := by
  have hone : (unitsPerOne : ℚ) ≠ 0 := Nat.cast_ne_zero.mpr unitsPerOne_pos.ne'
  rw [div_eq_iff hone, ← Nat.cast_mul, Nat.cast_inj]

theorem signedBy_natCast (negative : Bool) (k : Nat) :
    signedBy negative k = ((if negative then -k else k : Int) : ℚ) := by
  cases negative <;> simp [signedBy]

/-- The whole number that the double is, if it is finite and has no fractional part. Unlike the
rational value it is found without division of rationals. -/
def toWhole? : Binary64 → Option Int
  | .nan => none
  | .signed negative rank =>
    if rank < infiniteRank ∧ units rank % unitsPerOne = 0 then
      let magnitude : Int := units rank / unitsPerOne
      some (if negative then -magnitude else magnitude)
    else none

/-- A double is a whole number as soon as its value is one. -/
theorem toWhole?_eq_some_iff {r : Binary64} {n : Int} :
    r.toWhole? = some n ↔ r.toRat? = some (n : ℚ) := by
  cases r with
  | nan => simp [toWhole?, toRat?]
  | signed negative rank =>
    rw [toWhole?, toRat?, amount_place]
    by_cases hfinite : rank.val < infiniteRank
    · rw [if_pos hfinite]
      by_cases hwhole : units rank % unitsPerOne = 0
      · obtain ⟨k, hk⟩ := Nat.dvd_of_mod_eq_zero hwhole
        have hquotient : (units rank : Int) / unitsPerOne = k := by
          rw [hk, Nat.cast_mul,
            Int.mul_ediv_cancel_left _ (Nat.cast_ne_zero.mpr unitsPerOne_pos.ne')]
        have hvalue : (units rank / unitsPerOne : ℚ) = k :=
          units_div_eq_natCast_iff.mpr (hk.trans (Nat.mul_comm ..))
        rw [if_pos ⟨hfinite, hwhole⟩, hvalue, signedBy_natCast, Option.some.injEq,
          Option.some.injEq, Int.cast_inj]
        simp only [hquotient]
      · rw [if_neg fun h => hwhole h.2]
        refine iff_of_false (Option.some_ne_none n).symm fun h => hwhole ?_
        have hvalue : (units rank / unitsPerOne : ℚ) = n.natAbs := by
          rw [Nat.cast_natAbs, Int.cast_abs, ← Option.some.inj h]
          exact (abs_signedBy negative (div_nonneg (Nat.cast_nonneg _) (Nat.cast_nonneg _))).symm
        rw [units_div_eq_natCast_iff.mp hvalue, Nat.mul_mod_left]
    · rw [if_neg fun h => hfinite h.1, if_neg hfinite]
      simp

end RowMap.Binary64
