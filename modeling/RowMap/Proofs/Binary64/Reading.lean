import RowMap.Binary64.Text
import RowMap.Proofs.Binary64.Nearest
import RowMap.Proofs.Decimal.Numeral

/-!
# Doubles read from decimals

A decimal is read as the double nearest to it (`nearest_ofDecimal`), also where its exponent is so
large or so small that no arithmetic is done. A numeral is read as the decimal that it spells
(`read?_text`), so it gives the double nearest to its value.
-/

namespace RowMap.Binary64

open Decimal (digits isDigit)

/-- A number is less than the power of ten of its number of digits. -/
theorem lt_pow_length_digits (n : Nat) : n < 10 ^ (digits n).length := by
  fun_induction digits n with
  | case1 n h => simpa using h
  | case2 n h ih =>
    rw [List.length_append, List.length_singleton, Nat.pow_succ]
    omega

/-- A positive number has no more digits than it needs. -/
theorem pow_length_digits_le {n : Nat} (h : 0 < n) : 10 ^ ((digits n).length - 1) ≤ n := by
  fun_induction digits n with
  | case1 n hn => exact h
  | case2 n hn ih =>
    have hlength := List.length_pos_of_ne_nil (Decimal.digits_ne_nil (n / 10))
    have hdiv := ih (by omega)
    rw [List.length_append, List.length_singleton, Nat.add_sub_cancel]
    have hpow : 10 ^ (digits (n / 10)).length = 10 ^ ((digits (n / 10)).length - 1) * 10 := by
      rw [← Nat.pow_succ, Nat.succ_eq_add_one, Nat.sub_add_cancel hlength]
    omega

/-- A decimal lies between the powers of ten that its first digit has and has not reached. -/
theorem toRat_bounds {d : Decimal} (h : d.coefficient ≠ 0) :
    (10 : ℚ) ^ (d.pointPlace - 1) ≤ d.toRat ∧ d.toRat < (10 : ℚ) ^ d.pointPlace := by
  have hlength := List.length_pos_of_ne_nil (Decimal.digits_ne_nil d.coefficient)
  have hscale : (0 : ℚ) < 10 ^ d.exponent := zpow_pos (by norm_num) _
  have hsplit (k : Nat) :
      (10 : ℚ) ^ ((k : Int) + d.exponent) = (10 ^ k : Nat) * 10 ^ d.exponent := by
    rw [zpow_add₀ (by norm_num), zpow_natCast, Nat.cast_pow, Nat.cast_ofNat]
  have hfirst : d.pointPlace - 1 = ((digits d.coefficient).length - 1 : Nat) + d.exponent := by
    rw [Decimal.pointPlace]
    omega
  rw [hfirst, hsplit, Decimal.pointPlace, hsplit, Decimal.toRat]
  exact ⟨mul_le_mul_of_nonneg_right
      (Nat.cast_le.mpr (pow_length_digits_le (Nat.pos_of_ne_zero h))) hscale.le,
    mul_lt_mul_of_pos_right (Nat.cast_lt.mpr (lt_pow_length_digits _)) hscale⟩

/-- The infinities stand where the next power of two would be. -/
theorem amount_infiniteRank : amount infiniteRank = (2 ^ 1024 : Nat) := by
  have hunits : units infiniteRank = 2 ^ 1024 * unitsPerOne := by decide +kernel
  have hone : (unitsPerOne : ℚ) ≠ 0 := Nat.cast_ne_zero.mpr unitsPerOne_pos.ne'
  rw [amount_natCast, hunits, Nat.cast_mul, mul_div_cancel_right₀ _ hone]

theorem amount_one : amount 1 = 1 / unitsPerOne := by
  have hunits : units 1 = 1 := rfl
  exact (amount_natCast 1).trans (by rw [hunits, Nat.cast_one])

/-- What is too large is rounded to infinity. -/
theorem nearestPlace_infiniteRank {q : ℚ} (h : amount infiniteRank ≤ q) :
    NearestPlace infiniteRank q := by
  rw [nearestPlace_iff]
  refine fun other hother => ⟨fun hlt => .inl ?_, fun hlt => ?_⟩
  · have hless := amount_strictMono hlt
    linarith
  · omega

/-- What is too small is rounded to zero. -/
theorem nearestPlace_zero {q : ℚ} (hpos : 0 ≤ q) (h : 2 * q < amount 1) : NearestPlace 0 q := by
  have hzero := amount_zero
  rw [nearestPlace_iff]
  refine fun other _ => ⟨fun hlt => .inl ?_, fun hlt => .inl ?_⟩
  · have hless := amount_strictMono hlt
    linarith
  · have hle : amount 1 ≤ amount other := amount_strictMono.monotone (by omega)
    linarith

/-- A decimal is a quotient of whole numbers. -/
theorem toRat_eq_div (d : Decimal) : d.toRat =
    (d.coefficient * Nat.pow 10 d.exponent.toNat : Nat) /
      (Nat.pow 10 (-d.exponent).toNat : Nat) := by
  have hexponent : d.exponent = d.exponent.toNat - (-d.exponent).toNat := by omega
  have hpow (k : Nat) : ((Nat.pow 10 k : Nat) : ℚ) = 10 ^ (k : Int) := by
    rw [zpow_natCast]
    exact Nat.cast_pow 10 k
  rw [Decimal.toRat, Nat.cast_mul, hpow, hpow, mul_div_assoc, ← zpow_sub₀ (by norm_num),
    ← hexponent]

/-- A decimal is read as the nearest double. -/
theorem nearest_ofDecimal (negative : Bool) (d : Decimal) :
    Nearest (signedBy negative d.toRat) (ofDecimal negative d) := by
  unfold ofDecimal
  by_cases hzero : d.coefficient = 0
  · have hvalue : d.toRat = 0 := by rw [Decimal.toRat, hzero, Nat.cast_zero, zero_mul]
    rw [if_pos hzero, hvalue]
    refine nearest_signed (nearestPlace_zero le_rfl ?_)
    rw [mul_zero, amount_one]
    exact one_div_pos.mpr (Nat.cast_pos.mpr unitsPerOne_pos)
  · -- Where the point is far off, the result is infinity or zero, whatever the digits are.
    obtain ⟨hlower, hupper⟩ := toRat_bounds hzero
    rw [if_neg hzero]
    by_cases hlarge : 310 < d.pointPlace
    · rw [if_pos hlarge]
      refine nearest_signed (nearestPlace_infiniteRank ?_)
      have hpow : 2 ^ 1024 ≤ 10 ^ 310 := by decide +kernel
      calc amount infiniteRank = (2 ^ 1024 : Nat) := amount_infiniteRank
        _ ≤ (10 ^ 310 : Nat) := Nat.cast_le.mpr hpow
        _ = (10 : ℚ) ^ (310 : Int) := by rw [Nat.cast_pow, ← zpow_natCast]; rfl
        _ ≤ (10 : ℚ) ^ (d.pointPlace - 1) := zpow_le_zpow_right₀ (by norm_num) (by omega)
        _ ≤ d.toRat := hlower
    · rw [if_neg hlarge]
      by_cases hsmall : d.pointPlace < -330
      · rw [if_pos hsmall]
        have hpos : 0 ≤ d.toRat := le_trans (zpow_nonneg (by norm_num) _) hlower
        refine nearest_signed (nearestPlace_zero hpos ?_)
        have hpow : 2 * unitsPerOne ≤ 10 ^ 331 := by decide +kernel
        have hone : (0 : ℚ) < unitsPerOne := Nat.cast_pos.mpr unitsPerOne_pos
        calc 2 * d.toRat < 2 * (10 : ℚ) ^ d.pointPlace := by linarith
          _ ≤ 2 * (10 : ℚ) ^ (-331 : Int) :=
            mul_le_mul_of_nonneg_left (zpow_le_zpow_right₀ (by norm_num) (by omega)) (by norm_num)
          _ = 2 / (10 ^ 331 : Nat) := by
            rw [zpow_neg, ← div_eq_mul_inv, Nat.cast_pow, ← zpow_natCast]
            rfl
          _ ≤ 1 / unitsPerOne := by
            have hcast := Nat.cast_le (α := ℚ) |>.mpr hpow
            rw [Nat.cast_mul, Nat.cast_ofNat] at hcast
            refine (div_le_div_iff₀ (Nat.cast_pos.mpr (Nat.pow_pos (by decide))) hone).mpr ?_
            simpa only [one_mul] using hcast
          _ = amount 1 := amount_one.symm
      · rw [if_neg hsmall, toRat_eq_div]
        exact nearest_ofRatio negative _ (Nat.pow_pos (by decide))

/-- The sign is taken off first. -/
theorem read?_sign (s : Sign) {cs : List Char} (h : NoSign cs) :
    read? (s.text ++ cs) =
      if cs.map Char.toLower = "nan".toList then some .nan
      else if cs.map Char.toLower = "inf".toList ∨ cs.map Char.toLower = "infinity".toList then
        some (infinity s.negative)
      else (Decimal.read? cs).map (ofDecimal s.negative) := by
  cases s with
  | none =>
    simp only [Sign.text, List.nil_append, read?, h.1, h.2, or_self, if_false, decide_false]
    rfl
  | plus =>
    have hplus : ('+' :: cs).head? = some '+' := rfl
    show read? ('+' :: cs) = _
    simp only [read?, hplus, or_true, if_true, List.tail_cons]
    rfl
  | minus =>
    have hminus : ('-' :: cs).head? = some '-' := rfl
    show read? ('-' :: cs) = _
    simp only [read?, hminus, true_or, if_true, decide_true, List.tail_cons]
    rfl

theorem toLower_of_isDigit {c : Char} (h : isDigit c = true) : c.toLower = c := by
  have all : ∀ n < 10, (Char.ofNat (48 + n)).toLower = Char.ofNat (48 + n) := by decide
  simp only [isDigit, Bool.and_eq_true, decide_eq_true_eq] at h
  have hc := all (c.toNat - 48) (by omega)
  rwa [Nat.add_sub_cancel' h.1, Char.ofNat_toNat] at hc

/-- A numeral does not begin with the letter of a word. -/
theorem map_toLower_unsigned (x : Numeral) {word : List Char} {c : Char} (hc : word.head? = some c)
    (hdigit : isDigit c = false) (hpoint : c ≠ '.') : x.unsigned.map Char.toLower ≠ word := by
  rintro rfl
  obtain ⟨d, hd, hfirst⟩ := x.head?_unsigned
  rw [List.head?_map, hd] at hc
  obtain rfl := Option.some.inj hc
  rcases hfirst with hfirst | rfl
  · rw [toLower_of_isDigit hfirst, hfirst] at hdigit
    cases hdigit
  · exact hpoint rfl

/-- A numeral is read as the decimal that it spells. -/
theorem read?_text (x : Numeral) : read? x.text = some (ofDecimal x.sign.negative x.decimal) := by
  have hnan : x.unsigned.map Char.toLower ≠ "nan".toList :=
    map_toLower_unsigned x rfl rfl (by decide)
  have hinf : x.unsigned.map Char.toLower ≠ "inf".toList :=
    map_toLower_unsigned x rfl rfl (by decide)
  have hinfinity : x.unsigned.map Char.toLower ≠ "infinity".toList :=
    map_toLower_unsigned x rfl rfl (by decide)
  rw [Numeral.text, read?_sign x.sign x.noSign_unsigned, if_neg hnan,
    if_neg (not_or.mpr ⟨hinf, hinfinity⟩), x.read?_unsigned]
  rfl

end RowMap.Binary64
