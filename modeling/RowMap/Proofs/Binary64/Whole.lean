import RowMap.Proofs.Binary64.Order

/-!
# Whole numbers among the doubles

Up to `2 ^ 53` every whole number is a double (`toRat?_ofInt`), and beyond `2 ^ 52` every double is
a whole number. So rounding a whole number yields a whole number (`exists_whole_ofInt`).
-/

namespace RowMap.Binary64

/-! ## Whole numbers of 53 bits -/

/-- A number of 53 bits has all of them in front of the point, also with some zeros behind them. -/
theorem exists_units_eq {n shift : Nat} (h : n ≤ 2 ^ 53) (hshift : shift ≤ 64) :
    ∃ rank < infiniteRank, units rank = n * Nat.pow 2 shift * unitsPerOne := by
  rcases Nat.eq_zero_or_pos n with rfl | hpos
  · exact ⟨0, by decide, by rw [Nat.zero_mul, Nat.zero_mul]; rfl⟩
  obtain ⟨k, hk, hlower, hupper⟩ : ∃ k ≤ 52, 2 ^ k ≤ n ∧ n ≤ 2 ^ (k + 1) := by
    rcases h.lt_or_eq with hlt | rfl
    · have hlog : n.log2 < 53 := (Nat.log2_lt hpos.ne').mpr hlt
      exact ⟨n.log2, by omega, Nat.log2_self_le hpos.ne', Nat.lt_log2_self.le⟩
    · exact ⟨52, le_rfl, by decide, le_rfl⟩
  have hpow (a b : Nat) : Nat.pow 2 a * Nat.pow 2 b = Nat.pow 2 (a + b) := (Nat.pow_add 2 a b).symm
  have hbinade : Nat.pow 2 k * Nat.pow 2 (52 - k) = binade := by
    rw [hpow, Nat.add_sub_cancel' hk]
  have hexponent : 52 - k + (1022 + k + shift) = shift + 1074 := by omega
  have hones : Nat.pow 2 (52 - k) * Nat.pow 2 (1022 + k + shift) = Nat.pow 2 shift * unitsPerOne :=
    (hpow _ _).trans ((congrArg (Nat.pow 2) hexponent).trans (hpow shift 1074).symm)
  have hsmall : binade ≤ n * Nat.pow 2 (52 - k) :=
    hbinade ▸ Nat.mul_le_mul_right _ hlower
  have hlarge : n * Nat.pow 2 (52 - k) ≤ 2 * binade := by
    rw [← hbinade, ← Nat.mul_assoc]
    refine Nat.mul_le_mul_right _ (hupper.trans ?_)
    rw [Nat.pow_succ, Nat.mul_comm]
    exact le_rfl
  refine ⟨(1022 + k + shift) * binade + n * Nat.pow 2 (52 - k), ?_, ?_⟩
  · have hbinades : (1022 + k + shift) * binade ≤ 1138 * binade :=
      Nat.mul_le_mul_right _ (by omega)
    have hroom : 1138 * binade + 2 * binade < infiniteRank := by decide
    exact (Nat.add_le_add hbinades hlarge).trans_lt hroom
  · rw [units_shifted hlarge (.inr hsmall), Nat.mul_assoc, hones, Nat.mul_assoc]

theorem nearest_ofInt (i : Int) : Nearest i (ofInt i) := by
  have hvalue : (i : ℚ) = signedBy (decide (i < 0)) ((i.natAbs : ℚ) / (1 : Nat)) := by
    rw [Nat.cast_one, div_one, signedBy_natCast]
    congr 1
    by_cases hi : i < 0
    · rw [decide_eq_true hi, if_pos rfl]
      omega
    · rw [decide_eq_false hi, if_neg (by decide)]
      omega
  rw [hvalue]
  exact nearest_ofRatio _ _ Nat.one_pos

section Significant

variable {i : Int} {n s : Nat} (hi : i.natAbs = n * Nat.pow 2 s) (hn : n ≤ 2 ^ 53) (hs : s ≤ 64)

include hi hn hs

theorem exists_double : ∃ r : Binary64, r.toRat? = some (i : ℚ) := by
  obtain ⟨rank, hrank, hunits⟩ := exists_units_eq hn hs
  rw [← hi] at hunits
  refine ⟨.signed (decide (i < 0)) ⟨rank, by omega⟩, ?_⟩
  rw [← toWhole?_eq_some_iff, toWhole?, if_pos ⟨hrank, by rw [hunits, Nat.mul_mod_left]⟩]
  have hquotient : (units rank : Int) / unitsPerOne = i.natAbs := by
    rw [hunits, Nat.cast_mul,
      Int.mul_ediv_cancel _ (Nat.cast_ne_zero.mpr unitsPerOne_pos.ne')]
  simp only [hquotient, decide_eq_true_eq]
  congr 1
  split <;> omega

/-- A whole number with 53 significant bits is not rounded. -/
theorem toRat?_ofInt_of_significant : (ofInt i).toRat? = some (i : ℚ) := by
  obtain ⟨r, hr⟩ := exists_double hi hn hs
  rw [(nearest_ofInt i).unique (nearest_of_toRat? hr), hr]

end Significant

theorem toRat?_ofInt {i : Int} (h : i.natAbs ≤ 2 ^ 53) : (ofInt i).toRat? = some (i : ℚ) :=
  toRat?_ofInt_of_significant (s := 0) (Nat.mul_one _).symm h (Nat.zero_le _)

/-- Powers of two are not rounded. -/
theorem toRat?_ofInt_two_pow {i : Int} {k : Nat} (hi : i.natAbs = 2 ^ k) (hk : k ≤ 64) :
    (ofInt i).toRat? = some (i : ℚ) :=
  toRat?_ofInt_of_significant (hi.trans (Nat.one_mul _).symm) (by decide) hk

/-! ## Large whole numbers -/

/-- From `2 ^ 52` on no double has bits behind the point. -/
theorem unitsPerOne_dvd_units {rank : Nat} (h : 1075 * binade ≤ rank) :
    unitsPerOne ∣ units rank := by
  have hshift : 1074 ≤ rank / binade - 1 := by
    have hdiv := Nat.div_le_div_right (c := binade) h
    rw [Nat.mul_div_cancel _ (by decide)] at hdiv
    omega
  have hlarge : ¬rank < binade := by
    have hbinade : binade ≤ 1075 * binade := by decide
    omega
  rw [units, if_neg hlarge]
  exact Dvd.dvd.mul_left (Nat.pow_dvd_pow 2 hshift) _

/-- A double that is not less than `2 ^ 52` on either side of zero is a whole number. -/
theorem exists_whole {r : Binary64} {q : ℚ} (h : r.toRat? = some q) (hq : 2 ^ 52 ≤ |q|) :
    ∃ j : Int, q = j := by
  obtain ⟨negative, rank, rfl, hrank, rfl⟩ := toRat?_eq_some_iff.mp h
  have hunits : units (1075 * binade) = 2 ^ 52 * unitsPerOne := by decide +kernel
  have hone : (0 : ℚ) < unitsPerOne := Nat.cast_pos.mpr unitsPerOne_pos
  have hnonneg : (0 : ℚ) ≤ units rank / unitsPerOne :=
    div_nonneg (Nat.cast_nonneg _) (Nat.cast_nonneg _)
  rw [amount_place, abs_signedBy negative hnonneg, le_div_iff₀ hone] at hq
  have hle : units (1075 * binade) ≤ units rank := by
    rw [hunits]
    exact_mod_cast hq
  obtain ⟨k, hk⟩ := unitsPerOne_dvd_units (units_strictMono.le_iff_le.mp hle)
  have hvalue : (units rank / unitsPerOne : ℚ) = k :=
    units_div_eq_natCast_iff.mpr (hk.trans (Nat.mul_comm ..))
  exact ⟨_, by rw [amount_place, hvalue, signedBy_natCast]⟩

/-- Between two powers of two a whole number is rounded to a number between them. -/
theorem exists_toRat?_ofInt {i a b : Int} {k l : Nat} (ha : a.natAbs = 2 ^ k)
    (hb : b.natAbs = 2 ^ l) (hk : k ≤ 64) (hl : l ≤ 64) (h : a ≤ i ∧ i ≤ b) :
    ∃ q, (ofInt i).toRat? = some q ∧ (a : ℚ) ≤ q ∧ q ≤ b :=
  (nearest_ofInt i).between (toRat?_ofInt_two_pow ha hk) (toRat?_ofInt_two_pow hb hl)
    (Int.cast_le.mpr h.1) (Int.cast_le.mpr h.2)

/-- A whole number that is no larger than any word is rounded to a whole number. -/
theorem exists_whole_ofInt {i : Int} (h : i.natAbs ≤ 2 ^ 64) :
    ∃ j : Int, (ofInt i).toRat? = some (j : ℚ) := by
  by_cases hsmall : i.natAbs ≤ 2 ^ 53
  · exact ⟨i, toRat?_ofInt hsmall⟩
  · obtain ⟨q, hq, hlarge⟩ : ∃ q, (ofInt i).toRat? = some q ∧ 2 ^ 52 ≤ |q| := by
      rcases Int.lt_or_le i 0 with hi | hi
      · obtain ⟨q, hq, -, hle⟩ := exists_toRat?_ofInt (i := i) (a := -2 ^ 64)
          (b := -2 ^ 53) (k := 64) (l := 53) (by decide) (by decide) le_rfl (by decide) (by omega)
        push_cast at hle
        exact ⟨q, hq, le_abs.mpr (.inr (by linarith))⟩
      · obtain ⟨q, hq, hle, -⟩ := exists_toRat?_ofInt (i := i) (a := 2 ^ 53)
          (b := 2 ^ 64) (k := 53) (l := 64) (by decide) (by decide) (by decide) le_rfl (by omega)
        push_cast at hle
        exact ⟨q, hq, le_abs.mpr (.inl (by linarith))⟩
    obtain ⟨j, rfl⟩ := exists_whole hq hlarge
    exact ⟨j, hq⟩

end RowMap.Binary64
