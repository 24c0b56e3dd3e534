import RowMap.Binary64.Text
import RowMap.Proofs.Binary64.Whole
import RowMap.Proofs.Decimal.Digits

/-!
# Whole numbers that stand for doubles

Many whole numbers are rounded to one double. As text the double has the digits of the `Roundest` of
them (`text_ofInt_eq_iff`): no other one ends in more zeros, and of those that end in as many it is
the nearest to the double.

The grids of the powers of ten are tried from the coarsest down. On each grid the two neighbours of
the double decide: the numbers that are rounded to it lie together (`roundsTo_below`,
`roundsTo_above`), so if there is any on the grid, one of the neighbours is among them, and no other
is as near.
-/

namespace RowMap.Binary64

/-! ## The specification -/

/-- The first number is nearer to the value than the second one, or just as near and greater. -/
def Preferred (v : ℚ) (n k : Nat) : Prop :=
  |(n : ℚ) - v| < |(k : ℚ) - v| ∨ |(n : ℚ) - v| = |(k : ℚ) - v| ∧ k < n

/-- Of all whole numbers that are rounded to the double, this one ends in the most zeros and is
preferred to those that end in as many. -/
def Roundest (r : Binary64) (n : Nat) : Prop :=
  ∃ zeros v, r.toRat? = some v ∧ 10 ^ zeros ∣ n ∧ ofInt n = r ∧
    (∀ k : Nat, 10 ^ (zeros + 1) ∣ k → ofInt k ≠ r) ∧
    ∀ k : Nat, 10 ^ zeros ∣ k → ofInt k = r → k ≠ n → Preferred v n k

section Preference

variable {v : ℚ} {n k below above : Nat}

/-- Of two numbers at most one is preferred to the other. -/
theorem Preferred.asymm (h : Preferred v n k) : ¬Preferred v k n := by
  rintro (hless | ⟨hequal, hlt⟩)
  · rcases h with hless' | ⟨hequal, -⟩
    · exact lt_asymm hless hless'
    · exact hless.ne' hequal
  · rcases h with hless | ⟨-, hlt'⟩
    · exact hless.ne' hequal
    · exact lt_asymm hlt hlt'

/-- A number that does not exceed the value is preferred to smaller ones, and if another one is
farther away on the other side, then also to that one and those beyond it. -/
theorem preferred_below (above : Nat) (hbelow : (below : ℚ) ≤ v)
    (h : k < below ∨ above ≤ k ∧ v - below < above - v) : Preferred v below k := by
  left
  rw [abs_of_nonpos (by linarith)]
  rcases h with hlt | ⟨hle, hnearer⟩
  · have hk : (k : ℚ) < below := Nat.cast_lt.mpr hlt
    rw [abs_of_nonpos (by linarith)]
    linarith
  · have hk : (above : ℚ) ≤ k := Nat.cast_le.mpr hle
    rw [abs_of_nonneg (by linarith)]
    linarith

/-- In the same way on the other side, where a number just as near is preferred, too. -/
theorem preferred_above (below : Nat) (habove : v < above)
    (h : above < k ∨ k ≤ below ∧ above - v ≤ v - below) : Preferred v above k := by
  rw [Preferred, abs_of_nonneg (a := (above : ℚ) - v) (by linarith)]
  rcases h with hlt | ⟨hle, hnearer⟩
  · have hk : (above : ℚ) < k := Nat.cast_lt.mpr hlt
    left
    rw [abs_of_nonneg (by linarith)]
    linarith
  · have hk : (k : ℚ) ≤ below := Nat.cast_le.mpr hle
    have hless : (k : ℚ) < above := by linarith
    rw [abs_of_nonpos (by linarith)]
    rcases (show above - v ≤ -((k : ℚ) - v) by linarith).lt_or_eq with hlt | heq
    · exact .inl hlt
    · exact .inr ⟨heq, Nat.cast_lt.mp hless⟩

end Preference

/-- No double has two roundest numbers. -/
theorem Roundest.unique {r : Binary64} {n n' : Nat} (h : Roundest r n) (h' : Roundest r n') :
    n = n' := by
  obtain ⟨zeros, v, hv, hdvd, hn, hmost, hbest⟩ := h
  obtain ⟨zeros', v', hv', hdvd', hn', hmost', hbest'⟩ := h'
  obtain rfl : v = v' := Option.some.inj (hv.symm.trans hv')
  have hzeros : zeros = zeros' := by
    rcases lt_trichotomy zeros zeros' with hlt | heq | hlt
    · exact absurd hn' (hmost n' ((pow_dvd_pow 10 hlt).trans hdvd'))
    · exact heq
    · exact absurd hn (hmost' n ((pow_dvd_pow 10 hlt).trans hdvd))
  subst hzeros
  by_contra hne
  exact (hbest n' hdvd' hn' (Ne.symm hne)).asymm (hbest' n hdvd hn hne)

variable {rank : Nat}

theorem halfUnitsPerOne_pos : 0 < halfUnitsPerOne :=
  Nat.mul_pos (by decide) unitsPerOne_pos

/-- A decimal that is a whole number has no digits behind the point. -/
theorem pow_toNat_neg (e : Nat) : Nat.pow 10 (-(e : Int)).toNat = 1 := by
  rw [Int.toNat_of_nonpos (by omega)]

/-- A magnitude lies above the lower end of the interval that is rounded to it. -/
theorem lowerEnd_lt (hrank : 0 < rank) : lowerEnd rank < 2 * units rank := by
  have hlt := units_strictMono (Nat.sub_lt hrank Nat.one_pos)
  rw [lowerEnd]
  omega

/-- A magnitude lies below the upper end of the interval that is rounded to it. -/
theorem lt_upperEnd (rank : Nat) : 2 * units rank < upperEnd rank := by
  have hlt := units_lt_succ rank
  rw [upperEnd]
  omega

/-- The coefficient of a decimal lies between the ends, or on one of them if the rank is even. -/
theorem roundsTo_iff {c e : Nat} (hrank : 0 < rank) : roundsTo rank ⟨c, e⟩ = true ↔
    (lowerEnd rank < c * (10 ^ e * halfUnitsPerOne) ∨
      lowerEnd rank = c * (10 ^ e * halfUnitsPerOne) ∧ rank % 2 = 0) ∧
    (c * (10 ^ e * halfUnitsPerOne) < upperEnd rank ∨
      c * (10 ^ e * halfUnitsPerOne) = upperEnd rank ∧ rank % 2 = 0) := by
  have hlower := lowerEnd_lt hrank
  have hupper := lt_upperEnd rank
  simp only [roundsTo, pow_toNat_neg, Int.toNat_natCast, Nat.mul_one, Bool.or_eq_true,
    Bool.and_eq_true, decide_eq_true_eq]
  change (_ < c * (10 ^ e * _) ∧ _) ∨ _ ↔ _
  generalize c * (10 ^ e * halfUnitsPerOne) = point
  omega

/-- A whole number becomes the double of its nearest rank. -/
theorem ofInt_eq_signed_iff {k : Nat} (hrank : rank < infiniteRank + 1) :
    ofInt k = .signed false ⟨rank, hrank⟩ ↔ nearestRank k 1 = rank := by
  have hsign : decide ((k : Int) < 0) = false := decide_eq_false (by omega)
  rw [ofInt, ofRatio, hsign, Int.natAbs_natCast, Binary64.signed.injEq, Fin.mk.injEq]
  exact and_iff_right rfl

/-- The nearest rank is the one that the number is rounded to. -/
theorem nearestRank_eq_iff {k : Nat} (hrank : rank < infiniteRank) :
    nearestRank k 1 = rank ↔ Rounded rank (k * unitsPerOne) 1 := by
  constructor
  · rintro rfl
    exact rounded_nearestRank k Nat.one_pos
  · intro h
    have hnearest := h.nearestPlace Nat.one_pos
    have hnearest' := (rounded_nearestRank k Nat.one_pos).nearestPlace Nat.one_pos
    have hle : nearestRank k 1 ≤ infiniteRank := Nat.min_le_right ..
    exact_mod_cast hnearest'.unique (by omega) (by omega) hnearest

/-- A decimal that is a whole number rounds to a double if the number is rounded to it. -/
theorem roundsTo_eq_true_iff {c e : Nat} (hpos : 0 < rank) (hrank : rank < infiniteRank) :
    roundsTo rank ⟨c, e⟩ = true ↔
      ofInt (c * 10 ^ e : Nat) = .signed false ⟨rank, Nat.lt_succ_of_lt hrank⟩ := by
  have hpoint : c * (10 ^ e * halfUnitsPerOne) = 2 * (c * 10 ^ e * unitsPerOne) := by
    rw [halfUnitsPerOne]
    ring
  rw [ofInt_eq_signed_iff, nearestRank_eq_iff hrank, roundsTo_iff hpos, hpoint]
  generalize c * 10 ^ e * unitsPerOne = num
  constructor
  · rintro ⟨hlower, hupper⟩
    rw [← Nat.mul_one (lowerEnd rank)] at hlower
    rw [← Nat.mul_one (upperEnd rank)] at hupper
    exact ⟨hlower, .inr hupper⟩
  · rintro ⟨hlower, hupper⟩
    rw [Nat.mul_one] at hlower hupper
    exact ⟨hlower, hupper.resolve_left (by omega)⟩

section Grid

variable {e : Nat}

theorem step_pos (e : Nat) : 0 < 10 ^ e * halfUnitsPerOne :=
  Nat.mul_pos (Nat.pow_pos (by decide)) halfUnitsPerOne_pos

/-- What a grid gives whose multiples `n` and `n + 1` enclose the magnitude, which is the given rest
beyond the first one. A neighbour that rounds to the rank is taken if the other one does not or is
farther away; the greater one is taken of two that are equally near. -/
inductive Chosen (rank e n rest : Nat) : Option Decimal → Prop
  | none (hbelow : roundsTo rank ⟨n, e⟩ = false)
    (habove : roundsTo rank ⟨(n + 1 : Nat), e⟩ = false) :
    Chosen rank e n rest none
  | below (hbelow : roundsTo rank ⟨n, e⟩ = true)
    (h : roundsTo rank ⟨(n + 1 : Nat), e⟩ = false ∨ 2 * rest < 10 ^ e * halfUnitsPerOne) :
    Chosen rank e n rest (some ⟨n, e⟩)
  | above (habove : roundsTo rank ⟨(n + 1 : Nat), e⟩ = true)
    (h : roundsTo rank ⟨n, e⟩ = false ∨ 10 ^ e * halfUnitsPerOne ≤ 2 * rest) :
    Chosen rank e n rest (some ⟨(n + 1 : Nat), e⟩)

/-- A magnitude lies between two neighbours on the grid, and one of them is chosen. -/
theorem exists_chosen (rank e : Nat) : ∃ n rest,
    2 * units rank = 10 ^ e * halfUnitsPerOne * n + rest ∧ rest < 10 ^ e * halfUnitsPerOne ∧
      Chosen rank e n rest (nearestOnGrid? .up rank e) := by
  have hpow : Nat.pow 10 e = 10 ^ e := rfl
  have hpos := step_pos e
  refine ⟨_, _, (Nat.div_add_mod (2 * units rank) _).symm, Nat.mod_lt _ hpos, ?_⟩
  -- Unfolded under its arguments, the kernel would evaluate the two tests.
  generalize hgrid : nearestOnGrid? = grid
  delta nearestOnGrid? at hgrid
  subst hgrid
  beta_reduce
  generalize hrounds : roundsTo rank = rounds
  generalize hone : halfUnitsPerOne = one
  simp only [pow_toNat_neg, hpow, Int.toNat_natCast, Nat.mul_one]
  generalize hn : 2 * units rank / (10 ^ e * one) = n
  generalize hrest : 2 * units rank % (10 ^ e * one) = rest
  subst hrounds hone
  cases hbelow : roundsTo rank ⟨n, e⟩ with
  | false =>
    cases habove : roundsTo rank ⟨(n + 1 : Nat), e⟩ with
    | false => exact .none hbelow habove
    | true => exact .above habove (.inl hbelow)
  | true =>
    cases habove : roundsTo rank ⟨(n + 1 : Nat), e⟩ with
    | false => exact .below hbelow (.inl habove)
    | true =>
      dsimp only
      split
      · next hnearer => exact .below hbelow (.inr (by omega))
      · next hfarther =>
        rw [ite_self]
        exact .above habove (.inr (by omega))

section Choice

variable {n rest : Nat} (hsplit : 2 * units rank = 10 ^ e * halfUnitsPerOne * n + rest)
  (hrest : rest < 10 ^ e * halfUnitsPerOne)

include hsplit

/-- The magnitude is as far beyond a multiple as the rest. -/
theorem magnitude_eq : (units rank / unitsPerOne : ℚ) =
    (n * 10 ^ e : Nat) + (rest : ℚ) / halfUnitsPerOne := by
  have hone : (unitsPerOne : ℚ) ≠ 0 := Nat.cast_ne_zero.mpr unitsPerOne_pos.ne'
  have hcast := congrArg (Nat.cast : Nat → ℚ) hsplit
  rw [halfUnitsPerOne] at hcast ⊢
  push_cast at hcast ⊢
  field_simp
  linarith

/-- The neighbour below is the nearer one if less than half a step is left. -/
theorem nearer_below_iff : 2 * rest < 10 ^ e * halfUnitsPerOne ↔
    (units rank / unitsPerOne : ℚ) - (n * 10 ^ e : Nat) <
      ((n + 1) * 10 ^ e : Nat) - units rank / unitsPerOne := by
  have hhalf : (0 : ℚ) < halfUnitsPerOne := Nat.cast_pos.mpr halfUnitsPerOne_pos
  have hdouble : 2 * ((rest : ℚ) / halfUnitsPerOne) < (10 ^ e : Nat) ↔
      2 * rest < 10 ^ e * halfUnitsPerOne := by
    rw [← mul_div_assoc, div_lt_iff₀ hhalf]
    exact_mod_cast Iff.rfl
  rw [← hdouble, magnitude_eq hsplit, Nat.succ_mul, Nat.cast_add]
  constructor <;> intro h <;> linarith

include hrest

/-- A magnitude lies between its two neighbours on the grid. -/
theorem magnitude_bounds : ((n * 10 ^ e : Nat) : ℚ) ≤ units rank / unitsPerOne ∧
    (units rank / unitsPerOne : ℚ) < ((n + 1) * 10 ^ e : Nat) := by
  have hhalf : (0 : ℚ) < halfUnitsPerOne := Nat.cast_pos.mpr halfUnitsPerOne_pos
  have hless : (rest : ℚ) / halfUnitsPerOne < (10 ^ e : Nat) := by
    rw [div_lt_iff₀ hhalf]
    exact_mod_cast hrest
  rw [magnitude_eq hsplit]
  constructor
  · have hnonneg : (0 : ℚ) ≤ rest / halfUnitsPerOne := div_nonneg (Nat.cast_nonneg _) hhalf.le
    linarith
  · rw [Nat.succ_mul, Nat.cast_add]
    linarith

end Choice

/-! ### Numbers on a grid that round to the magnitude -/

section Convex

variable {n rest c : Nat} (hrank : 0 < rank)
  (hsplit : 2 * units rank = 10 ^ e * halfUnitsPerOne * n + rest)

include hrank hsplit

/-- Between a number that rounds to the magnitude and the magnitude all do. -/
theorem roundsTo_below (hc : c ≤ n) (h : roundsTo rank ⟨c, e⟩ = true) :
    roundsTo rank ⟨n, e⟩ = true := by
  have hupper := lt_upperEnd rank
  have hmul := Nat.mul_le_mul_right (10 ^ e * halfUnitsPerOne) hc
  rw [Nat.mul_comm _ n] at hsplit
  rw [roundsTo_iff hrank] at h ⊢
  omega

/-- If a number above rounds to the magnitude, so does the neighbour above. -/
theorem roundsTo_above (hrest : rest < 10 ^ e * halfUnitsPerOne) (hc : n + 1 ≤ c)
    (h : roundsTo rank ⟨c, e⟩ = true) : roundsTo rank ⟨(n + 1 : Nat), e⟩ = true := by
  have hlower := lowerEnd_lt hrank
  have hmul := Nat.mul_le_mul_right (10 ^ e * halfUnitsPerOne) hc
  rw [Nat.mul_comm _ n] at hsplit
  rw [roundsTo_iff hrank] at h ⊢
  rw [Nat.succ_mul] at hmul ⊢
  omega

end Convex

/-- If nothing is chosen on a grid, no number on it rounds to the magnitude. -/
theorem nearestOnGrid?_eq_none (hrank : 0 < rank) (h : nearestOnGrid? .up rank e = none) (c : Nat) :
    roundsTo rank ⟨c, e⟩ = false := by
  obtain ⟨n, rest, hsplit, hrest, hchosen⟩ := exists_chosen rank e
  rw [h] at hchosen
  cases hchosen with
  | none hbelow habove =>
    rw [Bool.eq_false_iff]
    intro hc
    rcases Nat.lt_or_ge n c with hlt | hle
    · rw [roundsTo_above hrank hsplit hrest hlt hc] at habove
      cases habove
    · rw [roundsTo_below hrank hsplit hle hc] at hbelow
      cases hbelow

/-- What is found on a grid rounds to the magnitude and is preferred to all others on it that do. -/
theorem nearestOnGrid?_eq_some (hrank : 0 < rank) {d : Decimal}
    (h : nearestOnGrid? .up rank e = some d) : ∃ n : Nat, d = ⟨n, e⟩ ∧
      roundsTo rank ⟨n, e⟩ = true ∧ ∀ c, roundsTo rank ⟨c, e⟩ = true → c ≠ n →
        Preferred (units rank / unitsPerOne) (n * 10 ^ e) (c * 10 ^ e) := by
  obtain ⟨n, rest, hsplit, hrest, hchosen⟩ := exists_chosen rank e
  obtain ⟨hlower, hupper⟩ := magnitude_bounds hsplit hrest
  have hnearer := nearer_below_iff hsplit
  have hpow : 0 < 10 ^ e := Nat.pow_pos (by decide)
  rw [h] at hchosen
  cases hchosen with
  | below hbelow hchoice =>
    refine ⟨n, rfl, hbelow, fun c hc hne => preferred_below ((n + 1) * 10 ^ e) hlower ?_⟩
    rcases Nat.lt_or_gt_of_ne hne with hlt | hgt
    · exact .inl (Nat.mul_lt_mul_of_pos_right hlt hpow)
    · refine .inr ⟨Nat.mul_le_mul_right _ hgt, hnearer.mp ?_⟩
      rcases hchoice with hnone | hless
      · rw [roundsTo_above hrank hsplit hrest hgt hc] at hnone
        cases hnone
      · exact hless
  | above habove hchoice =>
    refine ⟨n + 1, rfl, habove, fun c hc hne => preferred_above (n * 10 ^ e) hupper ?_⟩
    rcases Nat.lt_or_gt_of_ne hne with hlt | hgt
    · have hle : c ≤ n := Nat.le_of_lt_succ hlt
      refine .inr ⟨Nat.mul_le_mul_right _ hle, not_lt.mp (mt hnearer.mpr ?_)⟩
      rcases hchoice with hnone | hless
      · rw [roundsTo_below hrank hsplit hle hc] at hnone
        cases hnone
      · exact Nat.not_lt.mpr hless
    · exact .inl (Nat.mul_lt_mul_of_pos_right hgt hpow)

end Grid

/-- The first success in a range comes behind failures only. -/
theorem findSome?_range_eq_some {α : Type} {f : Nat → Option α} {n : Nat} {a : α}
    (h : (List.range n).findSome? f = some a) : ∃ j < n, f j = some a ∧ ∀ k < j, f k = none := by
  obtain ⟨before, j, after, hrange, hj, hbefore⟩ := List.findSome?_eq_some_iff.mp h
  rw [List.range_eq_range'] at hrange
  obtain ⟨k, hk, rfl, hrest⟩ := List.range'_eq_append_iff.mp hrange
  obtain ⟨hkj, hpos, -⟩ := List.range'_eq_cons_iff.mp hrest.symm
  exact ⟨j, by omega, hj, fun i hi => hbefore i (List.mem_range'_1.mpr (by omega))⟩

/-- The coarsest grid that has any number on it decides. -/
theorem exists_shortest (h : nearestOnGrid? .up rank (0 : Nat) ≠ none) : ∃ e : Nat, e ≤ 309 ∧
    nearestOnGrid? .up rank e = some (shortest .up rank) ∧
    ∀ e' : Nat, e < e' → e' ≤ 309 → nearestOnGrid? .up rank e' = none := by
  have hlast : (309 : Int) - (309 : Nat) = (0 : Nat) := by omega
  cases hfirst : (List.range 634).findSome? fun i : Nat => nearestOnGrid? .up rank (309 - i) with
  | none =>
    have hzero := List.findSome?_eq_none_iff.mp hfirst 309 (List.mem_range.mpr (by decide))
    rw [hlast] at hzero
    exact absurd hzero h
  | some d =>
    have hshortest : shortest .up rank = d := by rw [shortest, hfirst, Option.getD_some]
    obtain ⟨i, -, hi, hbefore⟩ := findSome?_range_eq_some hfirst
    have hle : i ≤ 309 := by
      by_contra hlt
      have hzero := hbefore 309 (by omega)
      rw [hlast] at hzero
      exact h hzero
    have hexponent : (309 : Int) - i = (309 - i : Nat) := by omega
    refine ⟨309 - i, by omega, ?_, fun e' he' hle' => ?_⟩
    · rw [hshortest, ← hexponent, hi]
    · have hearlier := hbefore (309 - e') (by omega)
      rwa [show (309 : Int) - (309 - e' : Nat) = e' by omega] at hearlier

/-! ## The text of a whole double -/

/-- A whole number of a word is rounded to a double that is one itself, and no number that is
rounded to the same double has many more digits. -/
theorem bounds_of_ofInt {k : Nat} {q : ℚ} (h : (ofInt k).toRat? = some q) (hq : 1 ≤ q)
    (hq' : q ≤ 2 ^ 64) : 0 < k ∧ k < 2 ^ 65 := by
  constructor
  · rcases Nat.eq_zero_or_pos k with rfl | hpos
    · rw [toRat?_ofInt (by decide), Option.some.injEq] at h
      rw [← h] at hq
      norm_num at hq
    · exact hpos
  · by_contra hlt
    have hbound : (ofInt (2 ^ 65)).toRat? = some ((2 ^ 65 : Int) : ℚ) :=
      toRat?_ofInt_of_significant (n := 2) (s := 64) (by decide) (by decide) le_rfl
    have hle := (nearest_ofInt k).le_of_le hbound h (by exact_mod_cast Nat.not_lt.mp hlt)
    push_cast at hle
    linarith

/-- The rank of a whole number of a word, which is rounded to a whole number. -/
theorem exists_rank {n : Nat} (hpos : 0 < n) (hword : n ≤ 2 ^ 64) :
    ∃ (rank : Nat) (hrank : rank < infiniteRank), 0 < rank ∧
      ofInt n = .signed false ⟨rank, Nat.lt_succ_of_lt hrank⟩ ∧
      1 ≤ (units rank / unitsPerOne : ℚ) ∧ (units rank / unitsPerOne : ℚ) ≤ 2 ^ 64 ∧
      ∃ j : Nat, units rank = j * unitsPerOne := by
  obtain ⟨q, hq, hone, hmax⟩ := exists_toRat?_ofInt (i := n) (a := 1) (b := 2 ^ 64) (k := 0)
    (l := 64) rfl (by decide) (by decide) le_rfl (by omega)
  obtain ⟨j, hj⟩ := exists_whole_ofInt (i := n) (by omega)
  obtain rfl : q = j := Option.some.inj (hq.symm.trans hj)
  obtain ⟨negative, rank, hr, hrank, hvalue⟩ := toRat?_eq_some_iff.mp hq
  have hsign : negative = false := by
    have hnegative : decide ((n : Int) < 0) = negative := (Binary64.signed.inj hr).1
    rw [← hnegative]
    exact decide_eq_false (by omega)
  subst hsign
  have hj₁ : 1 ≤ j := by exact_mod_cast hone
  obtain ⟨m, rfl⟩ := Int.eq_ofNat_of_zero_le (show 0 ≤ j by omega)
  have hplace : place false rank = (rank.val : Int) := rfl
  rw [hplace, amount_natCast] at hvalue
  refine ⟨rank, hrank, ?_, hr, by rwa [hvalue], ?_, m, ?_⟩
  · rcases Nat.eq_zero_or_pos rank.val with hzero | hpos
    · rw [hzero, ← amount_natCast, Nat.cast_zero, amount_zero] at hvalue
      rw [← hvalue] at hone
      norm_num at hone
    · exact hpos
  · rw [hvalue]
    exact_mod_cast hmax
  · exact units_div_eq_natCast_iff.mp (by exact_mod_cast hvalue)

/-- A whole number is on the grid of the whole numbers itself. -/
theorem nearestOnGrid?_ne_none (hrank : 0 < rank) {j : Nat}
    (hunits : units rank = j * unitsPerOne) : nearestOnGrid? .up rank (0 : Nat) ≠ none := by
  have htwice : j * (10 ^ 0 * halfUnitsPerOne) = 2 * units rank := by
    rw [hunits, halfUnitsPerOne]
    ring
  have hwhole : roundsTo rank ⟨j, (0 : Nat)⟩ = true := by
    rw [roundsTo_iff hrank, htwice]
    exact ⟨.inl (lowerEnd_lt hrank), .inl (lt_upperEnd rank)⟩
  intro hnone
  rw [nearestOnGrid?_eq_none hrank hnone j] at hwhole
  cases hwhole

/-- A whole shortest decimal is written out in digits. -/
theorem text_of_shortest (hpos : 0 < rank) (hrank : rank < infiniteRank) {c e : Nat} (hc : 0 < c)
    (h : shortest .up rank = ⟨c, e⟩) :
    text (.signed false ⟨rank, Nat.lt_succ_of_lt hrank⟩) = Decimal.text (c * 10 ^ e) := by
  have hdigits : Decimal.digits (c * 10 ^ e) = Decimal.digits c ++ List.replicate e '0' :=
    Decimal.digits_mul_pow hc e
  simp only [text, if_neg hrank.ne, if_neg hpos.ne', h, Decimal.positional, Int.natCast_nonneg,
    if_true, Int.toNat_natCast, Decimal.text, hdigits]
  rfl

/-- A whole number of the machine word is printed as the roundest number of its double. -/
theorem exists_roundest {n : Nat} (hpos : 0 < n) (hword : n ≤ 2 ^ 64) :
    ∃ m, Roundest (ofInt n) m ∧ (ofInt n).text = Decimal.text m := by
  obtain ⟨rank, hrank, hrank₀, hr, hone, hmax, j, hunits⟩ := exists_rank hpos hword
  obtain ⟨e, -, hgrid, hcoarser⟩ := exists_shortest (nearestOnGrid?_ne_none hrank₀ hunits)
  obtain ⟨c, hshortest, hc, hbest⟩ := nearestOnGrid?_eq_some hrank₀ hgrid
  rw [hr]
  have hvalue : toRat? (.signed false ⟨rank, Nat.lt_succ_of_lt hrank⟩) =
      some (units rank / unitsPerOne : ℚ) :=
    toRat?_eq_some_iff.mpr ⟨false, _, rfl, hrank, amount_natCast rank⟩
  have hbounds {k : Nat} (hk : ofInt k = .signed false ⟨rank, Nat.lt_succ_of_lt hrank⟩) :
      0 < k ∧ k < 2 ^ 65 :=
    bounds_of_ofInt (hk ▸ hvalue) hone hmax
  have hrounded (c e : Nat) : roundsTo rank ⟨c, e⟩ = true ↔
      ofInt (c * 10 ^ e : Nat) = .signed false ⟨rank, Nat.lt_succ_of_lt hrank⟩ :=
    roundsTo_eq_true_iff hrank₀ hrank
  have hc₀ : 0 < c := Nat.pos_of_mul_pos_right (hbounds ((hrounded c e).mp hc)).1
  refine ⟨c * 10 ^ e, ⟨e, _, hvalue, Nat.dvd_mul_left .., (hrounded c e).mp hc, ?_, ?_⟩,
    text_of_shortest hrank₀ hrank hc₀ hshortest⟩
  · -- On coarser grids no number is found, and beyond the first grid all are too large.
    rintro _ ⟨b, rfl⟩ hb
    have hlarge : 10 ^ (e + 1) ≤ 10 ^ (e + 1) * b :=
      Nat.le_mul_of_pos_right _ (Nat.pos_of_mul_pos_left (hbounds hb).1)
    have hexponent : e + 1 ≤ 309 := by
      by_contra hlt
      have hpow : 10 ^ 20 ≤ 10 ^ (e + 1) := Nat.pow_le_pow_right (by decide) (by omega)
      have hless := (hbounds hb).2
      omega
    have hnone := hcoarser (e + 1) (Nat.lt_succ_self e) hexponent
    rw [Nat.mul_comm, ← hrounded, nearestOnGrid?_eq_none hrank₀ hnone] at hb
    cases hb
  · rintro _ ⟨b, rfl⟩ hb hne
    rw [Nat.mul_comm (10 ^ e) b] at hb hne ⊢
    refine hbest b ((hrounded b e).mpr hb) ?_
    rintro rfl
    exact hne rfl

/-- The double nearest to a whole number of a word has the digits of the number if and only if the
number is the roundest one that it stands for. -/
theorem text_ofInt_eq_iff {n : Nat} (hpos : 0 < n) (hword : n ≤ 2 ^ 64) :
    (ofInt n).text = Decimal.text n ↔ Roundest (ofInt n) n := by
  obtain ⟨m, hm, htext⟩ := exists_roundest hpos hword
  rw [htext]
  constructor
  · intro h
    have hvalue := congrArg (fun s : String => Decimal.value s.toList) h
    simp only [Decimal.text, String.toList_ofList, Decimal.value_digits] at hvalue
    rwa [hvalue] at hm
  · intro h
    rw [hm.unique h]

end RowMap.Binary64
