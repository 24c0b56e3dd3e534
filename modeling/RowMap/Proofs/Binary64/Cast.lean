import RowMap.Proofs.Binary64.Whole
import RowMap.Value.Coerce

/-!
# The guard of the cast to an integer

A double is cast to an integer only if nothing stands behind its point and it lies between the
bounds of 64 bits, which are doubles themselves for the comparison. The lower bound is one exactly.
The upper one is rounded up to `2 ^ 63`, and the comparison with it is strict. So exactly the
doubles that are integers of 64 bits get through, and the cast makes each of them the integer that
it is (`toInt64?_eq_some_iff`).
-/

namespace RowMap.Binary64

/-! ## The part behind the point -/

/-- Of the whole numbers of units less than one, only zero is rounded to zero. -/
theorem nearestRank_unitsPerOne_eq_zero_iff {rest : Nat} :
    nearestRank rest unitsPerOne = 0 ↔ rest = 0 := by
  constructor
  · intro h
    have hupper := (rounded_nearestRank rest unitsPerOne_pos).upper
    have hend : upperEnd 0 = 1 := rfl
    rw [h, hend, Nat.one_mul, ← Nat.mul_assoc] at hupper
    have hhalf : 2 * rest * unitsPerOne ≤ 1 * unitsPerOne := by
      have hfinite : 0 < infiniteRank := by decide
      omega
    have hle := Nat.le_of_mul_le_mul_right hhalf unitsPerOne_pos
    omega
  · rintro rfl
    have hpos := unitsPerOne_pos
    simp [nearestRank, roundHalfEven, hpos.ne']

/-- Nothing stands behind the point of a whole number, and of no other double. -/
theorem fract_equals_zero_iff {r : Binary64} :
    r.fract.equals (zero false) = true ↔ ∃ n, r.toWhole? = some n := by
  cases r with
  | nan => exact iff_of_false nofun nofun
  | signed negative rank =>
    by_cases hfinite : rank.val < infiniteRank
    · have hplace (n : Bool) (k : Nat) : place n k = place false 0 ↔ k = 0 := by
        cases n <;> simp [place]
      simp only [fract, if_pos hfinite, ofRatio, zero, equals, decide_eq_true_eq, hplace,
        nearestRank_unitsPerOne_eq_zero_iff, toWhole?]
      by_cases hwhole : units rank % unitsPerOne = 0
      · exact iff_of_true hwhole ⟨_, if_pos ⟨hfinite, hwhole⟩⟩
      · refine iff_of_false hwhole ?_
        rintro ⟨n, hn⟩
        rw [if_neg fun h => hwhole h.2] at hn
        cases hn
    · refine iff_of_false ?_ ?_
      · rw [fract, if_neg hfinite]
        exact Bool.false_ne_true
      · rintro ⟨n, hn⟩
        rw [toWhole?, if_neg fun h => hfinite h.1] at hn
        cases hn

/-! ## The bounds -/

theorem toRat?_ofInt_minValue :
    (ofInt Int64.minValue.toInt).toRat? = some ((-2 ^ 63 : Int) : ℚ) :=
  toWhole?_eq_some_iff.mp (by decide +kernel)

/-- The greatest integer has 63 bits and is rounded to the next power of two. -/
theorem toRat?_ofInt_maxValue :
    (ofInt Int64.maxValue.toInt).toRat? = some ((2 ^ 63 : Int) : ℚ) :=
  toWhole?_eq_some_iff.mp (by decide +kernel)

/-! ## The cast -/

/-- A whole number that fits is not changed by the cast. -/
theorem toInt64_of_toWhole? {r : Binary64} {i : Int64} (h : r.toWhole? = some i.toInt) :
    r.toInt64 = i := by
  cases r with
  | nan => cases h
  | signed negative rank =>
    rw [toWhole?] at h
    split at h
    · rw [toInt64, Option.some.inj h, Int64.ofIntClamp_toInt]
    · cases h

/-- The guard lets a double through if and only if it is an integer of 64 bits, and the cast then
is this integer. -/
theorem toInt64?_eq_some_iff {r : Binary64} {i : Int64} :
    r.toInt64? = some i ↔ r.toRat? = some (i.toInt : ℚ) := by
  have hguard {n : Int} (hn : r.toRat? = some (n : ℚ)) :
      ((ofInt Int64.minValue.toInt).le r && r.lt (ofInt Int64.maxValue.toInt)) = true ↔
        -2 ^ 63 ≤ n ∧ n < 2 ^ 63 := by
    rw [Bool.and_eq_true, le_iff toRat?_ofInt_minValue hn, lt_iff hn toRat?_ofInt_maxValue,
      Int.cast_le, Int.cast_lt]
  simp only [toInt64?, Bool.and_assoc]
  constructor
  · intro h
    split at h
    · next htrue =>
      obtain ⟨hfract, hbounds⟩ := Bool.and_eq_true_iff.mp htrue
      obtain ⟨n, hn⟩ := fract_equals_zero_iff.mp hfract
      have hvalue := toWhole?_eq_some_iff.mp hn
      obtain ⟨hlower, hupper⟩ := (hguard hvalue).mp hbounds
      have hfits : (Int64.ofInt n).toInt = n := Int64.toInt_ofInt_of_le hlower hupper
      rw [← hfits] at hn hvalue
      rwa [← Option.some.inj h, toInt64_of_toWhole? hn]
    · cases h
  · intro h
    have hwhole := toWhole?_eq_some_iff.mpr h
    have hfract := fract_equals_zero_iff.mpr ⟨_, hwhole⟩
    have hbounds := (hguard h).mpr ⟨Int64.le_toInt i, Int64.toInt_lt i⟩
    rw [if_pos (Bool.and_eq_true_iff.mpr ⟨hfract, hbounds⟩), toInt64_of_toWhole? hwhole]

end RowMap.Binary64
