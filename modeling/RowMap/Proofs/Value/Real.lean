import RowMap.Proofs.Binary64.Bits
import RowMap.Proofs.Binary64.Whole
import RowMap.Proofs.Value.Integer

/-!
# Reals as integers

A real is coerced to the integer that it is exactly, or not at all (`coerce_real_eq_ok_iff`,
`coerce_real_eq_error_iff`). An integer that is made a real is rounded to the nearest double, which
is a whole number again, and as an integer it is this number; only `2 ^ 63`, to which the largest
integers are rounded, is an integer no more (`coerce_real_exact`).
-/

namespace RowMap.Value

open Binary64 (Nearest bitsValue? ofBits)

variable {r : Binary64} {i : Int64}

theorem coerce_real_eq (r : Binary64) :
    (real r).coerce .integer = orInvalid .integer (r.toInt64?.map .integer) :=
  rfl

theorem coerce_real_eq_ok_iff :
    (real r).coerce .integer = .ok (.integer i) ↔ r.toRat? = some (i.toInt : ℚ) := by
  rw [← Binary64.toInt64?_eq_some_iff, coerce_real_eq]
  cases r.toInt64? <;> simp [orInvalid]

theorem coerce_real_eq_error_iff_forall :
    (real r).coerce .integer = .error (.invalid .integer) ↔
      ∀ i : Int64, r.toRat? ≠ some (i.toInt : ℚ) := by
  simp only [ne_eq, ← Binary64.toInt64?_eq_some_iff, coerce_real_eq]
  cases r.toInt64? <;> simp [orInvalid]

/-- The numbers that are integers of 64 bits. -/
theorem exists_int64_iff {q : ℚ} :
    (∃ i : Int64, (i.toInt : ℚ) = q) ↔ q.isInt = true ∧ -2 ^ 63 ≤ q ∧ q < 2 ^ 63 := by
  constructor
  · rintro ⟨i, rfl⟩
    have hlower := Int64.le_toInt i
    have hupper := Int64.toInt_lt i
    exact ⟨rfl, by exact_mod_cast hlower, by exact_mod_cast hupper⟩
  · rintro ⟨hint, hlower, hupper⟩
    have hq : (q.num : ℚ) = q := Rat.coe_int_num_of_den_eq_one (by simpa [Rat.isInt] using hint)
    rw [← hq] at hlower hupper
    have hlower' : -2 ^ 63 ≤ q.num := by exact_mod_cast hlower
    have hupper' : q.num < 2 ^ 63 := by exact_mod_cast hupper
    exact ⟨Int64.ofInt q.num, by rw [Int64.toInt_ofInt_of_le hlower' hupper', hq]⟩

/-- A real is no integer if it is no number, has a fractional part or is out of range. -/
theorem coerce_real_eq_error_iff :
    (real r).coerce .integer = .error (.invalid .integer) ↔
      ∀ q, r.toRat? = some q → q.isInt = false ∨ q < -2 ^ 63 ∨ 2 ^ 63 ≤ q := by
  rw [coerce_real_eq_error_iff_forall]
  constructor
  · intro h q hq
    by_contra hin
    simp only [not_or, Bool.not_eq_false, not_lt, not_le] at hin
    obtain ⟨i, hi⟩ := exists_int64_iff.mpr hin
    exact h i (hi ▸ hq)
  · intro h i hi
    obtain ⟨hint, hlower, hupper⟩ := exists_int64_iff.mp ⟨i, rfl⟩
    rcases h _ hi with hout | hout | hout
    · rw [hint] at hout
      cases hout
    · linarith
    · linarith

/-- An integer as a double is an integer again, or `2 ^ 63`. -/
theorem rounded_int64 (i : Int64) :
    (∃ j : Int64, (Binary64.ofInt i.toInt).toRat? = some (j.toInt : ℚ)) ∨
      (Binary64.ofInt i.toInt).toRat? = some (2 ^ 63) := by
  have hlower := Int64.le_toInt i
  have hupper := Int64.toInt_lt i
  obtain ⟨j, hj⟩ := Binary64.exists_whole_ofInt (i := i.toInt) (by omega)
  obtain ⟨q, hq, hle, hge⟩ := Binary64.exists_toRat?_ofInt (i := i.toInt) (a := -2 ^ 63)
    (b := 2 ^ 63) (k := 63) (l := 63) (by decide) (by decide) (by decide) (by decide) (by omega)
  obtain rfl := Option.some.inj (hj.symm.trans hq)
  rcases (Int.cast_le.mp hge).lt_or_eq with hlt | rfl
  · have hfits : -2 ^ 63 ≤ j := by exact_mod_cast hle
    exact .inl ⟨Int64.ofInt j, by rw [Int64.toInt_ofInt_of_le hfits hlt, hj]⟩
  · exact .inr (by exact_mod_cast hj)

/-- The real of a bit pattern is coerced to an integer exactly if its bits stand for this integer,
and refused exactly if they stand for no number, one with a fractional part or one out of range. An
integer becomes the nearest double. It comes back if it is a double itself; otherwise what comes
back is the value of the double, and the only value that does not come back is `2 ^ 63`. -/
theorem coerce_real_exact :
    (∀ bits : UInt64,
      (∀ i : Int64, (real (ofBits bits)).coerce .integer = .ok (.integer i) ↔
        bitsValue? bits = some (i.toInt : ℚ)) ∧
      ((real (ofBits bits)).coerce .integer = .error (.invalid .integer) ↔
        ∀ q, bitsValue? bits = some q → q.isInt = false ∨ q < -2 ^ 63 ∨ 2 ^ 63 ≤ q)) ∧
    ∀ i : Int64, ∃ r, (integer i).coerce .real = .ok (.real r) ∧ Nearest i.toInt r ∧
      ((∃ bits, bitsValue? bits = some (i.toInt : ℚ)) →
        (real r).coerce .integer = .ok (.integer i)) ∧
      ((∃ j : Int64, r.toRat? = some (j.toInt : ℚ) ∧
          (real r).coerce .integer = .ok (.integer j)) ∨
        r.toRat? = some (2 ^ 63) ∧ (real r).coerce .integer = .error (.invalid .integer)) := by
  constructor
  · intro bits
    rw [← Binary64.toRat?_ofBits]
    exact ⟨fun i => coerce_real_eq_ok_iff, coerce_real_eq_error_iff⟩
  · intro i
    have hnearest := Binary64.nearest_ofInt i.toInt
    refine ⟨_, rfl, hnearest, ?_, ?_⟩
    · rintro ⟨bits, hbits⟩
      rw [← Binary64.toRat?_ofBits] at hbits
      rw [coerce_real_eq_ok_iff, hnearest.unique (Binary64.nearest_of_toRat? hbits), hbits]
    · refine (rounded_int64 i).imp (fun ⟨j, hj⟩ => ⟨j, hj, coerce_real_eq_ok_iff.mpr hj⟩)
        fun hlast => ⟨hlast, coerce_real_eq_error_iff.mpr fun q hq => ?_⟩
      obtain rfl := Option.some.inj (hlast.symm.trans hq)
      exact .inr (.inr le_rfl)

end RowMap.Value
