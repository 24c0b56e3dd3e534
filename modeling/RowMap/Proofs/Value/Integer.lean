import RowMap.Proofs.Binary64.Cast
import RowMap.Proofs.Binary64.Reading

/-!
# Integers in text

A plain numeral that fits 64 bits is taken as the integer that it is. Every other numeral is read as
a double first, and the integer is what the double is, so it is the number nearest to the numeral
that a double can hold. Coercing text to an integer is therefore exact, or an error, in just two
cases (`coerce_integer_exact_iff`): the numeral is plain and fits, or its nearest double is no
integer of 64 bits but the number itself.
-/

namespace RowMap

/-- A whole number is an integer if it fits. -/
theorem int64?_eq_some_iff {n : Int} {i : Int64} : int64? n = some i ↔ i.toInt = n := by
  unfold int64?
  constructor
  · intro h
    split at h
    · next hfits =>
      cases h
      exact Int64.toInt_ofInt_of_le hfits.1 hfits.2
    · cases h
  · rintro rfl
    have hfits : FitsSigned i.toInt := ⟨Int64.le_toInt i, Int64.toInt_lt i⟩
    rw [if_pos hfits, Int64.ofInt_toInt]

namespace Binary64

/-- The double nearest to a number is this integer. -/
def RoundsTo (q : ℚ) (i : Int64) : Prop :=
  ∃ r, Nearest q r ∧ r.toRat? = some (i.toInt : ℚ)

/-- A number that a double can hold is not rounded. -/
theorem RoundsTo.eq {q : ℚ} {i : Int64} (h : RoundsTo q i) {r : Binary64} (hr : r.toRat? = some q) :
    (i.toInt : ℚ) = q := by
  obtain ⟨r', hnearest, hr'⟩ := h
  rw [(nearest_of_toRat? hr).unique hnearest, hr'] at hr
  exact Option.some.inj hr

end Binary64

open Binary64 (RoundsTo)

/-! ## Reading integers -/

namespace Value

/-- The numeral is an integer literal of 64 bits. -/
def Literal (x : Numeral) : Prop :=
  x.Plain ∧ ∃ i : Int64, (i.toInt : ℚ) = x.value

/-- An integer literal is read exactly if it fits. -/
theorem signed?_bind_int64?_iff {x : Numeral} {i : Int64} :
    (Decimal.signed? x.text).bind int64? = some i ↔ x.Plain ∧ (i.toInt : ℚ) = x.value := by
  rw [x.signed?_text]
  by_cases hplain : x.Plain
  · rw [if_pos hplain, Option.bind_some, int64?_eq_some_iff, x.value_of_plain hplain, Int.cast_inj]
    exact (and_iff_right hplain).symm
  · rw [if_neg hplain]
    exact iff_of_false nofun fun h => hplain h.1

/-- A numeral is read over its nearest double, if that is an integer. -/
theorem read?_bind_toInt64?_iff {x : Numeral} {i : Int64} :
    (Binary64.read? x.text).bind Binary64.toInt64? = some i ↔ RoundsTo x.value i := by
  have hnearest : (Binary64.ofDecimal x.sign.negative x.decimal).Nearest x.value :=
    Binary64.nearest_ofDecimal x.sign.negative x.decimal
  rw [Binary64.read?_text, Option.bind_some, Binary64.toInt64?_eq_some_iff]
  constructor
  · exact fun h => ⟨_, hnearest, h⟩
  · rintro ⟨r, hr, hvalue⟩
    rw [hnearest.unique hr, hvalue]

section Read

variable {s : String} {x : Numeral} (hs : Text.trim s.toList = x.text)

include hs

/-- A literal is read exactly, any other numeral over a double. -/
theorem readInteger?_eq_some_iff {i : Int64} : readInteger? s = some i ↔
    Literal x ∧ (i.toInt : ℚ) = x.value ∨ ¬Literal x ∧ RoundsTo x.value i := by
  rw [readInteger?, hs]
  cases hread : (Decimal.signed? x.text).bind int64? with
  | some j =>
    obtain ⟨hplain, hj⟩ := signed?_bind_int64?_iff.mp hread
    have hliteral : Literal x := ⟨hplain, j, hj⟩
    have hsame : some j = some i ↔ (i.toInt : ℚ) = x.value := by
      rw [← hj, Int.cast_inj, Int64.toInt_inj, Option.some.injEq, eq_comm]
    simpa [hliteral] using hsame
  | none =>
    have hliteral : ¬Literal x := by
      rintro ⟨hplain, j, hj⟩
      rw [signed?_bind_int64?_iff.mpr ⟨hplain, hj⟩] at hread
      cases hread
    simpa [hliteral] using read?_bind_toInt64?_iff (x := x) (i := i)

/-- Text becomes an integer as it is read. -/
theorem coerce_integer_eq_ok_iff {i : Int64} :
    (Value.text s).coerce .integer = .ok (.integer i) ↔
      Literal x ∧ (i.toInt : ℚ) = x.value ∨ ¬Literal x ∧ RoundsTo x.value i := by
  rw [← readInteger?_eq_some_iff hs]
  show orInvalid .integer ((readInteger? s).map .integer) = _ ↔ _
  cases readInteger? s <;> simp [orInvalid]

/-- Text is coerced to an integer exactly or not at all if and only if its numeral is an integer
literal, or it does not round to another integer. -/
theorem coerce_integer_exact_iff :
    ((∀ i, (Value.text s).coerce .integer = .ok (.integer i) → (i.toInt : ℚ) = x.value) ∧
      ((∀ i : Int64, (i.toInt : ℚ) ≠ x.value) →
        (Value.text s).coerce .integer = .error (.invalid .integer))) ↔
    Literal x ∨ ∀ i, RoundsTo x.value i → (i.toInt : ℚ) = x.value := by
  constructor
  · rintro ⟨hexact, -⟩
    refine or_iff_not_imp_left.mpr fun hliteral i hrounds => hexact i ?_
    exact (coerce_integer_eq_ok_iff hs).mpr (.inr ⟨hliteral, hrounds⟩)
  · intro h
    have hexact (i : Int64) (hi : (Value.text s).coerce .integer = .ok (.integer i)) :
        (i.toInt : ℚ) = x.value := by
      rcases (coerce_integer_eq_ok_iff hs).mp hi with ⟨-, heq⟩ | ⟨hliteral, hrounds⟩
      · exact heq
      · exact h.resolve_left hliteral i hrounds
    refine ⟨hexact, fun hnone => ?_⟩
    have hcoerce : (Value.text s).coerce .integer =
      orInvalid .integer ((readInteger? s).map .integer) := rfl
    cases hread : readInteger? s with
    | none => rw [hcoerce, hread]; rfl
    | some i => exact absurd (hexact i (by rw [hcoerce, hread]; rfl)) (hnone i)

end Read

/-! ## Numerals that are rounded -/

/-- Digits with a point and an exponent: `2.5e3`. -/
def thousands : Numeral where
  sign := .none
  whole := ['2']
  fraction := some ['5']
  exponent := some ⟨'e', .none, ['3'], .inl rfl, by decide, List.all_eq_true.mp rfl⟩
  nonempty := by decide
  allDigits := List.all_eq_true.mp rfl

theorem value_thousands : thousands.value = 2500 := by
  have hdecimal : thousands.decimal = ⟨25, 2⟩ := by decide
  have hsign : thousands.sign.negative = false := rfl
  rw [Numeral.value, hdecimal, hsign]
  norm_num [Decimal.toRat]

theorem coerce_integer_exact_iff_thousands :
    Text.trim " 2.5e3 ".toList = thousands.text ∧
      ∀ i, (Value.text " 2.5e3 ").coerce .integer = .ok (.integer i) → (i.toInt : ℚ) = 2500 := by
  have hs : Text.trim " 2.5e3 ".toList = thousands.text := by decide
  have hwhole : (Binary64.ofInt 2500).toWhole? = some 2500 := by decide +kernel
  have hdouble : (Binary64.ofInt 2500).toRat? = some thousands.value := by
    rw [value_thousands]
    exact Binary64.toWhole?_eq_some_iff.mp hwhole
  obtain ⟨hexact, -⟩ := (coerce_integer_exact_iff hs).mpr (.inr fun i hi => hi.eq hdouble)
  rw [value_thousands] at hexact
  exact ⟨hs, hexact⟩

/-- One less than the least integer of 64 bits. -/
def belowRange : Numeral where
  sign := .minus
  whole := "9223372036854775809".toList
  fraction := none
  exponent := none
  nonempty := by decide
  allDigits := List.all_eq_true.mp rfl

theorem value_belowRange : belowRange.value = -9223372036854775809 := by
  have hdecimal : belowRange.decimal = ⟨9223372036854775809, 0⟩ := by decide
  have hsign : belowRange.sign.negative = true := rfl
  rw [Numeral.value, hdecimal, hsign]
  norm_num [Decimal.toRat]

theorem roundsTo_belowRange : RoundsTo belowRange.value Int64.minValue := by
  have hrounded : Binary64.Rounded (1086 * Binary64.binade)
      (9223372036854775809 * Binary64.unitsPerOne) 1 :=
    ⟨by decide +kernel, by decide +kernel⟩
  have hvalue : belowRange.value =
      Binary64.signedBy true ((9223372036854775809 : Nat) / (1 : Nat)) := by
    rw [value_belowRange]
    norm_num [Binary64.signedBy]
  refine ⟨.signed true ⟨1086 * Binary64.binade, by decide⟩, ?_, ?_⟩
  · rw [hvalue]
    exact Binary64.nearest_signed (hrounded.nearestPlace Nat.one_pos)
  · exact Binary64.toWhole?_eq_some_iff.mp (by decide +kernel)

/-- The number is out of range, and it is coerced to another one. -/
theorem coerce_integer_belowRange :
    Text.trim "-9223372036854775809".toList = belowRange.text ∧
      (∀ i : Int64, (i.toInt : ℚ) ≠ belowRange.value) ∧
      (Value.text "-9223372036854775809").coerce .integer = .ok (.integer Int64.minValue) := by
  have hs : Text.trim "-9223372036854775809".toList = belowRange.text := by decide
  have hrange (i : Int64) : (i.toInt : ℚ) ≠ belowRange.value := by
    rw [value_belowRange]
    have hle := Int64.le_toInt i
    intro h
    have hi : i.toInt = -9223372036854775809 := by exact_mod_cast h
    omega
  have hliteral : ¬Literal belowRange := fun h => h.2.elim hrange
  exact ⟨hs, hrange, (coerce_integer_eq_ok_iff hs).mpr (.inr ⟨hliteral, roundsTo_belowRange⟩)⟩

end Value

end RowMap
