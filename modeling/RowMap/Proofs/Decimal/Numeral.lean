import Mathlib.Algebra.Order.Field.Rat
import RowMap.Decimal.Basic
import RowMap.Proofs.Decimal.Digits

/-!
# Numerals

A `Numeral` is a decimal number as it is spelled: perhaps a sign, digits with at most one point
among or beside them, and perhaps an exponent. It stands for a rational number (`Numeral.value`).
Without its sign it is read as the decimal that it is (`read?_unsigned`), and it is read as an
integer exactly if it has neither a point nor an exponent (`signed?_text`).
-/

namespace RowMap

open Decimal (isDigit)

/-- The sign in front of a number, if there is one. -/
inductive Sign where
  | none
  | plus
  | minus
  deriving DecidableEq

namespace Sign

/-- The sign as it is written. -/
def text : Sign → List Char
  | .none => []
  | .plus => ['+']
  | .minus => ['-']

/-- Only a minus makes a number negative. -/
def negative (s : Sign) : Bool :=
  s = .minus

/-- A whole number under the sign. -/
def apply (s : Sign) (n : Nat) : Int :=
  if s.negative then -n else n

end Sign

/-- The text does not begin with a sign. -/
def NoSign (cs : List Char) : Prop :=
  cs.head? ≠ some '-' ∧ cs.head? ≠ some '+'

/-- A sign is read in front of digits only. -/
theorem Decimal.signed?_sign (s : Sign) {cs : List Char} (h : NoSign cs) :
    signed? (s.text ++ cs) =
      if cs ≠ [] ∧ cs.all isDigit then some (s.apply (value cs)) else none := by
  cases s with
  | none =>
    cases cs with
    | nil => rfl
    | cons c cs =>
      have hminus : c ≠ '-' := fun hc => h.1 (congrArg some hc)
      have hplus : c ≠ '+' := fun hc => h.2 (congrArg some hc)
      simp [Sign.text, signed?, hminus, hplus, Sign.apply, Sign.negative]
  | plus => simp [Sign.text, signed?, Sign.apply, Sign.negative]
  | minus => simp [Sign.text, signed?, Sign.apply, Sign.negative]

/-! ## What follows the digits -/

namespace Decimal

/-- The decimal of some digits, of which so many stand behind the point, and of an exponent that may
follow them. -/
def withExponent? (coefficient : Nat) (places : Int) : List Char → Option Decimal
  | [] => some ⟨coefficient, -places⟩
  | mark :: rest =>
    if mark = 'e' ∨ mark = 'E' then
      (signed? rest).map fun exponent => ⟨coefficient, exponent - places⟩
    else none

section Read

variable {whole ds rest : List Char} (hwhole : ∀ c ∈ whole, isDigit c = true)
  (hrest : NoDigit rest)

include hwhole hrest

/-- Digits without a point are followed by the exponent. -/
theorem read?_whole (hne : whole ≠ []) (hpoint : rest.head? ≠ some '.') :
    read? (whole ++ rest) = withExponent? (value whole) 0 rest := by
  unfold read?
  rw [takeWhile_digits hwhole hrest, dropWhile_digits hwhole hrest]
  cases rest with
  | nil => simp [hne, withExponent?]
  | cons c rest =>
    have hc : c ≠ '.' := fun hc => hpoint (congrArg some hc)
    simp [hne, hc, withExponent?]

/-- Digits with a point among them are followed by the exponent. -/
theorem read?_point (hds : ∀ c ∈ ds, isDigit c = true) (hne : whole ++ ds ≠ []) :
    read? (whole ++ '.' :: (ds ++ rest)) = withExponent? (value (whole ++ ds)) ds.length rest := by
  unfold read?
  rw [takeWhile_digits hwhole (noDigit_cons rfl), dropWhile_digits hwhole (noDigit_cons rfl)]
  simp only [takeWhile_digits hds hrest, dropWhile_digits hds hrest]
  rw [if_neg (by simpa using hne)]
  cases rest <;> rfl

end Read

end Decimal

/-- A digit or a point is no sign. -/
theorem noSign_of_head? {cs : List Char} {c : Char} (h : cs.head? = some c)
    (hc : isDigit c = true ∨ c = '.') : NoSign cs := by
  rw [NoSign, h]
  rcases hc with hdigit | rfl
  · simp [Decimal.ne_of_isDigit hdigit (d := '-') rfl, Decimal.ne_of_isDigit hdigit (d := '+') rfl]
  · simp

/-- Digits with a sign in front are read as the signed number. -/
theorem Decimal.signed?_digits (s : Sign) {ds : List Char} (hne : ds ≠ [])
    (hall : ∀ c ∈ ds, isDigit c = true) : signed? (s.text ++ ds) = some (s.apply (value ds)) := by
  have hsign := noSign_of_head? (List.head?_eq_some_head hne) (.inl (hall _ (List.head_mem hne)))
  rw [signed?_sign s hsign, if_pos ⟨hne, List.all_eq_true.mpr hall⟩]

/-- An integer is read back from its sign and its digits. -/
theorem Decimal.signed?_signed (n : Int) : signed? (signed n) = some n := by
  have hread (s : Sign) : signed? (s.text ++ digits n.natAbs) = some (s.apply n.natAbs) := by
    rw [signed?_digits s (digits_ne_nil _) fun _ hc => isDigit_of_mem_digits hc, value_digits]
  unfold signed
  split
  · have happly : Sign.minus.apply n.natAbs = n := by
      show -(n.natAbs : Int) = n
      omega
    exact (hread .minus).trans (congrArg some happly)
  · have happly : Sign.none.apply n.natAbs = n := by
      show (n.natAbs : Int) = n
      omega
    exact (hread .none).trans (congrArg some happly)

/-! ## Spelling -/

/-- The exponent of a numeral. -/
structure Exponent where
  mark : Char
  sign : Sign
  digits : List Char
  isMark : mark = 'e' ∨ mark = 'E'
  nonempty : digits ≠ []
  allDigits : ∀ c ∈ digits, isDigit c = true

namespace Exponent

/-- The exponent as it is written, with its mark. -/
def text (e : Exponent) : List Char :=
  e.mark :: (e.sign.text ++ e.digits)

/-- The exponent as a number. -/
def value (e : Exponent) : Int :=
  e.sign.apply (Decimal.value e.digits)

/-- The sign and the digits of an exponent are read as its value. -/
theorem signed?_text (e : Exponent) : Decimal.signed? (e.sign.text ++ e.digits) = some e.value :=
  Decimal.signed?_digits e.sign e.nonempty e.allDigits

theorem not_digit (e : Exponent) : isDigit e.mark = false := by
  rcases e.isMark with h | h <;> rw [h] <;> rfl

end Exponent

/-- A decimal number as it is spelled. -/
structure Numeral where
  sign : Sign
  whole : List Char
  /-- What follows the point, if there is one. -/
  fraction : Option (List Char)
  exponent : Option Exponent
  nonempty : whole ++ fraction.getD [] ≠ []
  allDigits : ∀ c ∈ whole ++ fraction.getD [], isDigit c = true

namespace Numeral

variable (x : Numeral)

/-- The digits behind the point, with the point. -/
def fractionText : List Char :=
  match x.fraction with
  | some ds => '.' :: ds
  | none => []

/-- The exponent with its mark. -/
def exponentText : List Char :=
  match x.exponent with
  | some e => e.text
  | none => []

/-- The numeral without its sign. -/
def unsigned : List Char :=
  x.whole ++ (x.fractionText ++ x.exponentText)

/-- The numeral as it is written. -/
def text : List Char :=
  x.sign.text ++ x.unsigned

/-- The numeral has neither a point nor an exponent. -/
def Plain : Prop :=
  x.fraction = none ∧ x.exponent = none

/-- The decimal that the numeral is without its sign. -/
def decimal : Decimal :=
  ⟨Decimal.value (x.whole ++ x.fraction.getD []),
    (x.exponent.map Exponent.value).getD 0 - (x.fraction.getD []).length⟩

end Numeral

/-- The number that a decimal stands for. -/
def Decimal.toRat (d : Decimal) : ℚ :=
  d.coefficient * 10 ^ d.exponent

/-- The number that a numeral stands for. -/
def Numeral.value (x : Numeral) : ℚ :=
  if x.sign.negative then -x.decimal.toRat else x.decimal.toRat

namespace Numeral

variable (x : Numeral)

/-- An exponent begins with no digit. -/
theorem noDigit_exponentText : Decimal.NoDigit x.exponentText := by
  unfold exponentText
  cases x.exponent with
  | none => exact Decimal.noDigit_nil
  | some e => exact Decimal.noDigit_cons e.not_digit

/-- An exponent is read, and one that is missing counts as zero. -/
theorem withExponent?_exponentText (coefficient : Nat) (places : Int) :
    Decimal.withExponent? coefficient places x.exponentText =
      some ⟨coefficient, (x.exponent.map Exponent.value).getD 0 - places⟩ := by
  unfold exponentText
  cases x.exponent with
  | none => simp [Decimal.withExponent?]
  | some e => simp [Exponent.text, Decimal.withExponent?, e.isMark, e.signed?_text]

/-- An exponent begins with no point. -/
theorem head?_exponentText : x.exponentText.head? ≠ some '.' := by
  unfold exponentText
  cases x.exponent with
  | none => exact nofun
  | some e =>
    rcases e.isMark with h | h <;> simp [Exponent.text, h]

/-- A numeral without its sign is read as its decimal. -/
theorem read?_unsigned : Decimal.read? x.unsigned = some x.decimal := by
  have hwhole : ∀ c ∈ x.whole, isDigit c = true :=
    fun c hc => x.allDigits c (List.mem_append_left _ hc)
  have hnonempty := x.nonempty
  have hall := x.allDigits
  unfold unsigned decimal fractionText
  cases hfraction : x.fraction with
  | none =>
    rw [hfraction, Option.getD_none, List.append_nil] at hnonempty
    rw [List.nil_append, Decimal.read?_whole hwhole x.noDigit_exponentText hnonempty
      x.head?_exponentText, x.withExponent?_exponentText]
    simp
  | some ds =>
    rw [hfraction, Option.getD_some] at hnonempty hall
    have hds : ∀ c ∈ ds, isDigit c = true := fun c hc => hall c (List.mem_append_right _ hc)
    rw [List.cons_append, Decimal.read?_point hwhole x.noDigit_exponentText hds hnonempty,
      x.withExponent?_exponentText]
    rfl

/-- Behind the sign comes a digit or the point. -/
theorem head?_unsigned : ∃ c, x.unsigned.head? = some c ∧ (isDigit c = true ∨ c = '.') := by
  have hnonempty := x.nonempty
  have hall := x.allDigits
  unfold unsigned fractionText
  cases hwhole : x.whole with
  | cons c cs =>
    rw [hwhole] at hall
    exact ⟨c, rfl, .inl (hall c List.mem_cons_self)⟩
  | nil =>
    cases hfraction : x.fraction with
    | none => simp [hwhole, hfraction] at hnonempty
    | some ds => exact ⟨'.', rfl, .inr rfl⟩

theorem noSign_unsigned : NoSign x.unsigned := by
  obtain ⟨c, hc, hfirst⟩ := x.head?_unsigned
  exact noSign_of_head? hc hfirst

instance : Decidable x.Plain :=
  inferInstanceAs (Decidable (_ ∧ _))

/-- A numeral of digits only is plain. -/
theorem plain_of_allDigits (h : ∀ c ∈ x.unsigned, isDigit c = true) : x.Plain := by
  constructor
  · cases hfraction : x.fraction with
    | none => rfl
    | some ds =>
      have hpoint : isDigit '.' = true := h '.' (by simp [unsigned, fractionText, hfraction])
      cases hpoint
  · cases hexponent : x.exponent with
    | none => rfl
    | some e =>
      have hmark : isDigit e.mark = true :=
        h e.mark (by simp [unsigned, exponentText, hexponent, Exponent.text])
      rw [e.not_digit] at hmark
      cases hmark

/-- Only a plain numeral is read as an integer. -/
theorem signed?_text : Decimal.signed? x.text =
    if x.Plain then some (x.sign.apply x.decimal.coefficient) else none := by
  rw [text, Decimal.signed?_sign x.sign x.noSign_unsigned]
  by_cases hplain : x.Plain
  · obtain ⟨hfraction, hexponent⟩ := id hplain
    have hunsigned : x.unsigned = x.whole ++ x.fraction.getD [] := by
      simp [unsigned, fractionText, exponentText, hfraction, hexponent]
    rw [if_pos hplain, hunsigned, if_pos ⟨x.nonempty, List.all_eq_true.mpr x.allDigits⟩]
    rfl
  · rw [if_neg hplain, if_neg]
    rintro ⟨-, hall⟩
    exact hplain (x.plain_of_allDigits (List.all_eq_true.mp hall))

/-- The value of a plain numeral is a whole number. -/
theorem value_of_plain (h : x.Plain) : x.value = (x.sign.apply x.decimal.coefficient : Int) := by
  have hexponent : x.decimal.exponent = 0 := by simp [decimal, h.1, h.2]
  rw [value, Decimal.toRat, hexponent, zpow_zero, mul_one, Sign.apply]
  split <;> simp

end Numeral

end RowMap
