/-!
# Decimal digits

Whole numbers as decimal text. `digits` writes a number without leading zeros and `value` reads a
run of digits; reading what was written gives the number back (`value_digits`), and a number padded
with zeros still reads the same (`value_padded`).
-/

namespace RowMap.Decimal

/-- The character of a digit. -/
def digitChar (d : Nat) : Char :=
  Char.ofNat (48 + d)

/-- The digit of a character. -/
def digitValue (c : Char) : Nat :=
  c.toNat - 48

/-- Only the ten ASCII digits count as digits in numbers and dates. -/
def isDigit (c : Char) : Bool :=
  48 ≤ c.toNat && c.toNat ≤ 57

/-- The digits of a number, the most significant first. -/
def digits (n : Nat) : List Char :=
  if n < 10 then [digitChar n] else digits (n / 10) ++ [digitChar (n % 10)]
  termination_by n

/-- The number that a run of digits stands for. -/
def value (cs : List Char) : Nat :=
  cs.foldl (fun n c => 10 * n + digitValue c) 0

/-- The digits of a number, filled up with zeros on the left. -/
def padded (width n : Nat) : List Char :=
  let ds := digits n
  List.replicate (width - ds.length) '0' ++ ds

/-- A whole number with a minus sign if it is negative. -/
def signed (i : Int) : List Char :=
  if i < 0 then '-' :: digits i.natAbs else digits i.natAbs

/-- A number as text. -/
def text (n : Nat) : String :=
  String.ofList (digits n)

/-- A whole number as text. -/
def signedText (i : Int) : String :=
  String.ofList (signed i)

/-- Reads a sign and one or more digits up to the end of the text. -/
def signed? : List Char → Option Int
  | [] => none
  | c :: cs =>
    let ds := if c = '-' ∨ c = '+' then cs else c :: cs
    if ds ≠ [] ∧ ds.all isDigit then
      some (if c = '-' then -(value ds : Int) else value ds)
    else none

theorem toNat_digitChar {d : Nat} (h : d < 10) : (digitChar d).toNat = 48 + d := by
  have all : ∀ d < 10, (digitChar d).toNat = 48 + d := by decide
  exact all d h

theorem digitValue_digitChar {d : Nat} (h : d < 10) : digitValue (digitChar d) = d := by
  simp [digitValue, toNat_digitChar h]

theorem isDigit_digitChar {d : Nat} (h : d < 10) : isDigit (digitChar d) = true := by
  simp only [isDigit, toNat_digitChar h, Bool.and_eq_true, decide_eq_true_eq]
  omega

/-- A digit at the end moves the others up by one place. -/
theorem value_append (as : List Char) (c : Char) :
    value (as ++ [c]) = 10 * value as + digitValue c := by
  simp [value]

/-- Digits are read back as their number. -/
theorem value_digits (n : Nat) : value (digits n) = n := by
  fun_induction digits n with
  | case1 n h => simp [value, digitValue_digitChar h]
  | case2 n h ih =>
    rw [value_append, ih, digitValue_digitChar (Nat.mod_lt _ (by decide))]
    omega

theorem isDigit_of_mem_digits {n : Nat} {c : Char} (h : c ∈ digits n) : isDigit c = true := by
  fun_induction digits n with
  | case1 n hn => rw [List.mem_singleton.mp h]; exact isDigit_digitChar hn
  | case2 n hn ih =>
    rcases List.mem_append.mp h with h | h
    · exact ih h
    · rw [List.mem_singleton.mp h]; exact isDigit_digitChar (Nat.mod_lt _ (by decide))

theorem digits_ne_nil (n : Nat) : digits n ≠ [] := by
  fun_induction digits n <;> simp

/-- Leading zeros do not matter. -/
theorem value_replicate_zero (k : Nat) (cs : List Char) :
    value (List.replicate k '0' ++ cs) = value cs := by
  induction k with
  | zero => rfl
  | succ k ih => simpa [value, List.replicate_succ, digitValue] using ih

theorem value_padded (width n : Nat) : value (padded width n) = n := by
  rw [padded, value_replicate_zero, value_digits]

end RowMap.Decimal
