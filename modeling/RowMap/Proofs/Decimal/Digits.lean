import RowMap.Decimal.Digits
import RowMap.Text.Blank

/-!
# Runs of digits

How many digits a number has, and where a run of digits ends in a text. A number in a text is
followed by its `NoDigit` rest, and then the run of digits at its place is the number and nothing
else (`takeWhile_digits`, `dropWhile_digits`).
-/

namespace RowMap.Decimal

/-- The text does not begin with a digit. -/
def NoDigit (cs : List Char) : Prop :=
  ∀ c, cs.head? = some c → isDigit c = false

theorem noDigit_nil : NoDigit [] := by
  simp [NoDigit]

theorem noDigit_cons {c : Char} {cs : List Char} (h : isDigit c = false) : NoDigit (c :: cs) := by
  simpa [NoDigit] using h

/-- Without a digit in front, none is taken. -/
theorem takeWhile_of_noDigit {cs : List Char} (h : NoDigit cs) : cs.takeWhile isDigit = [] := by
  cases cs with
  | nil => rfl
  | cons c cs => rw [List.takeWhile_cons_of_neg (by simp [h c rfl])]

/-- Exactly the digits in front are taken. -/
theorem takeWhile_digits {ds rest : List Char} (hd : ∀ c ∈ ds, isDigit c = true)
    (hr : NoDigit rest) : (ds ++ rest).takeWhile isDigit = ds := by
  rw [List.takeWhile_append_of_pos hd, takeWhile_of_noDigit hr, List.append_nil]

/-- Exactly the digits in front are dropped. -/
theorem dropWhile_digits {ds rest : List Char} (hd : ∀ c ∈ ds, isDigit c = true)
    (hr : NoDigit rest) : (ds ++ rest).dropWhile isDigit = rest := by
  rw [List.dropWhile_append_of_pos hd]
  cases rest with
  | nil => rfl
  | cons c rest => rw [List.dropWhile_cons_of_neg (by simp [hr c rfl])]

/-- A digit is no other character. -/
theorem ne_of_isDigit {c d : Char} (hc : isDigit c = true) (hd : isDigit d = false) : c ≠ d := by
  rintro rfl
  rw [hc] at hd
  cases hd

/-- No digit is blank. -/
theorem isBlank_of_isDigit {c : Char} (h : isDigit c = true) : Text.isBlank c = false := by
  simp only [isDigit, Bool.and_eq_true, decide_eq_true_eq] at h
  simp only [Text.isBlank, Bool.or_eq_false_iff, Bool.and_eq_false_iff, decide_eq_false_iff_not]
  omega

/-- A text that begins with a run of digits begins with a digit. -/
theorem isDigit_of_append {ds rest cs : List Char} {c : Char} (hne : ds ≠ [])
    (hd : ∀ c ∈ ds, isDigit c = true) (h : ds ++ rest = c :: cs) : isDigit c = true := by
  cases ds with
  | nil => exact absurd rfl hne
  | cons d ds =>
    obtain rfl : d = c := (List.cons.inj h).1
    exact hd d List.mem_cons_self

theorem isDigit_of_digits_append {n : Nat} {rest cs : List Char} {c : Char}
    (h : digits n ++ rest = c :: cs) : isDigit c = true :=
  isDigit_of_append (digits_ne_nil n) (fun _ hc => isDigit_of_mem_digits hc) h

theorem signedText_natCast (n : Nat) : signedText n = text n := by
  rw [signedText, signed, if_neg (by omega), Int.natAbs_natCast, text]

/-- A positive number has no leading zero. -/
theorem head?_digits_ne_zero {n : Nat} (h : 0 < n) : (digits n).head? ≠ some '0' := by
  induction n using Nat.strongRecOn with
  | ind n ih =>
    rw [digits]
    split
    · next hn =>
      have all : ∀ n < 10, 0 < n → [digitChar n].head? ≠ some '0' := by decide
      exact all n hn h
    · next hn =>
      have hdiv := ih (n / 10) (Nat.div_lt_self h (by decide)) (by omega)
      rcases hds : digits (n / 10) with _ | ⟨d, ds⟩
      · exact absurd hds (digits_ne_nil _)
      · rw [hds] at hdiv
        exact hdiv

/-- A number has a leading zero only if it is zero. -/
theorem no_leading_zero (n : Nat) :
    ¬ ((digits n).head? = some '0' ∧ 1 < (digits n).length) := by
  rintro ⟨hhead, hlen⟩
  rcases Nat.eq_zero_or_pos n with rfl | hpos
  · simp [digits] at hlen
  · exact head?_digits_ne_zero hpos hhead

/-- A power of ten puts zeros at the end. -/
theorem digits_mul_pow {n : Nat} (h : 0 < n) (zeros : Nat) :
    digits (n * Nat.pow 10 zeros) = digits n ++ List.replicate zeros '0' := by
  induction zeros with
  | zero => simp
  | succ zeros ih =>
    have hpos : 0 < n * Nat.pow 10 zeros := Nat.mul_pos h (Nat.pow_pos (by decide))
    have hmul : n * Nat.pow 10 (zeros + 1) = n * Nat.pow 10 zeros * 10 :=
      (Nat.mul_assoc n (Nat.pow 10 zeros) 10).symm
    rw [hmul, digits, if_neg (by omega), Nat.mul_div_cancel _ (by decide), ih, Nat.mul_mod_left,
      List.append_assoc, List.replicate_succ']
    rfl

/-- A number below a power of ten has at most as many digits. -/
theorem length_digits_le {width n : Nat} (hw : 0 < width) (h : n < Nat.pow 10 width) :
    (digits n).length ≤ width := by
  induction width generalizing n with
  | zero => omega
  | succ width ih =>
    rw [digits]
    split
    · simp
    · have hdiv : n / 10 < Nat.pow 10 width := Nat.div_lt_of_lt_mul (Nat.mul_comm 10 _ ▸ h)
      have hpos : 0 < width := by
        rcases Nat.eq_zero_or_pos width with rfl | hpos
        · simp at hdiv
          omega
        · exact hpos
      have := ih hpos hdiv
      simp only [List.length_append, List.length_singleton]
      omega

/-- A padded number is exactly as wide as asked for. -/
theorem length_padded {width n : Nat} (hw : 0 < width) (h : n < Nat.pow 10 width) :
    (padded width n).length = width := by
  have := length_digits_le hw h
  simp only [padded, List.length_append, List.length_replicate]
  omega

/-- A padded number consists of digits. -/
theorem isDigit_of_mem_padded {width n : Nat} : ∀ c ∈ padded width n, isDigit c = true := by
  intro c hc
  rcases List.mem_append.mp hc with hc | hc
  · rw [List.eq_of_mem_replicate hc]
    decide
  · exact isDigit_of_mem_digits hc

theorem padded_ne_nil (width n : Nat) : padded width n ≠ [] := by
  simp [padded, digits_ne_nil]

theorem isDigit_of_padded_append {width n : Nat} {rest cs : List Char} {c : Char}
    (h : padded width n ++ rest = c :: cs) : isDigit c = true :=
  isDigit_of_append (padded_ne_nil width n) isDigit_of_mem_padded h

end RowMap.Decimal
