import RowMap.Record.KeyStyle

/-!
# Names in underscore style

A name over small letters, digits and underscores is plain. It has no capital letter, so bringing it
into underscore style leaves it as it is (`toUnderscore_of_plain`).
-/

namespace RowMap.KeyStyle

/-- Small letters, digits and underscores. -/
def isPlainChar (c : Char) : Bool :=
  (97 ≤ c.toNat && c.toNat ≤ 122) || (48 ≤ c.toNat && c.toNat ≤ 57) || c = '_'

/-- All characters are small letters, digits or underscores. -/
def IsPlain (name : String) : Prop :=
  ∀ c ∈ name.toList, isPlainChar c = true

instance (name : String) : Decidable (IsPlain name) :=
  decidable_of_iff (name.toList.all isPlainChar = true) List.all_eq_true

/-- Plain characters are single bytes. -/
theorem toNat_lt_of_isPlainChar {c : Char} (h : isPlainChar c = true) : c.toNat < 128 := by
  simp only [isPlainChar, Bool.or_eq_true, Bool.and_eq_true, decide_eq_true_eq] at h
  rcases h with (h | h) | rfl
  · omega
  · omega
  · decide

/-- What holds of the first 128 characters holds of a character among them. -/
@[elab_as_elim]
theorem of_ascii {P : Char → Prop} {c : Char} (hc : c.toNat < 128)
    (h : ∀ n < 128, P (Char.ofNat n)) : P c := by
  have hcode := h c.toNat hc
  rwa [Char.ofNat_toNat] at hcode

/-- A plain character is no capital letter. -/
theorem isPlainChar_small {c : Char} (h : isPlainChar c = true) :
    c.isUpper = false ∧ c.toLower = c := by
  have hlt := toNat_lt_of_isPlainChar h
  revert h
  exact of_ascii hlt (by decide)

/-- Plain characters are not split. -/
theorem splitWords_of_plain {cs : List Char} (h : ∀ c ∈ cs, isPlainChar c = true) :
    splitWords cs = cs := by
  fun_induction splitWords cs with
  | case1 a b rest hsplit ih =>
    have hb : b.isUpper = false := (isPlainChar_small (h b (by simp))).1
    rw [hb, Bool.and_false] at hsplit
    cases hsplit
  | case2 a b rest _ ih => rw [ih fun c hc => h c (List.mem_cons_of_mem _ hc)]
  | case3 short _ => rfl

/-- Without characters beyond ASCII, each character is brought into lower case on its own. -/
theorem lowerAfter_of_ascii {before cs : List Char} (h : ∀ c ∈ cs, c.toNat < 128) :
    Text.lowerAfter before cs = cs.map Char.toLower := by
  induction cs generalizing before with
  | nil => rfl
  | cons c cs ih =>
    have hc := h c List.mem_cons_self
    have hsigma : c ≠ 'Σ' := by
      rintro rfl
      exact absurd hc (by decide)
    rw [Text.lowerAfter, if_neg hsigma, Text.lowerChar, if_pos hc,
      ih fun c hc => h c (List.mem_cons_of_mem _ hc)]
    rfl

/-- Plain characters are in lower case. -/
theorem lowerAfter_of_plain {before cs : List Char} (h : ∀ c ∈ cs, isPlainChar c = true) :
    Text.lowerAfter before cs = cs := by
  rw [lowerAfter_of_ascii fun c hc => toNat_lt_of_isPlainChar (h c hc)]
  exact (List.map_congr_left fun c hc => (isPlainChar_small (h c hc)).2).trans (List.map_id' cs)

/-- A plain name stays as it is. -/
theorem toUnderscore_of_plain {name : String} (h : IsPlain name) : toUnderscore name = name := by
  rw [toUnderscore, Text.lower, splitWords_of_plain h, lowerAfter_of_plain h, String.ofList_toList]

end RowMap.KeyStyle
