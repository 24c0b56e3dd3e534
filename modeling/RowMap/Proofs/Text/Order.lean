import Mathlib.Tactic.SplitIfs
import RowMap.Proofs.Text.Utf8

/-!
# The order of texts

Texts are compared character by character. Their encodings compare in the same way, byte by byte
(`lt_iff_bytes_lt`): the bytes of a greater character are already greater before those of a smaller
one end.
-/

namespace RowMap.Text

/-- The bytes of a text. -/
def bytes (s : String) : List UInt8 :=
  s.toUTF8.data.toList

theorem utf8EncodeChar_ne_nil (c : Char) : String.utf8EncodeChar c ≠ [] := by
  simp only [String.utf8EncodeChar]
  split_ifs <;> exact List.cons_ne_nil _ _

/-- Numbers compare as their digits to the base of 64 do. -/
theorem digits_lt {v w : Nat} (h : v < w) :
    v / 262144 < w / 262144 ∨ v / 262144 = w / 262144 ∧ (v / 4096 % 64 < w / 4096 % 64 ∨
      v / 4096 % 64 = w / 4096 % 64 ∧ (v / 64 % 64 < w / 64 % 64 ∨
        v / 64 % 64 = w / 64 % 64 ∧ v % 64 < w % 64)) := by
  have hdigits (u : Nat) :
      u = ((u / 262144 * 64 + u / 4096 % 64) * 64 + u / 64 % 64) * 64 + u % 64 := by omega
  have hv := hdigits v
  have hw := hdigits w
  generalize v / 262144 = a, v / 4096 % 64 = b, v / 64 % 64 = c, v % 64 = d at *
  omega

/-- The encoding of a smaller character is smaller, whatever follows. -/
theorem utf8EncodeChar_append_lt {c d : Char} (h : c < d) (x y : List UInt8) :
    String.utf8EncodeChar c ++ x < String.utf8EncodeChar d ++ y := by
  have hlt : c.val.toNat < d.val.toNat := h
  have hd : d.val.toNat < 0xd800 ∨ (0xdfff < d.val.toNat ∧ d.val.toNat < 0x110000) := d.valid
  simp only [String.utf8EncodeChar]
  generalize c.val.toNat = v at *
  generalize d.val.toNat = w at *
  have hdigits := digits_lt hlt
  have hv : v / 262144 % 8 = v / 262144 := Nat.mod_eq_of_lt (by omega)
  have hw : w / 262144 % 8 = w / 262144 := Nat.mod_eq_of_lt (by omega)
  split_ifs <;>
    simp only [List.cons_append, List.nil_append, List.cons_lt_cons_iff, UInt8.lt_iff_toNat_lt,
      ← UInt8.toNat_inj] <;>
    simp (disch := omega) only [toNat_ofNat_of_lt]
  all_goals omega

/-- A common front does not matter for the order. -/
theorem append_lt_append_left (l : List UInt8) {x y : List UInt8} (h : x < y) :
    l ++ x < l ++ y := by
  induction l with
  | nil => exact h
  | cons a l ih => exact List.cons_lt_cons_iff.mpr (.inr ⟨rfl, ih⟩)

/-- Encoding keeps the order of characters. -/
theorem flatMap_utf8EncodeChar_lt {cs ds : List Char} (h : cs < ds) :
    cs.flatMap String.utf8EncodeChar < ds.flatMap String.utf8EncodeChar := by
  induction cs generalizing ds with
  | nil =>
    cases ds with
    | nil => exact absurd h (List.not_lt_nil _)
    | cons d ds =>
      obtain ⟨b, rest, hd⟩ := List.exists_cons_of_ne_nil (utf8EncodeChar_ne_nil d)
      rw [List.flatMap_cons, hd]
      exact List.nil_lt_cons _ _
  | cons c cs ih =>
    cases ds with
    | nil => exact absurd h (List.not_lt_nil _)
    | cons d ds =>
      rw [List.flatMap_cons, List.flatMap_cons]
      rcases List.cons_lt_cons_iff.mp h with hlt | ⟨rfl, hrest⟩
      · exact utf8EncodeChar_append_lt hlt _ _
      · exact append_lt_append_left _ (ih hrest)

/-- A smaller text has smaller bytes. -/
theorem bytes_lt {s t : String} (h : s < t) : bytes s < bytes t := by
  rw [bytes, bytes, toList_toUTF8, toList_toUTF8]
  exact flatMap_utf8EncodeChar_lt (String.lt_iff.mp h)

/-- Texts are in the order of their bytes. -/
theorem lt_iff_bytes_lt {s t : String} : s < t ↔ bytes s < bytes t := by
  refine ⟨bytes_lt, fun h => Decidable.not_not.mp fun hst => ?_⟩
  by_cases hts : t < s
  · exact List.lt_asymm h (bytes_lt hts)
  · rw [String.le_antisymm (String.not_lt.mp hts) (String.not_lt.mp hst)] at h
    exact List.lt_irrefl _ h

/-- Texts and their bytes have the same order. -/
theorem le_iff_bytes_le {s t : String} : s ≤ t ↔ bytes s ≤ bytes t := by
  rw [← String.not_lt, ← List.not_lt, lt_iff_bytes_lt]

theorem bytes_le_antisymm {s t : String} (hst : bytes s ≤ bytes t) (hts : bytes t ≤ bytes s) :
    s = t :=
  String.le_antisymm (le_iff_bytes_le.mpr hst) (le_iff_bytes_le.mpr hts)

end RowMap.Text
