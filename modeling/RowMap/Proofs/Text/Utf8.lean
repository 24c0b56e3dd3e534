import RowMap.Text.Utf8

/-!
# Decoding encoded text

A text that is encoded and decoded again is the same text (`decode_toUTF8`). The bytes of one
character are followed through the decoder; their number and their ranges depend on the size of its
code point.
-/

namespace RowMap.Text

section Steps

variable {bits low high missing : Nat} {byte : UInt8}

/-- A byte below the bound of two is a character by itself. -/
theorem decodeFrom_ascii (h : byte.toNat < 0x80) (rest : List UInt8) :
    decodeFrom none (byte :: rest) = Char.ofNat byte.toNat :: decodeFrom none rest := by
  rw [decodeFrom, startChar, if_pos h]
  rfl

/-- A leading byte leaves its bits and the range of the next byte. -/
theorem decodeFrom_lead (h : followers? byte.toNat = some (low, high, missing))
    (hlead : 0x80 ≤ byte.toNat) (rest : List UInt8) :
    decodeFrom none (byte :: rest) =
      decodeFrom (some ⟨byte.toNat % Nat.pow 2 (6 - missing), low, high, missing⟩) rest := by
  rw [decodeFrom, startChar, if_neg (by omega), h]
  rfl

/-- A following byte leaves its bits, and the bytes behind it may have any value. -/
theorem decodeFrom_more (hlow : low ≤ byte.toNat) (hhigh : byte.toNat ≤ high)
    (rest : List UInt8) :
    decodeFrom (some ⟨bits, low, high, missing + 2⟩) (byte :: rest) =
      decodeFrom (some ⟨bits * 64 + byte.toNat % 64, 0x80, 0xbf, missing + 1⟩) rest := by
  rw [decodeFrom, if_pos ⟨hlow, hhigh⟩, if_neg (by simp)]
  rfl

/-- The last byte completes the character. -/
theorem decodeFrom_last (hlow : low ≤ byte.toNat) (hhigh : byte.toNat ≤ high)
    (rest : List UInt8) :
    decodeFrom (some ⟨bits, low, high, 1⟩) (byte :: rest) =
      Char.ofNat (bits * 64 + byte.toNat % 64) :: decodeFrom none rest := by
  rw [decodeFrom, if_pos ⟨hlow, hhigh⟩, if_pos (Nat.le_refl 1)]

end Steps

theorem toNat_ofNat_of_lt {n : Nat} (h : n < 256) : (UInt8.ofNat n).toNat = n := by
  rw [UInt8.toNat_ofNat', Nat.mod_eq_of_lt h]

/-- A character of two bytes is decoded. -/
theorem decodeFrom_two {v : Nat} (h : 0x80 ≤ v) (hv : v ≤ 0x7ff) (rest : List UInt8) :
    decodeFrom none (UInt8.ofNat (v / 64 % 32 + 0xc0) :: UInt8.ofNat (v % 64 + 0x80) :: rest) =
      Char.ofNat v :: decodeFrom none rest := by
  have h₁ : (UInt8.ofNat (v / 64 % 32 + 0xc0)).toNat = v / 64 + 0xc0 := by
    rw [toNat_ofNat_of_lt (by omega)]
    omega
  have h₂ : (UInt8.ofNat (v % 64 + 0x80)).toNat = v % 64 + 0x80 := toNat_ofNat_of_lt (by omega)
  have hlead : followers? (v / 64 + 0xc0) = some (0x80, 0xbf, 1) := if_pos (by omega)
  have hbits : (v / 64 + 0xc0) % Nat.pow 2 (6 - 1) * 64 + (v % 64 + 0x80) % 64 = v := by
    have hpow : Nat.pow 2 (6 - 1) = 32 := rfl
    rw [hpow]
    omega
  rw [decodeFrom_lead (by rw [h₁]; exact hlead) (by omega), decodeFrom_last (by omega) (by omega),
    h₁, h₂, hbits]

/-- The second byte of a character of three bytes is in the range that the first one asks for. -/
theorem followers?_three {v : Nat} (h : 0x800 ≤ v) (hv : v ≤ 0xffff)
    (hs : v < 0xd800 ∨ 0xdfff < v) :
    ∃ low high, followers? (v / 4096 + 0xe0) = some (low, high, 2) ∧
      low ≤ v / 64 % 64 + 0x80 ∧ v / 64 % 64 + 0x80 ≤ high := by
  unfold followers?
  rw [if_neg (by omega)]
  by_cases he0 : v / 4096 + 0xe0 = 0xe0
  · exact ⟨0xa0, 0xbf, if_pos he0, by omega, by omega⟩
  · rw [if_neg he0]
    by_cases hed : v / 4096 + 0xe0 = 0xed
    · exact ⟨0x80, 0x9f, if_pos hed, by omega, by omega⟩
    · rw [if_neg hed]
      exact ⟨0x80, 0xbf, if_pos (by omega), by omega, by omega⟩

/-- A character of three bytes is decoded, as it is no surrogate. -/
theorem decodeFrom_three {v : Nat} (h : 0x800 ≤ v) (hv : v ≤ 0xffff)
    (hs : v < 0xd800 ∨ 0xdfff < v) (rest : List UInt8) :
    decodeFrom none (UInt8.ofNat (v / 4096 % 16 + 0xe0) :: UInt8.ofNat (v / 64 % 64 + 0x80) ::
      UInt8.ofNat (v % 64 + 0x80) :: rest) = Char.ofNat v :: decodeFrom none rest := by
  have h₁ : (UInt8.ofNat (v / 4096 % 16 + 0xe0)).toNat = v / 4096 + 0xe0 := by
    rw [toNat_ofNat_of_lt (by omega)]
    omega
  have h₂ : (UInt8.ofNat (v / 64 % 64 + 0x80)).toNat = v / 64 % 64 + 0x80 :=
    toNat_ofNat_of_lt (by omega)
  have h₃ : (UInt8.ofNat (v % 64 + 0x80)).toNat = v % 64 + 0x80 := toNat_ofNat_of_lt (by omega)
  obtain ⟨low, high, hlead, hlow, hhigh⟩ := followers?_three h hv hs
  have hbits : ((v / 4096 + 0xe0) % Nat.pow 2 (6 - 2) * 64 + (v / 64 % 64 + 0x80) % 64) * 64 +
      (v % 64 + 0x80) % 64 = v := by
    have hpow : Nat.pow 2 (6 - 2) = 16 := rfl
    rw [hpow]
    omega
  rw [decodeFrom_lead (by rw [h₁]; exact hlead) (by omega),
    decodeFrom_more (by omega) (by omega), decodeFrom_last (by omega) (by omega), h₁, h₂, h₃, hbits]

/-- The second of four bytes is in the range that the first one leaves. -/
theorem followers?_four {v : Nat} (h : 0x10000 ≤ v) (hv : v < 0x110000) :
    ∃ low high, followers? (v / 262144 + 0xf0) = some (low, high, 3) ∧
      low ≤ v / 4096 % 64 + 0x80 ∧ v / 4096 % 64 + 0x80 ≤ high := by
  unfold followers?
  rw [if_neg (by omega), if_neg (by omega), if_neg (by omega), if_neg (by omega)]
  by_cases hf0 : v / 262144 + 0xf0 = 0xf0
  · exact ⟨0x90, 0xbf, if_pos hf0, by omega, by omega⟩
  · rw [if_neg hf0]
    by_cases hf3 : v / 262144 + 0xf0 ≤ 0xf3
    · exact ⟨0x80, 0xbf, if_pos (by omega), by omega, by omega⟩
    · rw [if_neg (by omega)]
      exact ⟨0x80, 0x8f, if_pos (by omega), by omega, by omega⟩

/-- A character of four bytes is decoded. -/
theorem decodeFrom_four {v : Nat} (h : 0x10000 ≤ v) (hv : v < 0x110000) (rest : List UInt8) :
    decodeFrom none (UInt8.ofNat (v / 262144 % 8 + 0xf0) :: UInt8.ofNat (v / 4096 % 64 + 0x80) ::
      UInt8.ofNat (v / 64 % 64 + 0x80) :: UInt8.ofNat (v % 64 + 0x80) :: rest) =
        Char.ofNat v :: decodeFrom none rest := by
  have h₁ : (UInt8.ofNat (v / 262144 % 8 + 0xf0)).toNat = v / 262144 + 0xf0 := by
    rw [toNat_ofNat_of_lt (by omega)]
    omega
  have h₂ : (UInt8.ofNat (v / 4096 % 64 + 0x80)).toNat = v / 4096 % 64 + 0x80 :=
    toNat_ofNat_of_lt (by omega)
  have h₃ : (UInt8.ofNat (v / 64 % 64 + 0x80)).toNat = v / 64 % 64 + 0x80 :=
    toNat_ofNat_of_lt (by omega)
  have h₄ : (UInt8.ofNat (v % 64 + 0x80)).toNat = v % 64 + 0x80 := toNat_ofNat_of_lt (by omega)
  obtain ⟨low, high, hlead, hlow, hhigh⟩ := followers?_four h hv
  have hbits : (((v / 262144 + 0xf0) % Nat.pow 2 (6 - 3) * 64 + (v / 4096 % 64 + 0x80) % 64) * 64 +
      (v / 64 % 64 + 0x80) % 64) * 64 + (v % 64 + 0x80) % 64 = v := by
    have hpow : Nat.pow 2 (6 - 3) = 8 := rfl
    rw [hpow]
    omega
  rw [decodeFrom_lead (by rw [h₁]; exact hlead) (by omega),
    decodeFrom_more (by omega) (by omega), decodeFrom_more (by omega) (by omega),
    decodeFrom_last (by omega) (by omega), h₁, h₂, h₃, h₄, hbits]

/-- Whatever the number of its bytes, an encoded character is decoded. -/
theorem decodeFrom_encoded (c : Char) (rest : List UInt8) :
    decodeFrom none (String.utf8EncodeChar c ++ rest) = c :: decodeFrom none rest := by
  have hvalid : c.toNat < 0xd800 ∨ (0xdfff < c.toNat ∧ c.toNat < 0x110000) := c.valid
  have hback : Char.ofNat c.toNat = c := Char.ofNat_toNat c
  have hval : c.val.toNat = c.toNat := rfl
  simp only [String.utf8EncodeChar, hval]
  generalize c.toNat = v at *
  subst hback
  split
  · have hv : (UInt8.ofNat v).toNat = v := toNat_ofNat_of_lt (by omega)
    rw [List.singleton_append, decodeFrom_ascii (by omega), hv]
  · split
    · exact decodeFrom_two (by omega) (by omega) rest
    · split
      · exact decodeFrom_three (by omega) (by omega) (by omega) rest
      · exact decodeFrom_four (by omega) (by omega) rest

/-- Encoded characters are decoded one by one. -/
theorem decodeFrom_flatMap (cs : List Char) :
    decodeFrom none (cs.flatMap String.utf8EncodeChar) = cs := by
  induction cs with
  | nil => rfl
  | cons c cs ih => rw [List.flatMap_cons, decodeFrom_encoded, ih]

/-- A text is encoded character by character. -/
theorem toList_toUTF8 (s : String) :
    s.toUTF8.data.toList = s.toList.flatMap String.utf8EncodeChar := by
  rw [String.toUTF8_eq_toByteArray, ← String.utf8Encode_toList]
  exact List.toList_data_toByteArray

/-- A text that is encoded is decoded again. -/
theorem decode_toUTF8 (s : String) : decode s.toUTF8 = s := by
  rw [decode, toList_toUTF8, decodeFrom_flatMap, String.ofList_toList]

end RowMap.Text
