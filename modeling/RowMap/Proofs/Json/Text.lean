import RowMap.Json.Text
import RowMap.Proofs.Decimal.Digits
import RowMap.Proofs.KeyMap

/-!
# JSON written and read

A value that is written as text is read back as itself (`read?_text`), as long as it holds no double
and is not nested deeper than the reader goes. Integers are read back exactly, in the range of 64
bits with or without a sign, and so is every character of a string.

The induction is on the value. What follows it in the text decides where a number ends, so it is
one of the characters that may follow a value (`Follows`). The reader counts rounds, which are
never fewer than the items to read.
-/

namespace RowMap.Json

open Decimal (NoDigit isDigit digits value)

/-- The two digits of an escaped control character are read back. -/
theorem readHex_escape {n : Nat} (h : n < 32) (rest : List Char) :
    readHex ('0' :: '0' :: Text.hexDigit (n / 16) :: Text.hexDigit (n % 16) :: rest) =
      some (n, rest) := by
  have all : ∀ n < 32, Text.basedNumber? 16
      ['0', '0', Text.hexDigit (n / 16), Text.hexDigit (n % 16)] = some n := by decide
  rw [readHex, all n h]
  rfl

/-- An escaped control character is read back. -/
theorem readUnicode_escape {c : Char} (h : c.toNat < 32) (rest : List Char) :
    readUnicode ('0' :: '0' :: Text.hexDigit (c.toNat / 16) :: Text.hexDigit (c.toNat % 16) ::
      rest) = some (c, rest) := by
  have hlow : c.toNat < 0xd800 ∨ 0xe000 ≤ c.toNat := .inl (by omega)
  rw [readUnicode, readHex_escape h]
  simp [hlow, Char.ofNat_toNat]

/-- A string goes on behind an escape. -/
theorem readString_backslash {rounds : Nat} {c : Char} {cs rest : List Char}
    (h : readEscape cs = some (c, rest)) :
    readString (rounds + 1) ('\\' :: cs) =
      (readString rounds rest).map fun (cs, rest) => (c :: cs, rest) := by
  rw [readString, if_neg (by decide), if_pos rfl, h]
  simp only [Option.bind_eq_bind, Option.bind_some]
  cases readString rounds rest <;> rfl

/-- A string goes on behind a character that needs no escape. -/
theorem readString_plain {rounds : Nat} {c : Char} {rest : List Char} (hquote : c ≠ '"')
    (hbackslash : c ≠ '\\') (hcontrol : ¬ c.toNat < 32) :
    readString (rounds + 1) (c :: rest) =
      (readString rounds rest).map fun (cs, rest) => (c :: cs, rest) := by
  rw [readString, if_neg hquote, if_neg hbackslash, if_neg hcontrol]
  cases readString rounds rest <;> rfl

/-- A character that was written inside of quotes is the next one to be read. -/
theorem readString_escape (rounds : Nat) (c : Char) (rest : List Char) :
    readString (rounds + 1) (escape c ++ rest) =
      (readString rounds rest).map fun (cs, rest) => (c :: cs, rest) := by
  unfold escape
  split
  · next h =>
    subst h
    exact readString_backslash rfl
  split
  · next h =>
    subst h
    exact readString_backslash rfl
  split
  · next h =>
    subst h
    exact readString_backslash rfl
  split
  · next h =>
    subst h
    exact readString_backslash rfl
  split
  · next h =>
    subst h
    exact readString_backslash rfl
  split
  · next h =>
    obtain rfl : c = Char.ofNat 8 := by rw [← h, Char.ofNat_toNat]
    exact readString_backslash rfl
  split
  · next h =>
    obtain rfl : c = Char.ofNat 12 := by rw [← h, Char.ofNat_toNat]
    exact readString_backslash rfl
  split
  · next h => exact readString_backslash (readUnicode_escape h rest)
  · next hquote hbackslash _ _ _ _ _ hcontrol =>
    exact readString_plain hquote hbackslash hcontrol

/-- An escaped string is read back, up to its closing quote. -/
theorem readString_escaped (cs rest : List Char) (rounds : Nat) (h : cs.length < rounds) :
    readString rounds (cs.flatMap escape ++ '"' :: rest) = some (cs, rest) := by
  induction cs generalizing rounds with
  | nil =>
    obtain ⟨rounds, rfl⟩ := Nat.exists_eq_succ_of_ne_zero (Nat.ne_of_gt h)
    simp [readString]
  | cons c cs ih =>
    obtain ⟨rounds, rfl⟩ := Nat.exists_eq_succ_of_ne_zero (Nat.ne_of_gt (Nat.zero_lt_of_lt h))
    have hlt : cs.length < rounds := by
      rw [List.length_cons] at h
      omega
    rw [List.flatMap_cons, List.append_assoc, readString_escape, ih rounds hlt]
    rfl

/-- Escaping drops no character. -/
theorem escape_ne_nil (c : Char) : escape c ≠ [] := by
  unfold escape
  repeat' split
  all_goals simp

/-- An escaped string is at least as long as the string, so there are rounds enough. -/
theorem length_le_escaped (cs : List Char) : cs.length ≤ (cs.flatMap escape).length := by
  induction cs with
  | nil => simp
  | cons c cs ih =>
    have := List.length_pos_iff.mpr (escape_ne_nil c)
    simp only [List.flatMap_cons, List.length_append, List.length_cons]
    omega

/-- A string in quotes is read back. -/
theorem readQuoted_quoted (s : String) (rest : List Char) :
    readQuoted (s.toList.flatMap escape ++ '"' :: rest) = some (s, rest) := by
  have hlt : s.toList.length < (s.toList.flatMap escape ++ '"' :: rest).length := by
    have := length_le_escaped s.toList
    simp only [List.length_append, List.length_cons]
    omega
  rw [readQuoted, readString_escaped s.toList rest _ hlt]
  simp

/-- What may stand behind a value: nothing, or the character that ends an item. -/
def Follows (cs : List Char) : Prop :=
  ∀ c, cs.head? = some c → c = ',' ∨ c = ']' ∨ c = Char.ofNat 125

theorem follows_nil : Follows [] := by
  simp [Follows]

theorem follows_cons {c : Char} {cs : List Char} (h : c = ',' ∨ c = ']' ∨ c = Char.ofNat 125) :
    Follows (c :: cs) := by
  simpa [Follows] using h

theorem Follows.noDigit {cs : List Char} (h : Follows cs) : NoDigit cs := by
  intro c hc
  rcases h c hc with rfl | rfl | rfl <;> decide

/-- The digits of a number are read as its literal. -/
theorem readLiteral_digits (negative : Bool) (n : Nat) {rest : List Char} (h : Follows rest) :
    readLiteral negative (digits n ++ rest) = some (⟨negative, digits n, none, none⟩, rest) := by
  have hd : ∀ c ∈ digits n, isDigit c = true := fun c hc => Decimal.isDigit_of_mem_digits hc
  have hwhole : ¬ (digits n = [] ∨ ((digits n).head? = some '0' ∧ 1 < (digits n).length)) := by
    rintro (hnil | hzero)
    · exact Decimal.digits_ne_nil n hnil
    · exact Decimal.no_leading_zero n hzero
  unfold readLiteral
  rw [Decimal.takeWhile_digits hd h.noDigit, Decimal.dropWhile_digits hd h.noDigit]
  simp only [hwhole, if_false]
  cases rest with
  | nil => rfl
  | cons c rest =>
    rcases h c rfl with rfl | rfl | rfl <;> rfl

/-- The literal of an integer stands for it, minus zero being none. -/
theorem ofLiteral?_digits {n : Int} (hn : FitsWord n) {negative : Bool}
    (hneg : negative = true ↔ n < 0) :
    Number.ofLiteral? ⟨negative, digits n.natAbs, none, none⟩ = some (.integer n hn) := by
  have hval : (if negative = true then -((value (digits n.natAbs) : Nat) : Int)
      else (value (digits n.natAbs) : Nat)) = n := by
    rw [Decimal.value_digits]
    split
    · next h =>
      have hlt := hneg.mp h
      omega
    · next h =>
      have hge : ¬ n < 0 := mt hneg.mpr h
      omega
  have hzero : ¬ (negative = true ∧ n = 0) := by
    rintro ⟨hnegative, rfl⟩
    exact absurd (hneg.mp hnegative) (by decide)
  simp only [Number.ofLiteral?, hval, and_self, if_true]
  rw [dif_pos hn, if_neg hzero]

/-- A literal whose number exists is read as this number, after its sign. -/
theorem readNumber_minus {cs rest : List Char} {literal : Number.Literal} {n : Number}
    (h : readLiteral true cs = some (literal, rest)) (hn : Number.ofLiteral? literal = some n) :
    readNumber ('-' :: cs) = some (.number n, rest) := by
  simp [readNumber, h, hn]

/-- A literal without a sign is read as its number. -/
theorem readNumber_plain {cs rest : List Char} {literal : Number.Literal} {n : Number}
    (hfirst : ∀ cs', cs ≠ '-' :: cs') (h : readLiteral false cs = some (literal, rest))
    (hn : Number.ofLiteral? literal = some n) : readNumber cs = some (.number n, rest) := by
  unfold readNumber
  split
  · next cs' => exact absurd rfl (hfirst cs')
  · simp [h, hn]

/-- A whole number of the machine word is read back. -/
theorem readNumber_signed {n : Int} (hn : FitsWord n) {rest : List Char} (h : Follows rest) :
    readNumber (Decimal.signed n ++ rest) = some (.number (.integer n hn), rest) := by
  unfold Decimal.signed
  split
  · next hneg =>
    exact readNumber_minus (readLiteral_digits true _ h)
      (ofLiteral?_digits hn (iff_of_true rfl hneg))
  · next hneg =>
    refine readNumber_plain ?_ (readLiteral_digits false _ h)
      (ofLiteral?_digits hn (iff_of_false Bool.false_ne_true hneg))
    intro cs' heq
    have := Decimal.isDigit_of_digits_append heq
    exact absurd this (by decide)

/-! ## What can be read -/

mutual

/-- How many arrays and objects are nested in each other. -/
def depth : Json → Nat
  | .array items => depthItems items + 1
  | .object fields => depthFields fields + 1
  | _ => 0

/-- The largest depth of the items. -/
def depthItems : List Json → Nat
  | [] => 0
  | item :: rest => max item.depth (depthItems rest)

/-- The largest depth of the fields. -/
def depthFields : List (String × Json) → Nat
  | [] => 0
  | (_, value) :: rest => max value.depth (depthFields rest)

end

mutual

/-- All numbers of the value are integers. -/
def Whole : Json → Prop
  | .number (.real _ _) => False
  | .array items => WholeItems items
  | .object fields => WholeFields fields
  | _ => True

/-- All items are whole. -/
def WholeItems : List Json → Prop
  | [] => True
  | item :: rest => item.Whole ∧ WholeItems rest

/-- The values of all fields are whole. -/
def WholeFields : List (String × Json) → Prop
  | [] => True
  | (_, value) :: rest => value.Whole ∧ WholeFields rest

end

theorem skipBlanks_cons {c : Char} {cs : List Char} (h : isBlank c = false) :
    skipBlanks (c :: cs) = c :: cs := by
  rw [skipBlanks, List.dropWhile_cons_of_neg (by simp [h])]

section Items

variable {readItem : List Char → Option (Json × List Char)} {rounds : Nat} {cs rest : List Char}

/-- The last item is followed by the closing bracket. -/
theorem readItems_last {item : Json} (h : readItem cs = some (item, ']' :: rest)) :
    readItems readItem (rounds + 1) cs = some ([item], rest) := by
  have hskip : skipBlanks (']' :: rest) = ']' :: rest := skipBlanks_cons (by decide)
  simp [readItems, h, hskip]

/-- An item with a comma behind it is followed by the other items. -/
theorem readItems_more {item : Json} {items : List Json} {rest' : List Char}
    (h : readItem cs = some (item, ',' :: rest))
    (hmore : readItems readItem rounds rest = some (items, rest')) :
    readItems readItem (rounds + 1) cs = some (item :: items, rest') := by
  have hskip : skipBlanks (',' :: rest) = ',' :: rest := skipBlanks_cons (by decide)
  simp [readItems, h, hskip, hmore]

/-- The last field is followed by the closing brace. -/
theorem readFields_last {key : String} {value : Json}
    (h : readItem cs = some (value, Char.ofNat 125 :: rest)) :
    readFields readItem (rounds + 1) (quoted key ++ ':' :: cs) = some ([(key, value)], rest) := by
  have hquote : skipBlanks (quoted key ++ ':' :: cs) = quoted key ++ ':' :: cs :=
    skipBlanks_cons (by decide)
  have hcolon : skipBlanks (':' :: cs) = ':' :: cs := skipBlanks_cons (by decide)
  have hskip : skipBlanks (Char.ofNat 125 :: rest) = Char.ofNat 125 :: rest :=
    skipBlanks_cons (by decide)
  rw [readFields, hquote]
  simp [quoted, readQuoted_quoted, hcolon, h, hskip]

/-- A field with a comma behind it is followed by the other fields. -/
theorem readFields_more {key : String} {value : Json} {fields : List (String × Json)}
    {rest' : List Char} (h : readItem cs = some (value, ',' :: rest))
    (hmore : readFields readItem rounds rest = some (fields, rest')) :
    readFields readItem (rounds + 1) (quoted key ++ ':' :: cs) =
      some ((key, value) :: fields, rest') := by
  have hquote : skipBlanks (quoted key ++ ':' :: cs) = quoted key ++ ':' :: cs :=
    skipBlanks_cons (by decide)
  have hcolon : skipBlanks (':' :: cs) = ':' :: cs := skipBlanks_cons (by decide)
  have hskip : skipBlanks (',' :: rest) = ',' :: rest := skipBlanks_cons (by decide)
  rw [readFields, hquote]
  simp [quoted, readQuoted_quoted, hcolon, h, hskip, hmore]

end Items

/-- The text begins with a character that is neither a blank nor the end of an array. -/
def Begins (cs : List Char) : Prop :=
  ∃ c cs', cs = c :: cs' ∧ isBlank c = false ∧ c ≠ ']'

theorem begins_cons {c : Char} {cs : List Char} (hb : isBlank c = false) (hc : c ≠ ']') :
    Begins (c :: cs) :=
  ⟨c, cs, rfl, hb, hc⟩

/-- More characters behind do not change how a value begins. -/
theorem Begins.append {cs : List Char} (h : Begins cs) (rest : List Char) :
    Begins (cs ++ rest) := by
  obtain ⟨c, cs', rfl, hb, hc⟩ := h
  exact begins_cons hb hc

theorem isBlank_of_isDigit {c : Char} (h : isDigit c = true) : isBlank c = false := by
  simp only [isBlank, Bool.or_eq_false_iff, decide_eq_false_iff_not]
  refine ⟨⟨⟨?_, ?_⟩, ?_⟩, ?_⟩ <;> exact Decimal.ne_of_isDigit h (by decide)

/-- An integer begins with a digit or its sign. -/
theorem signed_first (n : Int) :
    ∃ c cs, Decimal.signed n = c :: cs ∧ (isDigit c = true ∨ c = '-') := by
  unfold Decimal.signed
  split
  · exact ⟨_, _, rfl, .inr rfl⟩
  · rcases hds : digits n.natAbs with _ | ⟨d, ds⟩
    · exact absurd hds (Decimal.digits_ne_nil _)
    · exact ⟨d, ds, rfl, .inl (Decimal.isDigit_of_mem_digits (hds ▸ List.mem_cons_self))⟩

/-- A number begins a value. -/
theorem begins_signed (n : Int) : Begins (Decimal.signed n) := by
  obtain ⟨c, cs, hcs, hc | rfl⟩ := signed_first n
  · exact hcs ▸ begins_cons (isBlank_of_isDigit hc) (Decimal.ne_of_isDigit hc (by decide))
  · exact hcs ▸ begins_cons (by decide) (by decide)

/-- What is printed of a value begins one. -/
theorem begins_chars {j : Json} (h : j.Whole) : Begins j.chars := by
  cases j with
  | null => exact begins_cons (by decide) (by decide)
  | boolean b => cases b <;> exact begins_cons (by decide) (by decide)
  | number n =>
    cases n with
    | integer n hn => exact begins_signed n
    | real _ _ => exact h.elim
  | string s => exact begins_cons (by decide) (by decide)
  | array items => exact begins_cons (by decide) (by decide)
  | object fields => exact begins_cons (by decide) (by decide)

/-- What is printed of items begins a value. -/
theorem begins_charsItems {item : Json} {items : List Json} (h : item.Whole) :
    Begins (charsItems (item :: items)) := by
  cases items with
  | nil => exact begins_chars h
  | cons next items => exact (begins_chars h).append _

/-- There are as many rounds as items, as each takes a character. -/
theorem length_charsItems {items : List Json} (h : WholeItems items) :
    items.length ≤ (charsItems items).length := by
  induction items with
  | nil => exact Nat.zero_le _
  | cons item items ih =>
    have hitem : 0 < item.chars.length := by
      obtain ⟨c, cs, hcs, -⟩ := begins_chars h.1
      simp [hcs]
    cases items with
    | nil => exact hitem
    | cons next items =>
      have := ih h.2
      simp only [charsItems, List.length_append, List.length_cons] at this ⊢
      omega

/-- There are as many rounds as fields, as each takes a character. -/
theorem length_charsFields (fields : List (String × Json)) :
    fields.length ≤ (charsFields fields).length := by
  induction fields with
  | nil => exact Nat.zero_le _
  | cons field fields ih =>
    obtain ⟨key, value⟩ := field
    cases fields with
    | nil => simp [charsFields, quoted]
    | cons next fields =>
      simp only [charsFields, quoted, List.length_append, List.length_cons] at ih ⊢
      omega

/-! ## Values -/

/-- Neither a word nor a quote nor a bracket begins like a number. -/
theorem readValue_number {d : Nat} {c : Char} {cs rest : List Char} {j : Json}
    (hc : isDigit c = true ∨ c = '-') (h : readNumber (c :: cs) = some (j, rest)) :
    readValue (d + 1) (c :: cs) = some (j, rest) := by
  have hother : ∀ e, isDigit e = false → e ≠ '-' → c ≠ e := by
    intro e he hminus
    rcases hc with hc | rfl
    · exact Decimal.ne_of_isDigit hc he
    · exact hminus.symm
  have hblank : isBlank c = false := by
    rcases hc with hc | rfl
    · exact isBlank_of_isDigit hc
    · decide
  rw [readValue, skipBlanks_cons hblank]
  simp only
  rw [if_neg (hother 'n' (by decide) (by decide)), if_neg (hother 't' (by decide) (by decide)),
    if_neg (hother 'f' (by decide) (by decide)), if_neg (hother '"' (by decide) (by decide)),
    if_neg (hother '[' (by decide) (by decide)),
    if_neg (hother (Char.ofNat 123) (by decide) (by decide)), h]

/-- An array is read if its items are. -/
theorem readValue_array {d : Nat} {cs rest : List Char} {items : List Json} (hc : Begins cs)
    (h : readItems (readValue (d + 1)) cs.length cs = some (items, rest)) :
    readValue (d + 2) ('[' :: cs) = some (.array items, rest) := by
  obtain ⟨c, cs, rfl, hblank, hne⟩ := hc
  have hopen : skipBlanks ('[' :: c :: cs) = '[' :: c :: cs := skipBlanks_cons (by decide)
  rw [readValue, hopen]
  simp only [Char.reduceEq, if_false, if_true, Nat.add_one_ne_zero, skipBlanks_cons hblank]
  split
  · next heq => exact absurd (List.cons.inj heq).1 hne
  · rw [h]
    rfl

/-- An object is read if its fields are. -/
theorem readValue_object {d : Nat} {cs rest : List Char} {fields : List (String × Json)}
    (hc : cs.head? = some '"')
    (h : readFields (readValue (d + 1)) cs.length cs = some (fields, rest)) :
    readValue (d + 2) (Char.ofNat 123 :: cs) = some (.object fields, rest) := by
  obtain ⟨cs, rfl⟩ := List.head?_eq_some_iff.mp hc
  have hopen : skipBlanks (Char.ofNat 123 :: '"' :: cs) = Char.ofNat 123 :: '"' :: cs :=
    skipBlanks_cons (by decide)
  have hquote : skipBlanks ('"' :: cs) = '"' :: cs := skipBlanks_cons (by decide)
  rw [List.length_cons] at h
  rw [readValue, hopen]
  simp [hquote, h]

theorem head?_charsFields (field : String × Json) (fields : List (String × Json))
    (rest : List Char) : (charsFields (field :: fields) ++ rest).head? = some '"' := by
  cases fields <;> rfl

mutual

/-- What was written is read back, and the text behind it is left. -/
theorem readValue_chars : (j : Json) → j.Whole → (d : Nat) → j.depth < d → (rest : List Char) →
    Follows rest → readValue d (j.chars ++ rest) = some (j, rest)
  | .null, _, _ + 1, _, _, _ => rfl
  | .boolean true, _, _ + 1, _, _, _ => rfl
  | .boolean false, _, _ + 1, _, _, _ => rfl
  | .number (.integer n hn), _, d + 1, _, rest, hr => by
    have hread := readNumber_signed hn hr
    obtain ⟨c, cs, hcs, hc⟩ := signed_first n
    rw [hcs] at hread
    rw [chars, Number.text, hcs]
    exact readValue_number hc hread
  | .string s, _, d + 1, _, rest, _ => by
    have hopen : ∀ cs, skipBlanks ('"' :: cs) = '"' :: cs := fun cs => skipBlanks_cons (by decide)
    simp [chars, quoted, readValue, hopen, readQuoted_quoted]
  | .array items, hw, d + 2, hd, rest, _ => by
    have hrounds : items.length ≤ (charsItems items ++ ']' :: rest).length := by
      rw [List.length_append]
      exact Nat.le_add_right_of_le (length_charsItems hw)
    have hread := fun hne =>
      readItems_chars items hne hw (d + 1) (Nat.succ_lt_succ_iff.mp hd) _ hrounds rest
    -- Nothing between the brackets is read at once, without the reader of items.
    rcases items with _ | ⟨item, items⟩
    · rfl
    · rw [chars, List.cons_append, List.cons_append, List.append_assoc]
      exact readValue_array ((begins_charsItems hw.1).append _) (hread (List.cons_ne_nil _ _))
  | .object fields, hw, d + 2, hd, rest, _ => by
    have hrounds : fields.length ≤ (charsFields fields ++ Char.ofNat 125 :: rest).length := by
      rw [List.length_append]
      exact Nat.le_add_right_of_le (length_charsFields fields)
    have hread := fun hne =>
      readFields_chars fields hne hw (d + 1) (Nat.succ_lt_succ_iff.mp hd) _ hrounds rest
    rcases fields with _ | ⟨field, fields⟩
    · rfl
    · rw [chars, List.cons_append, List.cons_append, List.append_assoc]
      exact readValue_object (head?_charsFields _ _ _) (hread (List.cons_ne_nil _ _))

/-- Printed items are read back. -/
theorem readItems_chars : (items : List Json) → items ≠ [] → WholeItems items →
    (d : Nat) → depthItems items < d → (rounds : Nat) → items.length ≤ rounds →
    (rest : List Char) →
    readItems (readValue d) rounds (charsItems items ++ ']' :: rest) = some (items, rest)
  | [item], _, hw, d, hd, rounds + 1, _, rest =>
    readItems_last (readValue_chars item hw.1 d (by simpa [depthItems] using hd) _
      (follows_cons (by simp)))
  | item :: next :: items, _, hw, d, hd, rounds + 1, h, rest => by
    rw [depthItems, Nat.max_lt] at hd
    have hitem := readValue_chars item hw.1 d hd.1
      (',' :: charsItems (next :: items) ++ ']' :: rest) (follows_cons (by simp))
    have hmore := readItems_chars (next :: items) (List.cons_ne_nil _ _) hw.2 d hd.2 rounds
      (Nat.succ_le_succ_iff.mp h) rest
    have hchars : charsItems (item :: next :: items) =
        item.chars ++ ',' :: charsItems (next :: items) := rfl
    rw [hchars, List.append_assoc]
    exact readItems_more hitem hmore

/-- Printed fields are read back. -/
theorem readFields_chars : (fields : List (String × Json)) → fields ≠ [] → WholeFields fields →
    (d : Nat) → depthFields fields < d → (rounds : Nat) → fields.length ≤ rounds →
    (rest : List Char) →
    readFields (readValue d) rounds (charsFields fields ++ Char.ofNat 125 :: rest) =
      some (fields, rest)
  | [(key, value)], _, hw, d, hd, rounds + 1, _, rest => by
    have hvalue := readValue_chars value hw.1 d (by simpa [depthFields] using hd)
      (Char.ofNat 125 :: rest) (follows_cons (by simp))
    rw [charsFields, List.append_assoc]
    exact readFields_last hvalue
  | (key, value) :: next :: fields, _, hw, d, hd, rounds + 1, h, rest => by
    rw [depthFields, Nat.max_lt] at hd
    have hvalue := readValue_chars value hw.1 d hd.1
      (',' :: charsFields (next :: fields) ++ Char.ofNat 125 :: rest) (follows_cons (by simp))
    have hmore := readFields_chars (next :: fields) (List.cons_ne_nil _ _) hw.2 d hd.2 rounds
      (Nat.succ_le_succ_iff.mp h) rest
    have hchars : charsFields ((key, value) :: next :: fields) =
        quoted key ++ ':' :: value.chars ++ ',' :: charsFields (next :: fields) := rfl
    rw [hchars, List.append_assoc, List.append_assoc]
    exact readFields_more hvalue hmore

end

/-- A value without doubles is read back from its text, unless it is nested too deeply. -/
theorem read?_text {j : Json} (hw : j.Whole) (hd : j.depth < maxDepth) :
    read? j.text = some j := by
  have hread := readValue_chars j hw maxDepth hd [] follows_nil
  rw [List.append_nil] at hread
  rw [read?, text, String.toList_ofList, hread]
  rfl

/-! ## Canonical form -/

theorem sortFields_of_sorted {fields : List (String × Json)} (h : SortedKeys fields) :
    sortFields fields = fields :=
  foldl_insertEntry h

mutual

/-- Nothing changes in a value whose keys are sorted. -/
theorem canonical_eq : (j : Json) → j.Canonical → j.canonical = j
  | .null, _ | .boolean _, _ | .number _, _ | .string _, _ => rfl
  | .array items, h => by rw [canonical, canonicalItems_eq items h]
  | .object fields, h => by
    rw [canonical, canonicalFields_eq fields h.2, sortFields_of_sorted h.1]

/-- Canonical items stay as they are. -/
theorem canonicalItems_eq : (items : List Json) → CanonicalItems items →
    canonicalItems items = items
  | [], _ => rfl
  | item :: items, h => by
    rw [canonicalItems, canonical_eq item h.1, canonicalItems_eq items h.2]

/-- Canonical fields stay as they are. -/
theorem canonicalFields_eq : (fields : List (String × Json)) → CanonicalFields fields →
    canonicalFields fields = fields
  | [], _ => rfl
  | (_, value) :: fields, h => by
    rw [canonicalFields, canonical_eq value h.1, canonicalFields_eq fields h.2]

end

end RowMap.Json

namespace RowMap.Document

/-- The tree of a document makes the document again. -/
theorem ofJson_tree (d : Document) : ofJson d.tree = d := by
  obtain ⟨tree, canonical⟩ := d
  simp [ofJson, Json.canonical_eq tree canonical]

/-- A document that can be read is read back from its text. -/
theorem read?_text {d : Document} (hw : d.tree.Whole) (hd : d.tree.depth < Json.maxDepth) :
    read? d.text = some d := by
  rw [read?, text, Json.read?_text hw hd, Option.map_some, ofJson_tree]

end RowMap.Document
