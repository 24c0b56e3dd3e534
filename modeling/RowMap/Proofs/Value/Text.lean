import RowMap.Proofs.Timestamp.Text
import RowMap.Proofs.Value.Integer

/-!
# Values carried by text

An integer, a truth value or a timestamp that is coerced to text comes back when the text is coerced
to the kind of the value, and blanks around the text make no difference (`text_carries`). Of a
timestamp there is one text, whether it is displayed, coerced or kept in a cell, and no other
timestamp has it.

All readers but those for text and JSON trim first, so what they make of a text they make of it
between blanks, too (`coerce_surrounded`). It remains that each text is read as its value.
-/

namespace RowMap

namespace Text

/-- Nothing but blanks, or nothing at all. -/
def Blank (s : String) : Prop :=
  ∀ c ∈ s.toList, isBlank c = true

instance (s : String) : Decidable (Blank s) :=
  List.decidableBAll (fun c => isBlank c = true) s.toList

/-- Blanks on both sides do not matter for what is trimmed. -/
theorem trim_surrounded {before after : List Char} (hb : ∀ c ∈ before, isBlank c = true)
    (ha : ∀ c ∈ after, isBlank c = true) (cs : List Char) :
    trim (before ++ cs ++ after) = trim cs := by
  have hleft : trimLeft (before ++ (cs ++ after)) = trimLeft (cs ++ after) :=
    List.dropWhile_append_of_pos hb
  have hafter : trimLeft after = [] := by
    rw [← List.append_nil after]
    exact List.dropWhile_append_of_pos ha
  have hright : trimLeft (after.reverse ++ (trimLeft cs).reverse) =
      trimLeft (trimLeft cs).reverse :=
    List.dropWhile_append_of_pos fun c hc => ha c (List.mem_reverse.mp hc)
  have happend : trimLeft (cs ++ after) =
      if (trimLeft cs).isEmpty then trimLeft after else trimLeft cs ++ after :=
    List.dropWhile_append
  rw [trim, List.append_assoc, hleft, happend, trim]
  -- If there are blanks only, those behind are dropped from the left already.
  split
  · next hempty => rw [hafter, List.isEmpty_iff.mp hempty]
  · rw [List.reverse_append, hright]

theorem trim_of_forall {cs : List Char} (h : ∀ c ∈ cs, isBlank c = false) : trim cs = cs :=
  Timestamp.trim_eq_self (fun c hc => h c (List.mem_of_head? hc))
    fun c hc => h c (List.mem_of_getLast? hc)

end Text

namespace Value

open Text (Blank)

/-- The text is read as the value of a kind, blanks around it making no difference. -/
def ReadAs (k : Kind) (s : String) (v : Value) : Prop :=
  ∀ before after, Blank before → Blank after →
    (Value.text (before ++ s ++ after)).coerce k = .ok v

/-- Blanks on both sides do not matter for what is coerced. -/
theorem coerce_surrounded {k : Kind} (htext : k ≠ .text) (hextended : k ≠ .extended)
    {before after : String} (hb : Blank before) (ha : Blank after) (s : String) :
    (Value.text (before ++ s ++ after)).coerce k = (Value.text s).coerce k := by
  have htrim : Text.trim (before ++ s ++ after).toList = Text.trim s.toList := by
    rw [String.toList_append, String.toList_append, Text.trim_surrounded hb ha]
  cases k with
  | text => exact absurd rfl htext
  | extended => exact absurd rfl hextended
  | integer => simp only [coerce, readInteger?, htrim]
  | real => simp only [coerce, readReal?, htrim]
  | boolean => simp only [coerce, readBoolean?, htrim]
  | timestamp => simp only [coerce, Timestamp.read?, htrim]

/-- What is coerced from a text is coerced between blanks, too. -/
theorem readAs_of_coerce {k : Kind} (htext : k ≠ .text) (hextended : k ≠ .extended) {s : String}
    {v : Value} (h : (Value.text s).coerce k = .ok v) : ReadAs k s v :=
  fun _ _ hb ha => (coerce_surrounded htext hextended hb ha s).trans h

/-! ## Each text is read as its value -/

/-- A whole number has no blanks. -/
theorem isBlank_of_mem_signed {n : Int} : ∀ c ∈ Decimal.signed n, Text.isBlank c = false := by
  have hdigits : ∀ c ∈ Decimal.digits n.natAbs, Text.isBlank c = false :=
    fun c hc => Decimal.isBlank_of_isDigit (Decimal.isDigit_of_mem_digits hc)
  unfold Decimal.signed
  split
  · exact List.forall_mem_cons.mpr ⟨by decide, hdigits⟩
  · exact hdigits

/-- The text of an integer is read back. -/
theorem readInteger?_integerText (i : Int64) : readInteger? (integerText i) = some i := by
  have htrim : Text.trim (integerText i).toList = Decimal.signed i.toInt := by
    rw [integerText, Decimal.signedText, String.toList_ofList,
      Text.trim_of_forall isBlank_of_mem_signed]
  rw [readInteger?, htrim, Decimal.signed?_signed, Option.bind_some, int64?_eq_some_iff.mpr rfl]

theorem readBoolean?_booleanText (b : Bool) : readBoolean? (booleanText b) = some b := by
  cases b <;> decide

/-- The text of an integer is read as the integer. -/
theorem readAs_integerText (i : Int64) : ReadAs .integer (integerText i) (.integer i) := by
  refine readAs_of_coerce (by decide) (by decide) ?_
  simp only [coerce, readInteger?_integerText]
  rfl

/-- The text of a boolean is read as the boolean. -/
theorem readAs_booleanText (b : Bool) : ReadAs .boolean (booleanText b) (.boolean b) := by
  refine readAs_of_coerce (by decide) (by decide) ?_
  simp only [coerce, readBoolean?_booleanText]
  rfl

/-- What is read as a timestamp is coerced to it. -/
theorem readAs_timestamp {t : Timestamp} {s : String} (h : Timestamp.read? s.toList = some t) :
    ReadAs .timestamp s (.timestamp t) := by
  refine readAs_of_coerce (by decide) (by decide) ?_
  simp only [coerce, h]
  rfl

/-- Integers, truth values and timestamps come back from their text, whatever blanks are around it,
and timestamps also with a `T` in the place of the blank. A timestamp is displayed and kept in cells
as the text that it is coerced to, and different timestamps have different texts. -/
theorem text_carries :
    (∀ i : Int64, ∃ s, (integer i).coerce .text = .ok (.text s) ∧
      ReadAs .integer s (.integer i)) ∧
    (∀ b : Bool, ∃ s, (boolean b).coerce .text = .ok (.text s) ∧
      ReadAs .boolean s (.boolean b)) ∧
    (∀ t : Timestamp, ∃ s, (timestamp t).coerce .text = .ok (.text s) ∧
      ReadAs .timestamp s (.timestamp t) ∧
      ReadAs .timestamp (s.map fun c => if c = ' ' then 'T' else c) (.timestamp t) ∧
      (timestamp t).display = s ∧ (timestamp t).toCell = .text s.toUTF8) ∧
    ∀ t u : Timestamp, (timestamp t).coerce .text = (timestamp u).coerce .text → t = u := by
  refine ⟨fun i => ⟨_, rfl, readAs_integerText i⟩, fun b => ⟨_, rfl, readAs_booleanText b⟩,
    fun t => ⟨_, rfl, readAs_timestamp (Timestamp.read?_text t), readAs_timestamp ?_, rfl, rfl⟩,
    fun t u h => ?_⟩
  · rw [String.toList_map, Timestamp.map_text_joined, Timestamp.read?_joined]
  · have htext : t.text = u.text := Value.text.inj (Except.ok.inj h)
    exact Timestamp.text_injective htext

/-- The leap second that ends a day before our era. -/
def ides : Timestamp :=
  ⟨⟨-43, 3, 15, by decide⟩, ⟨23, 59, 59, 1000000500, by decide⟩⟩

theorem text_carries_ides :
    Blank "\t " ∧ Blank "\n" ∧
      (timestamp ides).coerce .text = .ok (.text "-0043-03-15 23:59:60.000000500") ∧
      (Value.text "\t -0043-03-15T23:59:60.000000500\n").coerce .timestamp =
        .ok (.timestamp ides) := by
  have hbefore : Blank "\t " := by decide
  have hafter : Blank "\n" := by decide
  have hides : ides.text = "-0043-03-15 23:59:60.000000500" := by decide +kernel
  have hreplaced : ides.text.map (fun c => if c = ' ' then 'T' else c) =
      "-0043-03-15T23:59:60.000000500" := by
    rw [hides]
    decide +kernel
  obtain ⟨-, -, htimestamp, -⟩ := text_carries
  obtain ⟨s, hs, -, hjoined, -, -⟩ := htimestamp ides
  obtain rfl : ides.text = s := Value.text.inj (Except.ok.inj hs)
  have hread := hjoined "\t " "\n" hbefore hafter
  rw [hreplaced] at hread
  rw [hides] at hs
  exact ⟨hbefore, hafter, hs, hread⟩

end Value

end RowMap
