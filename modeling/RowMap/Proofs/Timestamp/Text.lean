import RowMap.Proofs.Decimal.Digits
import RowMap.Timestamp.Text

/-!
# Timestamps in canonical text

The canonical text of every timestamp is read as this timestamp (`read?_text`): any year of the
calendar, any fraction of a second, and leap seconds. So is the text with a `T` between the date and
the time (`read?_joined`). Fields have a fixed width, so each of them is read whatever follows it.
Only the digits of a signed year and of a fraction are counted by what follows.
-/

namespace RowMap.Timestamp

open Decimal (NoDigit isDigit padded value)
open Text (isBlank trim trimLeft)

/-- Without a blank at the start nothing is trimmed there. -/
theorem trimLeft_eq_self {cs : List Char} (h : ∀ c, cs.head? = some c → isBlank c = false) :
    trimLeft cs = cs := by
  cases cs with
  | nil => rfl
  | cons c cs => exact List.dropWhile_cons_of_neg (by simp [h c rfl])

/-- Without blanks at both ends nothing is trimmed. -/
theorem trim_eq_self {cs : List Char} (hhead : ∀ c, cs.head? = some c → isBlank c = false)
    (hlast : ∀ c, cs.getLast? = some c → isBlank c = false) : trim cs = cs := by
  have hreverse : ∀ c, cs.reverse.head? = some c → isBlank c = false := by
    intro c hc
    exact hlast c (by simpa using hc)
  rw [trim, trimLeft_eq_self hhead, trimLeft_eq_self hreverse, List.reverse_reverse]

/-- A text that begins with a digit does not begin with a blank. -/
theorem trimLeft_padded (width n : Nat) (rest : List Char) :
    trimLeft (padded width n ++ rest) = padded width n ++ rest := by
  refine trimLeft_eq_self fun c hc => ?_
  obtain ⟨cs, hcs⟩ := List.head?_eq_some_iff.mp hc
  exact Decimal.isBlank_of_isDigit (Decimal.isDigit_of_padded_append hcs)

/-- A run of digits is read up to the width, or up to its end. -/
theorem readDigits_append {width : Nat} {ds rest : List Char} (hne : ds ≠ [])
    (hd : ∀ c ∈ ds, isDigit c = true) (hlen : ds.length ≤ width)
    (hstop : ds.length = width ∨ NoDigit rest) :
    readDigits width (ds ++ rest) = some (value ds, rest) := by
  have hrest : NoDigit (rest.take (width - ds.length)) := by
    rcases hstop with hstop | hstop
    · rw [hstop, Nat.sub_self, List.take_zero]
      exact Decimal.noDigit_nil
    · cases rest with
      | nil => simpa using hstop
      | cons c rest =>
        intro d hd
        cases hk : width - ds.length with
        | zero => simp [hk] at hd
        | succ k => exact hstop d (by simpa [hk] using hd)
  have htake : (ds ++ rest).take width = ds ++ rest.take (width - ds.length) := by
    rw [List.take_append, List.take_of_length_le hlen]
  rw [readDigits, htake, Decimal.takeWhile_digits hd hrest]
  cases ds with
  | nil => exact absurd rfl hne
  | cons d ds => simp

/-- A padded number is read back at its width. -/
theorem readDigits_padded {width n : Nat} (hw : 0 < width) (h : n < Nat.pow 10 width)
    (rest : List Char) : readDigits width (padded width n ++ rest) = some (n, rest) := by
  have hlen := Decimal.length_padded hw h
  rw [readDigits_append (Decimal.padded_ne_nil width n) Decimal.isDigit_of_mem_padded
    (Nat.le_of_eq hlen) (.inl hlen), Decimal.value_padded]

theorem readField_padded {n : Nat} (h : n < 100) (rest : List Char) :
    readField (padded 2 n ++ rest) = some (n, rest) := by
  rw [readField, trimLeft_padded, readDigits_padded (by decide) h]

/-- The digits of a signed year, which end at the next character that is none. -/
theorem readDigits_signed (n : Nat) {rest : List Char} (hr : NoDigit rest) :
    readDigits (padded 4 n ++ rest).length (padded 4 n ++ rest) = some (n, rest) := by
  rw [readDigits_append (Decimal.padded_ne_nil 4 n) Decimal.isDigit_of_mem_padded (by simp)
    (.inr hr), Decimal.value_padded]

/-- A year is read back, with its sign if it has one. -/
theorem readYear_text (year : Int) {rest : List Char} (hr : NoDigit rest) :
    readYear (Date.yearText year ++ rest) = some (year, rest) := by
  unfold Date.yearText
  split
  · have hlt : year.natAbs < Nat.pow 10 4 := by
      have hpow : Nat.pow 10 4 = 10000 := rfl
      omega
    have hyear : (year.natAbs : Int) = year := by omega
    rw [readYear, trimLeft_padded]
    split
    · exact absurd (Decimal.isDigit_of_padded_append ‹_›) (by decide)
    · exact absurd (Decimal.isDigit_of_padded_append ‹_›) (by decide)
    · simp only [readDigits_padded (by decide) hlt, Option.map_some, hyear]
  · split
    · have hyear : -(year.natAbs : Int) = year := by omega
      have hminus : trimLeft ('-' :: padded 4 year.natAbs ++ rest) =
          '-' :: (padded 4 year.natAbs ++ rest) := rfl
      rw [readYear, hminus]
      simp only [readDigits_signed _ hr, Option.map_some, hyear]
    · have hyear : (year.natAbs : Int) = year := by omega
      have hplus : trimLeft ('+' :: padded 4 year.natAbs ++ rest) =
          '+' :: (padded 4 year.natAbs ++ rest) := rfl
      rw [readYear, hplus]
      simp only [readDigits_signed _ hr, Option.map_some, hyear]

theorem readChar_cons (c : Char) (rest : List Char) : readChar c (c :: rest) = some rest :=
  if_pos rfl

theorem day_le (d : Date) : d.day ≤ 31 := by
  have h := d.valid.day_le
  unfold daysInMonth at h
  split at h
  · split at h <;> omega
  · split at h <;> omega

/-- A date is read back. -/
theorem readDate_text (d : Date) (rest : List Char) :
    readDate (d.text ++ rest) = some (d, rest) := by
  have hmonth : d.month < 100 := by
    have := d.valid.month_le
    omega
  have hday : d.day < 100 := by
    have := day_le d
    omega
  have htext : d.text ++ rest =
      Date.yearText d.year ++ '-' :: (padded 2 d.month ++ '-' :: (padded 2 d.day ++ rest)) := by
    simp [Date.text]
  have hdate : Date.ofFields? d.year d.month d.day = some d := dif_pos d.valid
  rw [readDate, htext, readYear_text d.year (Decimal.noDigit_cons (by decide))]
  simp [readChar_cons, readField_padded hmonth, readField_padded hday, hdate]

/-! ## Times of day -/

/-- A fraction is read back however many digits it takes. -/
theorem readFraction_text (nanosecond : Nat) :
    readFraction (Clock.fractionText nanosecond) = some (nanosecond % 1000000000, []) := by
  have hread : ∀ width n : Nat, 0 < width → width ≤ 9 → n < Nat.pow 10 width →
      readFraction ('.' :: padded width n) = some (n * Nat.pow 10 (9 - width), []) := by
    intro width n hw h9 hn
    have hlen := Decimal.length_padded hw hn
    have hall : ∀ c ∈ padded width n, isDigit c = true := Decimal.isDigit_of_mem_padded
    have hdigits := Decimal.takeWhile_digits hall Decimal.noDigit_nil
    rw [List.append_nil] at hdigits
    rw [readFraction, hdigits]
    split
    · exact absurd ‹_› (Decimal.padded_ne_nil width n)
    · rw [List.take_of_length_le (by omega), Decimal.value_padded, hlen,
        List.drop_of_length_le (by omega)]
  have hlt : nanosecond % 1000000000 < 1000000000 := Nat.mod_lt _ (by decide)
  unfold Clock.fractionText
  generalize nanosecond % 1000000000 = fraction at *
  simp only
  -- The width is the least of three, six and nine digits that loses nothing.
  split
  · subst fraction
    rfl
  · split
    · rw [hread 3 _ (by decide) (by decide) (Nat.div_lt_of_lt_mul hlt)]
      have hback : fraction / 1000000 * Nat.pow 10 (9 - 3) = fraction :=
        Nat.div_mul_cancel (Nat.dvd_of_mod_eq_zero ‹_›)
      rw [hback]
    · split
      · rw [hread 6 _ (by decide) (by decide) (Nat.div_lt_of_lt_mul hlt)]
        have hback : fraction / 1000 * Nat.pow 10 (9 - 6) = fraction :=
          Nat.div_mul_cancel (Nat.dvd_of_mod_eq_zero ‹_›)
        rw [hback]
      · rw [hread 9 _ (by decide) (by decide) hlt]
        have hback : fraction * Nat.pow 10 (9 - 9) = fraction := Nat.mul_one fraction
        rw [hback]

/-- A leap second is displayed as second 60, and second 60 is read as a leap second. -/
theorem ofDisplay?_clock (c : Clock) :
    Clock.ofDisplay? c.hour c.minute (c.second + c.nanosecond / 1000000000)
      (c.nanosecond % 1000000000) = some c := by
  have hs := c.valid.second_lt
  have hn := c.valid.nanosecond_lt
  have hclock : Clock.ofFields? c.hour c.minute c.second c.nanosecond = some c := dif_pos c.valid
  unfold Clock.ofDisplay?
  by_cases hleap : c.nanosecond < 1000000000
  · have hdiv : c.nanosecond / 1000000000 = 0 := Nat.div_eq_of_lt hleap
    rw [hdiv, Nat.mod_eq_of_lt hleap, Nat.add_zero, if_neg (by omega), if_pos hleap, hclock]
  · have hsecond : c.second = 59 := by omega
    have hdiv : c.nanosecond / 1000000000 = 1 := by omega
    have hmod : 1000000000 + c.nanosecond % 1000000000 = c.nanosecond := by omega
    rw [hdiv, hmod, if_pos (by omega), ← hsecond, hclock]

/-- A time of day is read back. -/
theorem readClock_text (c : Clock) : readClock c.text = some (c, []) := by
  have hhour : c.hour < 100 := Nat.lt_trans c.valid.hour_lt (by decide)
  have hminute : c.minute < 100 := Nat.lt_trans c.valid.minute_lt (by decide)
  have hsecond : c.second + c.nanosecond / 1000000000 < 100 := by
    have := c.valid.second_lt
    have := c.valid.nanosecond_lt
    omega
  have htext : c.text = padded 2 c.hour ++ ':' :: (padded 2 c.minute ++ ':' ::
      (padded 2 (c.second + c.nanosecond / 1000000000) ++ Clock.fractionText c.nanosecond)) := by
    simp [Clock.text]
  rw [readClock, htext]
  simp [readChar_cons, readField_padded hhour, readField_padded hminute,
    readField_padded hsecond, readFraction_text, ofDisplay?_clock]

/-! ## Timestamps -/

/-- The form with a blank is read back. -/
theorem readSpaced?_text (t : Timestamp) : readSpaced? (t.textWith ' ') = some t := by
  have hclock : trimLeft (' ' :: t.clock.text) = t.clock.text := by
    have hblank : trimLeft (' ' :: t.clock.text) = trimLeft t.clock.text := rfl
    rw [hblank, Clock.text, List.append_assoc, List.append_assoc, trimLeft_padded]
  rw [readSpaced?, textWith, readDate_text]
  simp [hclock, readClock_text, finished]

/-- A time of day does not begin with the character that joins it to a date, so the notation with
blanks does not take the joined one. -/
theorem readSpaced?_joined (t : Timestamp) : readSpaced? (t.textWith 'T') = none := by
  have hclock : readClock (trimLeft ('T' :: t.clock.text)) = none := rfl
  rw [readSpaced?, textWith, readDate_text]
  simp [hclock, finished]

/-- The form with a letter in the middle is read back. -/
theorem readJoined?_text (t : Timestamp) : readJoined? (t.textWith 'T') = some t := by
  rw [readJoined?, textWith, readDate_text]
  simp [readChar_cons, readClock_text, finished]

theorem isBlank_of_mem_padded {width n : Nat} : ∀ c ∈ padded width n, isBlank c = false :=
  fun c hc => Decimal.isBlank_of_isDigit (Decimal.isDigit_of_mem_padded c hc)

/-- A date has no blanks. -/
theorem isBlank_of_mem_date (d : Date) : ∀ c ∈ d.text, isBlank c = false := by
  have hminus : isBlank '-' = false := by decide
  have hplus : isBlank '+' = false := by decide
  have hyear : ∀ c ∈ Date.yearText d.year, isBlank c = false := by
    unfold Date.yearText
    split
    · exact isBlank_of_mem_padded
    · refine List.forall_mem_cons.mpr ⟨?_, isBlank_of_mem_padded⟩
      split <;> assumption
  simp only [Date.text, List.forall_mem_append, List.forall_mem_cons]
  exact ⟨⟨hyear, hminus, isBlank_of_mem_padded⟩, hminus, isBlank_of_mem_padded⟩

/-- A time of day has no blanks. -/
theorem isBlank_of_mem_clock (c : Clock) : ∀ d ∈ c.text, isBlank d = false := by
  have hcolon : isBlank ':' = false := by decide
  have hpoint : isBlank '.' = false := by decide
  have hfraction : ∀ d ∈ Clock.fractionText c.nanosecond, isBlank d = false := by
    simp only [Clock.fractionText]
    split
    · simp
    · repeat' split
      all_goals exact List.forall_mem_cons.mpr ⟨hpoint, isBlank_of_mem_padded⟩
  simp only [Clock.text, List.forall_mem_append, List.forall_mem_cons]
  exact ⟨⟨⟨isBlank_of_mem_padded, hcolon, isBlank_of_mem_padded⟩, hcolon, isBlank_of_mem_padded⟩,
    hfraction⟩

/-- Whatever is put between date and time, the text neither begins nor ends with a blank. -/
theorem trim_text (separator : Char) (t : Timestamp) :
    trim (t.textWith separator) = t.textWith separator := by
  have hdate : t.date.text ≠ [] := by simp [Date.text]
  have hclock : t.clock.text ≠ [] := by simp [Clock.text]
  refine trim_eq_self (fun c hc => ?_) (fun c hc => ?_)
  · obtain ⟨first, hfirst⟩ := Option.ne_none_iff_exists'.mp (mt List.head?_eq_none_iff.mp hdate)
    rw [textWith, List.head?_append, hfirst, Option.some_or] at hc
    exact isBlank_of_mem_date t.date c (List.mem_of_head? (hfirst.trans hc))
  · obtain ⟨last, hlast⟩ := Option.ne_none_iff_exists'.mp (mt List.getLast?_eq_none_iff.mp hclock)
    rw [textWith, List.getLast?_append, List.getLast?_cons, hlast, Option.getD_some,
      Option.some_or] at hc
    exact isBlank_of_mem_clock t.clock c (List.mem_of_getLast? (hlast.trans hc))

/-- The text of a timestamp is read back. -/
theorem read?_text (t : Timestamp) : read? t.text.toList = some t := by
  rw [text, String.toList_ofList, read?, trim_text, readSpaced?_text]
  rfl

/-- The other form of a timestamp is read back as well. -/
theorem read?_joined (t : Timestamp) : read? (t.textWith 'T') = some t := by
  rw [read?, trim_text, readSpaced?_joined, readJoined?_text]
  rfl

/-- Two timestamps never have the same text. -/
theorem text_injective : Function.Injective text := by
  intro t u h
  have hread := read?_text t
  rw [h, read?_text] at hread
  exact (Option.some.inj hread).symm

/-- The only blank of the canonical text is the one between date and time. -/
theorem map_text_joined (t : Timestamp) :
    t.text.toList.map (fun c => if c = ' ' then 'T' else c) = t.textWith 'T' := by
  have hblank : isBlank ' ' = true := by decide
  have hself : ∀ cs : List Char, (∀ c ∈ cs, isBlank c = false) →
      cs.map (fun c => if c = ' ' then 'T' else c) = cs := by
    intro cs hcs
    refine (List.map_congr_left fun c hc => if_neg ?_).trans (List.map_id' cs)
    rintro rfl
    rw [hcs _ hc] at hblank
    cases hblank
  rw [text, String.toList_ofList, textWith, List.map_append, List.map_cons,
    hself _ (isBlank_of_mem_date t.date), hself _ (isBlank_of_mem_clock t.clock)]
  rfl

end RowMap.Timestamp
