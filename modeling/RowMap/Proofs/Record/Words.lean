import RowMap.Proofs.Record.KeyStyle

/-!
# Words of names

A canonical name consists of words of small letters and digits with single underscores in between.
In camel style the underscores are gone and every later word is capitalised, which divides the words
only as long as they begin with a letter and do not consist of this letter alone. Reading a camel
key back so gives the name exactly if it is `Recoverable` (`toUnderscore_toCamel`), and otherwise a
shorter one (`length_toUnderscore_toCamel_lt`).
-/

namespace RowMap.KeyStyle

/-! ## Canonical names -/

/-- The words that the underscores of a name divide. -/
def words (name : String) : List (List Char) :=
  name.toList.splitOn '_'

/-- Whether the word begins with a small letter. -/
def beginsWithLetter (word : List Char) : Bool :=
  word.head?.any Char.isLower

/-- A word of small letters and digits. -/
def IsWord (word : List Char) : Prop :=
  word ≠ [] ∧ ∀ c ∈ word, endsWord c = true

/-- Words with single underscores in between, the first one beginning with a letter. -/
def IsCanonical (name : String) : Prop :=
  (∀ w ∈ words name, IsWord w) ∧ beginsWithLetter name.toList = true

/-- Every word but the first begins with a letter, and of these only the last one may consist of the
letter alone. -/
def Recoverable (later : List (List Char)) : Prop :=
  (∀ w ∈ later, beginsWithLetter w = true) ∧ ∀ w ∈ later.dropLast, 1 < w.length

/-- The words behind the first one can be found again. -/
def IsRecoverable (name : String) : Prop :=
  Recoverable (words name).tail

instance (word : List Char) : Decidable (IsWord word) :=
  decidable_of_iff (word ≠ [] ∧ word.all endsWord = true)
    (and_congr_right fun _ => List.all_eq_true)

instance (name : String) : Decidable (IsCanonical name) :=
  inferInstanceAs (Decidable (_ ∧ _))

instance (later : List (List Char)) : Decidable (Recoverable later) :=
  inferInstanceAs (Decidable (_ ∧ _))

instance (name : String) : Decidable (IsRecoverable name) :=
  inferInstanceAs (Decidable (Recoverable _))

/-- Words, each with an underscore before it. -/
def underscored (later : List (List Char)) : List Char :=
  later.flatMap ('_' :: ·)

/-- Words with underscores in between are the first word and the others, each with its own. -/
theorem intercalate_eq_underscored (first : List Char) (later : List (List Char)) :
    ['_'].intercalate (first :: later) = first ++ underscored later := by
  induction later generalizing first with
  | nil => simp [underscored]
  | cons w later ih =>
    rw [List.intercalate_cons_cons, ih]
    simp [underscored]

/-- A name of words has a first word and further ones. -/
theorem exists_words {name : String} (h : ∀ w ∈ words name, IsWord w) :
    ∃ c w later, words name = (c :: w) :: later ∧ name.toList = c :: (w ++ underscored later) ∧
      IsWord (c :: w) ∧ ∀ w ∈ later, IsWord w := by
  have hname : ['_'].intercalate (words name) = name.toList := List.intercalate_splitOn '_'
  obtain ⟨first, later, hw⟩ := List.exists_cons_of_ne_nil (List.splitOn_ne_nil '_' name.toList)
  rw [words, hw, List.forall_mem_cons] at h
  rw [words, hw, intercalate_eq_underscored] at hname
  obtain ⟨c, w, rfl⟩ := List.exists_cons_of_ne_nil h.1.1
  exact ⟨c, w, later, hw, hname.symm, h.1, h.2⟩

/-- A character of a word, and what capitalising does to it. -/
theorem endsWord_capital {c : Char} (h : endsWord c = true) :
    c.toNat < 128 ∧ c ≠ '_' ∧ c.isUpper = false ∧ c.toLower = c ∧ c.toUpper.toNat < 128 ∧
      c.toUpper.toLower = c ∧ c.toUpper.isUpper = c.isLower ∧
      endsWord c.toUpper = !c.isLower := by
  have bound : ∀ {a b : UInt32}, (decide (a ≤ c.val) && decide (c.val ≤ b)) = true →
      c.toNat ≤ b.toNat := by
    intro a b hab
    exact UInt32.le_iff_toNat_le.mp (of_decide_eq_true (Bool.and_eq_true_iff.mp hab).2)
  have hlt : c.toNat < 128 := by
    rcases Bool.or_eq_true_iff.mp h with hlower | hdigit
    · exact Nat.lt_of_le_of_lt (bound hlower) (by decide)
    · exact Nat.lt_of_le_of_lt (bound hdigit) (by decide)
  refine ⟨hlt, ?_⟩
  revert h
  exact of_ascii hlt (by decide)

/-- The word with a capital at its start. -/
def capitalised : List Char → List Char
  | [] => []
  | c :: w => c.toUpper :: w

/-- A word that has begun goes on as it is. -/
theorem camelFrom_word {w : List Char} (hw : ∀ c ∈ w, endsWord c = true) (rest : List Char) :
    camelFrom true false (w ++ rest) = w ++ camelFrom true false rest := by
  induction w with
  | nil => rfl
  | cons c w ih =>
    obtain ⟨hc, hw⟩ := List.forall_mem_cons.mp hw
    have hne := (endsWord_capital hc).2.1
    simp [camelFrom, hne, ih hw]

/-- Each further word is capitalised, and its underscore goes. -/
theorem camelFrom_underscored {later : List (List Char)} (h : ∀ w ∈ later, IsWord w) :
    camelFrom true false (underscored later) = later.flatMap capitalised := by
  induction later with
  | nil => rfl
  | cons word later ih =>
    obtain ⟨⟨hne, hword⟩, hlater⟩ := List.forall_mem_cons.mp h
    obtain ⟨c, w, rfl⟩ := List.exists_cons_of_ne_nil hne
    obtain ⟨hc, hw⟩ := List.forall_mem_cons.mp hword
    obtain ⟨hlt, hne, -⟩ := endsWord_capital hc
    have hrest : camelFrom true false (w ++ underscored later) =
        w ++ later.flatMap capitalised := by
      rw [camelFrom_word hw, ih hlater]
    have hupper : Text.upperChar c = [c.toUpper] := if_pos hlt
    simp only [underscored, List.flatMap_cons, List.cons_append] at hrest ⊢
    simp [camelFrom, hne, hupper, hrest, capitalised]

/-! ## Reading back -/

/-- What becomes of later words: the underscore before a word is lost if the word begins with a
digit, or if the word before it is a single capital letter. -/
def readBack (single : Bool) : List (List Char) → List Char
  | [] => []
  | w :: later =>
    (if beginsWithLetter w && !single then '_' :: w else w) ++
      readBack (beginsWithLetter w && w.tail.isEmpty) later

/-- Capitalised words are single bytes. -/
theorem toNat_lt_of_mem_capitalised {w : List Char} (h : ∀ c ∈ w, endsWord c = true) :
    ∀ c ∈ capitalised w, c.toNat < 128 := by
  cases w with
  | nil => simp [capitalised]
  | cons c w =>
    obtain ⟨hc, hw⟩ := List.forall_mem_cons.mp h
    obtain ⟨-, -, -, -, hupper, -⟩ := endsWord_capital hc
    exact List.forall_mem_cons.mpr ⟨hupper, fun d hd => (endsWord_capital (hw d hd)).1⟩

/-- Splitting adds underscores only. -/
theorem mem_splitWords {c : Char} {cs : List Char} (h : c ∈ splitWords cs) : c = '_' ∨ c ∈ cs := by
  fun_induction splitWords cs with
  | case1 a b rest _ ih => grind
  | case2 a b rest _ ih => grind
  | case3 short _ => exact .inr h

/-- Nothing is split within a word. `f` is what is known to become of the text behind it, depending
on whether a capital letter stands before that text. -/
theorem map_toLower_splitWords_word {tail : List Char} {f : Bool → List Char}
    (htail : ∀ p : Char, endsWord p = !p.isUpper →
      (splitWords (p :: tail)).map Char.toLower = p.toLower :: f p.isUpper)
    {p : Char} (hp : endsWord p = !p.isUpper) {w : List Char} (hw : ∀ c ∈ w, endsWord c = true) :
    (splitWords (p :: (w ++ tail))).map Char.toLower =
      p.toLower :: (w ++ f (p.isUpper && w.isEmpty)) := by
  induction w generalizing p with
  | nil => simpa using htail p hp
  | cons c w ih =>
    obtain ⟨hc, hw⟩ := List.forall_mem_cons.mp hw
    obtain ⟨-, -, hupper, hlower, -⟩ := endsWord_capital hc
    have hrest := ih (p := c) (by rw [hc, hupper]; rfl) hw
    rw [List.cons_append, splitWords, hupper, Bool.and_false, if_neg (by decide), List.map_cons,
      hrest, hlower]
    simp [hupper]

/-- Words are split where a capital letter follows a character that is none. -/
theorem map_toLower_splitWords {later : List (List Char)} (h : ∀ w ∈ later, IsWord w) (p : Char)
    (hp : endsWord p = !p.isUpper) :
    (splitWords (p :: later.flatMap capitalised)).map Char.toLower =
      p.toLower :: readBack p.isUpper later := by
  induction later generalizing p with
  | nil => rfl
  | cons word later ih =>
    obtain ⟨⟨hne, hword⟩, hlater⟩ := List.forall_mem_cons.mp h
    obtain ⟨c, w, rfl⟩ := List.exists_cons_of_ne_nil hne
    obtain ⟨hc, hw⟩ := List.forall_mem_cons.mp hword
    obtain ⟨-, -, -, -, -, hback, hcapital, hends⟩ := endsWord_capital hc
    have hrest := map_toLower_splitWords_word (f := (readBack · later)) (ih hlater)
      (p := c.toUpper) (by rw [hends, hcapital]) hw
    rw [hback, hcapital] at hrest
    rw [List.flatMap_cons, capitalised, List.cons_append, splitWords, hcapital, hp]
    cases p.isUpper <;> cases hl : c.isLower <;>
      simp_all [readBack, beginsWithLetter]

/-- A name of words that was brought into camel style and back. -/
theorem toList_toUnderscore_toCamel {name : String} (h : ∀ w ∈ words name, IsWord w) :
    ∃ first, name.toList = first ++ underscored (words name).tail ∧
      (toUnderscore (toCamel name)).toList = first ++ readBack false (words name).tail := by
  obtain ⟨c, w, later, hwords, hname, ⟨-, hfirst⟩, hlater⟩ := exists_words h
  obtain ⟨hc, hw⟩ := List.forall_mem_cons.mp hfirst
  obtain ⟨hlt, hne, hupper, hlower, -⟩ := endsWord_capital hc
  have hcamel : (toCamel name).toList = c :: (w ++ later.flatMap capitalised) := by
    rw [toCamel, String.toList_ofList, hname, camelFrom, if_neg hne, camelFrom_word hw,
      camelFrom_underscored hlater]
    rfl
  have hsplit := map_toLower_splitWords_word (f := (readBack · later))
    (map_toLower_splitWords hlater) (p := c) (by rw [hc, hupper]; rfl) hw
  refine ⟨c :: w, by rw [hname, hwords]; rfl, ?_⟩
  rw [toUnderscore, String.toList_ofList, hcamel, Text.lower, lowerAfter_of_ascii, hsplit, hwords]
  · simp [hupper, hlower]
  · intro d hd
    rcases mem_splitWords hd with rfl | hd
    · decide
    · simp only [List.mem_cons, List.mem_append, List.mem_flatMap] at hd
      rcases hd with rfl | hd | ⟨v, hv, hd⟩
      · exact hlt
      · exact (endsWord_capital (hw d hd)).1
      · exact toNat_lt_of_mem_capitalised (hlater v hv).2 d hd

/-- The first of the further words begins with a letter; a single letter is the last word. -/
theorem recoverable_cons {w : List Char} {later : List (List Char)} :
    Recoverable (w :: later) ↔
      beginsWithLetter w = true ∧ (w.tail.isEmpty = true → later = []) ∧ Recoverable later := by
  have htail : w.tail.isEmpty = true ↔ ¬ 1 < w.length := by
    simp [← List.length_eq_zero_iff]
    omega
  cases later with
  | nil => simp [Recoverable]
  | cons v later =>
    simp only [Recoverable, List.forall_mem_cons, List.dropLast_cons_cons, htail]
    grind

/-- Recoverable words are read back. -/
theorem readBack_of_recoverable {single : Bool} {later : List (List Char)}
    (hs : single = true → later = []) (h : Recoverable later) :
    readBack single later = underscored later := by
  induction later generalizing single with
  | nil => rfl
  | cons w later ih =>
    obtain ⟨hw, hlong, hlater⟩ := recoverable_cons.mp h
    obtain rfl : single = false := by simpa using hs
    have hrest : readBack (true && w.tail.isEmpty) later = underscored later :=
      ih hlong hlater
    rw [readBack, hw, hrest]
    rfl

/-- What is read back is never longer than the words were. -/
theorem length_readBack_le (single : Bool) (later : List (List Char)) :
    (readBack single later).length ≤ (underscored later).length := by
  induction later generalizing single with
  | nil => exact Nat.le_refl 0
  | cons w later ih =>
    have hrest := ih (beginsWithLetter w && w.tail.isEmpty)
    rw [readBack, underscored, List.flatMap_cons, List.length_append, List.length_append]
    refine Nat.add_le_add ?_ hrest
    split <;> simp

/-- Only recoverable words keep all their underscores. -/
theorem recoverable_of_length_le {single : Bool} {later : List (List Char)}
    (h : (underscored later).length ≤ (readBack single later).length) :
    (single = true → later = []) ∧ Recoverable later := by
  induction later generalizing single with
  | nil => exact ⟨fun _ => rfl, by decide⟩
  | cons w later ih =>
    have hrest := length_readBack_le (beginsWithLetter w && w.tail.isEmpty) later
    rw [readBack, underscored, List.flatMap_cons, List.length_append, List.length_append,
      List.length_cons, ← underscored] at h
    split at h
    · next hw =>
      obtain ⟨hletter, hsingle⟩ : beginsWithLetter w = true ∧ single = false := by simpa using hw
      rw [List.length_cons] at h
      obtain ⟨hlong, hlater⟩ := ih (Nat.le_of_add_le_add_left h)
      rw [hletter, Bool.true_and] at hlong
      exact ⟨by simp [hsingle], recoverable_cons.mpr ⟨hletter, hlong, hlater⟩⟩
    · omega

/-- A recoverable name survives camel style and back. -/
theorem toUnderscore_toCamel {name : String} (hw : ∀ w ∈ words name, IsWord w)
    (hr : IsRecoverable name) : toUnderscore (toCamel name) = name := by
  obtain ⟨first, hname, hback⟩ := toList_toUnderscore_toCamel hw
  rw [readBack_of_recoverable (by simp) hr, ← hname] at hback
  exact String.toList_injective hback

/-- What is read back of a name that is not recoverable has lost some of its underscores. -/
theorem length_toUnderscore_toCamel_lt {name : String} (hw : ∀ w ∈ words name, IsWord w)
    (hr : ¬ IsRecoverable name) : (toUnderscore (toCamel name)).length < name.length := by
  obtain ⟨first, hname, hback⟩ := toList_toUnderscore_toCamel hw
  rw [← String.length_toList, ← String.length_toList, hname, hback, List.length_append,
    List.length_append, Nat.add_lt_add_iff_left]
  exact Nat.lt_of_not_le fun hle => hr (recoverable_of_length_le hle).2

end RowMap.KeyStyle
