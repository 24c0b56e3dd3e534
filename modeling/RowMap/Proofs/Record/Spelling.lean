import Mathlib.Data.List.Chain
import Mathlib.Data.Set.Function
import RowMap.Proofs.Record.Words

/-!
# Spellings that survive

Which keys come back when they are brought into the other style and back again. A plain name does if
it consists of words that are told apart by their capitals (`toUnderscore_toCamel_iff`). A key of
letters and digits does if its capitals each begin a word: in underscore style a capital letter
becomes small, and it is told from a small one only by the underscore that it has after a character
that is no capital itself (`toCamel_toUnderscore_iff`). Between these names and these keys the
conversions are inverse to each other (`surviving_spellings`).
-/

namespace RowMap.KeyStyle

/-! ## The two forms -/

/-- Nothing at all, or words with single underscores in between that are told apart in camel
style. -/
def IsSegmented (name : String) : Prop :=
  name = "" ∨ (∀ w ∈ words name, w ≠ []) ∧ IsRecoverable name

/-- All characters are letters from A to Z, small or capital, or digits. -/
def IsAlphanumeric (key : String) : Prop :=
  ∀ c ∈ key.toList, c.isAlphanum = true

/-- The key does not begin with a capital letter, and no two of them are neighbours. -/
def IsCamel (key : String) : Prop :=
  key.toList.head?.all (!Char.isUpper ·) = true ∧
    key.toList.IsChain fun a b => ¬(a.isUpper = true ∧ b.isUpper = true)

instance (name : String) : Decidable (IsSegmented name) :=
  inferInstanceAs (Decidable (_ ∨ _ ∧ _))

instance (key : String) : Decidable (IsAlphanumeric key) :=
  decidable_of_iff (key.toList.all Char.isAlphanum = true) List.all_eq_true

instance (key : String) : Decidable (IsCamel key) :=
  inferInstanceAs (Decidable (_ ∧ _))

/-- A capital letter, and what small letter it becomes. -/
theorem isUpper_small {c : Char} (h : c.isUpper = true) :
    c.toNat < 128 ∧ endsWord c = false ∧ endsWord c.toLower = true ∧ c.toLower.toUpper = c ∧
      c.toLower ≠ c := by
  have hlt : c.toNat < 128 :=
    Nat.lt_of_le_of_lt (UInt32.le_iff_toNat_le.mp (of_decide_eq_true h).2) (by decide)
  refine ⟨hlt, ?_⟩
  revert h
  exact of_ascii hlt (by decide)

/-- A letter or digit is a capital or can stand in a word. -/
theorem isAlphanum_iff {c : Char} :
    c.isAlphanum = true ↔ c.isUpper = true ∨ endsWord c = true := by
  unfold Char.isAlphanum Char.isAlpha endsWord
  simp [or_assoc]

/-- A plain character can stand in a word or is an underscore. -/
theorem isPlainChar_iff {c : Char} : isPlainChar c = true ↔ endsWord c = true ∨ c = '_' := by
  have hiff (hlt : c.toNat < 128) : isPlainChar c = true ↔ endsWord c = true ∨ c = '_' :=
    of_ascii hlt (by decide)
  constructor
  · intro h
    exact (hiff (toNat_lt_of_isPlainChar h)).mp h
  · rintro (h | rfl)
    · exact (hiff (endsWord_capital h).1).mpr (.inl h)
    · decide

/-- A letter or digit in lower case can stand in a word. -/
theorem endsWord_toLower {c : Char} (h : c.isAlphanum = true) : endsWord c.toLower = true := by
  rcases isAlphanum_iff.mp h with hupper | hends
  · exact (isUpper_small hupper).2.2.1
  · rwa [(endsWord_capital hends).2.2.2.1]

/-- A character of a word in upper case is a letter or digit. -/
theorem isAlphanum_toUpper {c : Char} (h : endsWord c = true) : c.toUpper.isAlphanum = true := by
  obtain ⟨-, -, -, -, -, -, hupper, hends⟩ := endsWord_capital h
  rw [isAlphanum_iff, hupper, hends]
  cases c.isLower <;> simp

/-- Among letters and digits only the capitals stand in no word. -/
theorem endsWord_eq_not_isUpper {c : Char} (h : c.isAlphanum = true) : endsWord c = !c.isUpper := by
  rcases isAlphanum_iff.mp h with hupper | hends
  · rw [hupper, (isUpper_small hupper).2.1]
    rfl
  · rw [hends, (endsWord_capital hends).2.2.1]
    rfl

/-- Lower case changes the capitals only. -/
theorem toLower_eq_self_iff {c : Char} (h : c.isAlphanum = true) :
    c.toLower = c ↔ c.isUpper = false := by
  rcases isAlphanum_iff.mp h with hupper | hends
  · simp [hupper, (isUpper_small hupper).2.2.2.2]
  · simp [(endsWord_capital hends).2.2.1, (endsWord_capital hends).2.2.2.1]

/-- Letters and digits are single bytes. -/
theorem toNat_lt_of_isAlphanum {c : Char} (h : c.isAlphanum = true) : c.toNat < 128 := by
  rcases isAlphanum_iff.mp h with hupper | hends
  · exact (isUpper_small hupper).1
  · exact (endsWord_capital hends).1

/-- An alphanumeric key is split into words and put in lower case. -/
theorem toList_toUnderscore {key : String} (h : IsAlphanumeric key) :
    (toUnderscore key).toList = (splitWords key.toList).map Char.toLower := by
  rw [toUnderscore, String.toList_ofList, Text.lower, lowerAfter_of_ascii]
  intro c hc
  rcases mem_splitWords hc with rfl | hc
  · decide
  · exact toNat_lt_of_isAlphanum (h c hc)

/-- An alphanumeric key becomes a plain name. -/
theorem plain_toUnderscore {key : String} (h : IsAlphanumeric key) :
    IsPlain (toUnderscore key) := by
  intro c hc
  rw [toList_toUnderscore h] at hc
  obtain ⟨d, hd, rfl⟩ := List.mem_map.mp hc
  rcases mem_splitWords hd with rfl | hd
  · decide
  · exact isPlainChar_iff.mpr (.inl (endsWord_toLower (h d hd)))

/-- Camel style leaves letters and digits only. -/
theorem isAlphanum_camelFrom {started capital : Bool} {cs : List Char}
    (h : ∀ c ∈ cs, isPlainChar c = true) :
    ∀ c ∈ camelFrom started capital cs, c.isAlphanum = true := by
  induction cs generalizing started capital with
  | nil => simp [camelFrom]
  | cons c cs ih =>
    obtain ⟨hc, hcs⟩ := List.forall_mem_cons.mp h
    rw [camelFrom]
    split
    · exact ih hcs
    · next hne =>
      have hends := (isPlainChar_iff.mp hc).resolve_right hne
      have hfirst : ∀ d ∈ if capital then Text.upperChar c else [c], d.isAlphanum = true := by
        rw [Text.upperChar, if_pos (endsWord_capital hends).1]
        split
        · exact List.forall_mem_singleton.mpr (isAlphanum_toUpper hends)
        · exact List.forall_mem_singleton.mpr (isAlphanum_iff.mpr (.inr hends))
      exact List.forall_mem_append.mpr ⟨hfirst, ih hcs⟩

/-- A plain name becomes an alphanumeric key. -/
theorem alphanumeric_toCamel {name : String} (h : IsPlain name) :
    IsAlphanumeric (toCamel name) := by
  intro c hc
  rw [toCamel, String.toList_ofList] at hc
  exact isAlphanum_camelFrom h c hc

/-! ## Names -/

/-- A leading underscore begins a new word. -/
theorem splitOn_underscore (cs : List Char) :
    ('_' :: cs).splitOn '_' = [] :: cs.splitOn '_' := by
  simp [List.splitOn, List.splitOnP_cons_eq_if_modifyHead]

/-- Any other character belongs to the first word. -/
theorem splitOn_other {c : Char} (hc : c ≠ '_') (cs : List Char) :
    (c :: cs).splitOn '_' = (cs.splitOn '_').modifyHead (c :: ·) := by
  simp [List.splitOn, List.splitOnP_cons_eq_if_modifyHead, hc]

/-- The words of a plain name have small letters and digits only. -/
theorem endsWord_of_plain {cs : List Char} (h : ∀ c ∈ cs, isPlainChar c = true) :
    ∀ w ∈ cs.splitOn '_', ∀ c ∈ w, endsWord c = true := by
  induction cs with
  | nil => simp [List.splitOn_nil]
  | cons c cs ih =>
    obtain ⟨hc, hcs⟩ := List.forall_mem_cons.mp h
    by_cases hne : c = '_'
    · subst hne
      rw [splitOn_underscore]
      exact List.forall_mem_cons.mpr ⟨List.forall_mem_nil _, ih hcs⟩
    · obtain ⟨first, later, hsplit⟩ := List.exists_cons_of_ne_nil (List.splitOn_ne_nil '_' cs)
      have hends := (isPlainChar_iff.mp hc).resolve_right hne
      have hwords := ih hcs
      rw [hsplit] at hwords
      obtain ⟨hfirst, hlater⟩ := List.forall_mem_cons.mp hwords
      rw [splitOn_other hne, hsplit]
      exact List.forall_mem_cons.mpr ⟨List.forall_mem_cons.mpr ⟨hends, hfirst⟩, hlater⟩

/-- No word of a key in underscore style is empty: an underscore only ever comes between two
characters that are none. -/
theorem words_splitWords_ne_nil {cs : List Char} (hne : cs ≠ [])
    (h : ∀ c ∈ cs, c.isAlphanum = true) :
    ∀ w ∈ ((splitWords cs).map Char.toLower).splitOn '_', w ≠ [] := by
  have hother {c : Char} (hc : c.isAlphanum = true) : c.toLower ≠ '_' :=
    (endsWord_capital (endsWord_toLower hc)).2.1
  fun_induction splitWords cs with
  | case1 a b rest _ ih =>
    obtain ⟨ha, hrest⟩ := List.forall_mem_cons.mp h
    have hunderscore : Char.toLower '_' = '_' := by decide
    rw [List.map_cons, List.map_cons, hunderscore, splitOn_other (hother ha), splitOn_underscore]
    exact List.forall_mem_cons.mpr
      ⟨List.cons_ne_nil _ _, ih (List.cons_ne_nil b rest) hrest⟩
  | case2 a b rest _ ih =>
    obtain ⟨ha, hrest⟩ := List.forall_mem_cons.mp h
    have hwords := ih (List.cons_ne_nil b rest) hrest
    obtain ⟨first, later, hsplit⟩ := List.exists_cons_of_ne_nil
      (List.splitOn_ne_nil '_' ((splitWords (b :: rest)).map Char.toLower))
    rw [hsplit] at hwords
    rw [List.map_cons, splitOn_other (hother ha), hsplit]
    exact List.forall_mem_cons.mpr
      ⟨List.cons_ne_nil _ _, (List.forall_mem_cons.mp hwords).2⟩
  | case3 short hshort =>
    obtain _ | ⟨a, _ | ⟨b, rest⟩⟩ := short
    · exact absurd rfl hne
    · rw [List.map_singleton, splitOn_other (hother (h a List.mem_cons_self)), List.splitOn_nil]
      exact List.forall_mem_singleton.mpr (List.cons_ne_nil _ _)
    · exact absurd rfl (hshort a b rest)

/-- A plain name survives if and only if it is segmented. -/
theorem toUnderscore_toCamel_iff {name : String} (h : IsPlain name) :
    toUnderscore (toCamel name) = name ↔ IsSegmented name := by
  by_cases hempty : name = ""
  · subst hempty
    exact iff_of_true rfl (.inl rfl)
  have hletters : ∀ w ∈ words name, ∀ c ∈ w, endsWord c = true := endsWord_of_plain h
  constructor
  · intro hback
    have hkey : IsAlphanumeric (toCamel name) := alphanumeric_toCamel h
    have hcamel : (toCamel name).toList ≠ [] := by
      intro hnil
      rw [toUnderscore, hnil] at hback
      exact hempty hback.symm
    have hwords : ∀ w ∈ words name, w ≠ [] := by
      have hsplit := words_splitWords_ne_nil hcamel hkey
      rwa [← toList_toUnderscore hkey, hback] at hsplit
    refine .inr ⟨hwords, ?_⟩
    by_contra hlost
    have hshorter := length_toUnderscore_toCamel_lt
      (fun w hw => ⟨hwords w hw, hletters w hw⟩) hlost
    rw [hback] at hshorter
    exact Nat.lt_irrefl _ hshorter
  · rintro (hnone | ⟨hwords, hrecoverable⟩)
    · exact absurd hnone hempty
    · exact toUnderscore_toCamel (fun w hw => ⟨hwords w hw, hletters w hw⟩) hrecoverable

/-! ## Keys -/

/-- The character, in lower case if a capital letter stands before it. -/
def flattened (before c : Char) : Char :=
  if before.isUpper then c.toLower else c

/-- Behind the first character, a key of letters and digits that was brought into underscore style
and back has what is left of it by its capital letters. The induction is on the text behind `p`. -/
theorem camelFrom_splitWords {p : Char} {rest : List Char}
    (h : ∀ c ∈ p :: rest, c.isAlphanum = true) :
    ∃ later, (splitWords (p :: rest)).map Char.toLower = p.toLower :: later ∧
      camelFrom true false later = List.zipWith flattened (p :: rest) rest := by
  induction rest generalizing p with
  | nil => exact ⟨[], rfl, rfl⟩
  | cons c rest ih =>
    obtain ⟨hp, hrest⟩ := List.forall_mem_cons.mp h
    have hc := hrest c List.mem_cons_self
    obtain ⟨later, hsplit, hcamel⟩ := ih hrest
    obtain ⟨hlt, hne, -⟩ := endsWord_capital (endsWord_toLower hc)
    rw [splitWords, endsWord_eq_not_isUpper hp]
    -- A capital behind a small letter gets an underscore, and from it is made a capital again.
    by_cases hbegins : (!p.isUpper && c.isUpper) = true
    · obtain ⟨hbefore, hupper⟩ := Bool.and_eq_true_iff.mp hbegins
      have hsmall : p.isUpper = false := by simpa using hbefore
      refine ⟨'_' :: c.toLower :: later, ?_, ?_⟩
      · rw [if_pos hbegins, List.map_cons, List.map_cons, hsplit]
        rfl
      · rw [camelFrom, if_pos rfl, camelFrom, if_neg hne, if_pos rfl, Text.upperChar, if_pos hlt,
          (isUpper_small hupper).2.2.2.1, hcamel, List.zipWith_cons_cons, flattened, hsmall]
        rfl
    · have hflat : flattened p c = c.toLower := by
        unfold flattened
        split
        · rfl
        · next hsmall =>
          have hends := (isAlphanum_iff.mp hc).resolve_left fun hupper =>
            hbegins (by simp [hsmall, hupper])
          exact (endsWord_capital hends).2.2.2.1.symm
      refine ⟨c.toLower :: later, ?_, ?_⟩
      · rw [if_neg hbegins, List.map_cons, hsplit]
      · rw [camelFrom, if_neg hne, if_neg Bool.false_ne_true, hcamel, List.zipWith_cons_cons, hflat]
        rfl

/-- There and back, each character depends on the one in front of it only. -/
theorem toList_toCamel_toUnderscore {key : String} {p : Char} {rest : List Char}
    (hkey : key.toList = p :: rest) (h : IsAlphanumeric key) :
    (toCamel (toUnderscore key)).toList = p.toLower :: List.zipWith flattened (p :: rest) rest := by
  have hall : ∀ c ∈ p :: rest, c.isAlphanum = true := hkey ▸ h
  obtain ⟨later, hsplit, hcamel⟩ := camelFrom_splitWords hall
  have hne := (endsWord_capital (endsWord_toLower (hall p List.mem_cons_self))).2.1
  rw [toCamel, String.toList_ofList, toList_toUnderscore h, hkey, hsplit, camelFrom, if_neg hne,
    hcamel]
  rfl

/-- Nothing is left of a capital letter that follows another one. -/
theorem zipWith_flattened_iff {p : Char} {rest : List Char}
    (h : ∀ c ∈ rest, c.isAlphanum = true) :
    List.zipWith flattened (p :: rest) rest = rest ↔
      (p :: rest).IsChain fun a b => ¬(a.isUpper = true ∧ b.isUpper = true) := by
  induction rest generalizing p with
  | nil => simp
  | cons c rest ih =>
    obtain ⟨hc, hrest⟩ := List.forall_mem_cons.mp h
    have hsame : flattened p c = c ↔ ¬(p.isUpper = true ∧ c.isUpper = true) := by
      unfold flattened
      split
      · next hp => simp [hp, toLower_eq_self_iff hc]
      · next hp => simp [hp]
    rw [List.zipWith_cons_cons, List.cons.injEq, ih hrest, hsame, List.isChain_cons_cons]

/-- An alphanumeric key survives if and only if it is in camel style. -/
theorem toCamel_toUnderscore_iff {key : String} (h : IsAlphanumeric key) :
    toCamel (toUnderscore key) = key ↔ IsCamel key := by
  rw [← String.toList_inj, IsCamel]
  cases hkey : key.toList with
  | nil =>
    obtain rfl := String.toList_eq_nil_iff.mp hkey
    exact iff_of_true rfl ⟨rfl, .nil⟩
  | cons p rest =>
    have hall : ∀ c ∈ p :: rest, c.isAlphanum = true := hkey ▸ h
    obtain ⟨hp, hrest⟩ := List.forall_mem_cons.mp hall
    rw [toList_toCamel_toUnderscore hkey h, List.cons.injEq, zipWith_flattened_iff hrest,
      toLower_eq_self_iff hp]
    simp

/-- A plain name comes back from camel style if and only if it is segmented, and a key of letters
and digits from underscore style if and only if it is in camel style. Between the segmented names
and the camel style keys the conversions are inverse bijections, so that no two segmented names have
one key in common. -/
theorem surviving_spellings :
    (∀ name, IsPlain name → (toUnderscore (toCamel name) = name ↔ IsSegmented name)) ∧
    (∀ key, IsAlphanumeric key → (toCamel (toUnderscore key) = key ↔ IsCamel key)) ∧
    Set.InvOn toUnderscore toCamel {name | IsPlain name ∧ IsSegmented name}
      {key | IsAlphanumeric key ∧ IsCamel key} ∧
    Set.BijOn toCamel {name | IsPlain name ∧ IsSegmented name}
      {key | IsAlphanumeric key ∧ IsCamel key} ∧
    Set.BijOn toUnderscore {key | IsAlphanumeric key ∧ IsCamel key}
      {name | IsPlain name ∧ IsSegmented name} := by
  have hcamel : Set.MapsTo toCamel {name | IsPlain name ∧ IsSegmented name}
      {key | IsAlphanumeric key ∧ IsCamel key} := by
    rintro name ⟨hplain, hsegmented⟩
    have hback := (toUnderscore_toCamel_iff hplain).mpr hsegmented
    have hkey := alphanumeric_toCamel hplain
    exact ⟨hkey, (toCamel_toUnderscore_iff hkey).mp (congrArg toCamel hback)⟩
  have hunderscore : Set.MapsTo toUnderscore {key | IsAlphanumeric key ∧ IsCamel key}
      {name | IsPlain name ∧ IsSegmented name} := by
    rintro key ⟨halphanumeric, hkey⟩
    have hback := (toCamel_toUnderscore_iff halphanumeric).mpr hkey
    have hname := plain_toUnderscore halphanumeric
    exact ⟨hname, (toUnderscore_toCamel_iff hname).mp (congrArg toUnderscore hback)⟩
  have hinverse : Set.InvOn toUnderscore toCamel {name | IsPlain name ∧ IsSegmented name}
      {key | IsAlphanumeric key ∧ IsCamel key} :=
    ⟨fun _ h => (toUnderscore_toCamel_iff h.1).mpr h.2,
      fun _ h => (toCamel_toUnderscore_iff h.1).mpr h.2⟩
  exact ⟨fun _ => toUnderscore_toCamel_iff, fun _ => toCamel_toUnderscore_iff, hinverse,
    hinverse.bijOn hcamel hunderscore, hinverse.symm.bijOn hunderscore hcamel⟩

/-- A digit may stand anywhere but at the beginning of a word, and two capital letters in a row do
not come back. -/
theorem surviving_spellings_digits :
    (IsPlain "sha256_sum" ∧ toUnderscore (toCamel "sha256_sum") = "sha256_sum") ∧
    (IsPlain "line_2" ∧ toUnderscore (toCamel "line_2") ≠ "line_2") ∧
    (IsAlphanumeric "userID" ∧ toCamel (toUnderscore "userID") ≠ "userID") := by
  obtain ⟨hnames, hkeys, -⟩ := surviving_spellings
  exact ⟨⟨by decide, (hnames "sha256_sum" (by decide)).mpr (by decide +kernel)⟩,
    ⟨by decide, fun h => absurd ((hnames "line_2" (by decide)).mp h) (by decide +kernel)⟩,
    ⟨by decide, fun h => absurd ((hkeys "userID" (by decide)).mp h) (by decide +kernel)⟩⟩

end RowMap.KeyStyle
