import RowMap.Proofs.Sql.Filling

/-!
# Tokens

A text is read as a list of tokens: parentheses, words, other characters outside of quotations, and
the characters of quotations, which mean nothing but themselves. Blanks between tokens are dropped.
Two texts that do not meet within a word are read one after the other (`tokens_append_of_head`,
`tokens_append_of_last`).

A text is balanced if it is closed and every parenthesis outside of its quotations has its partner.
Balanced texts can be put together anywhere, even within a word (`Balanced.append`).
-/

namespace RowMap.Sql

/-- The tokens that matter for the structure of a condition. -/
inductive Token where
  | opening
  | closing
  | word (letters : List Char)
  | symbol (c : Char)
  | quoted (c : Char)
  deriving DecidableEq

/-- Letters, digits and what else words are made of. -/
def isWordChar (c : Char) : Bool :=
  c.isAlphanum || c = '_' || c = '$' || 128 ≤ c.toNat

/-- Whether a marked character belongs to a word. -/
def isLetter (m : Char × Bool) : Bool :=
  !m.2 && isWordChar m.1

/-- The token of a marked character outside of words; blanks have none. -/
def separate : Char × Bool → List Token
  | (c, true) => [.quoted c]
  | ('(', false) => [.opening]
  | (')', false) => [.closing]
  | (c, false) => if c.isWhitespace then [] else [.symbol c]

/-- The word that has been read so far, if any. -/
def pending : List Char → List Token
  | [] => []
  | letters => [.word letters]

/-- The tokens of marked characters, the given letters having gone before. -/
def tokensFrom (letters : List Char) : List (Char × Bool) → List Token
  | [] => pending letters
  | m :: rest =>
    if isLetter m then tokensFrom (letters ++ [m.1]) rest
    else pending letters ++ separate m ++ tokensFrom [] rest

/-- The tokens of a text that begins outside literals. -/
def tokens (text : String) : List Token :=
  tokensFrom [] (mark none text.toList)

/-- A character that belongs to no word ends the tokens before it. -/
theorem tokensFrom_append (letters : List Char) (ms : List (Char × Bool)) {m : Char × Bool}
    (rest : List (Char × Bool)) (hm : isLetter m = false) :
    tokensFrom letters (ms ++ m :: rest) = tokensFrom letters ms ++ tokensFrom [] (m :: rest) := by
  induction ms generalizing letters with
  | nil => simp [tokensFrom, hm, pending]
  | cons n ms ih =>
    cases hn : isLetter n with
    | true => simp only [List.cons_append, tokensFrom, hn, if_true, ih]
    | false => simp only [List.cons_append, tokensFrom, hn, Bool.false_eq_true, if_false, ih,
        List.append_assoc]

theorem isLetter_eq_false {c : Char} (h : isWordChar c = false) (quoted : Bool) :
    isLetter (c, quoted) = false := by
  simp [isLetter, h]

/-- Two texts are read apart if the second one begins with no character of a word. -/
theorem tokens_append_of_head {a b : String} (ha : Closed a)
    (hb : b.toList.head?.all (!isWordChar ·) = true) : tokens (a ++ b) = tokens a ++ tokens b := by
  unfold tokens
  rw [String.toList_append, mark_append, ha]
  cases hcs : b.toList with
  | nil => simp [mark, tokensFrom, pending]
  | cons c cs =>
    have hc : isWordChar c = false := by simpa [hcs] using hb
    exact tokensFrom_append _ _ _ (isLetter_eq_false hc _)

/-- Two texts are read apart if the first one ends with no character of a word. -/
theorem tokens_append_of_last {a b : String} (ha : Closed a)
    (hb : a.toList.getLast?.all (!isWordChar ·) = true) :
    tokens (a ++ b) = tokens a ++ tokens b := by
  unfold tokens
  rw [String.toList_append, mark_append, ha]
  rcases List.eq_nil_or_concat a.toList with hcs | ⟨cs, c, hcs⟩
  · simp [hcs, mark, tokensFrom, pending]
  · rw [List.concat_eq_append] at hcs
    have hc : isWordChar c = false := by simpa [hcs] using hb
    have hm : isLetter (c, (stateAfter none cs).quotes c) = false := isLetter_eq_false hc _
    rw [hcs, mark_append]
    simp only [mark, List.append_assoc, List.singleton_append]
    rw [tokensFrom_append _ _ _ hm, tokensFrom_append _ _ _ hm]
    simp [tokensFrom, hm, pending]

/-- A text that belongs to no word at either end. -/
def Spacer (text : String) : Prop :=
  Closed text ∧ text.toList.head?.any (!isWordChar ·) = true ∧
    text.toList.getLast?.any (!isWordChar ·) = true

instance (text : String) : Decidable (Spacer text) :=
  inferInstanceAs (Decidable (_ ∧ _ ∧ _))

/-- A spacer lets the texts on both sides be read apart. -/
theorem tokens_append_append {a s b : String} (ha : Closed a) (hs : Spacer s) :
    tokens (a ++ s ++ b) = tokens a ++ tokens s ++ tokens b := by
  obtain ⟨hclosed, hhead, hlast⟩ := hs
  obtain ⟨first, hfirst, hf⟩ := (Option.any_eq_true _ _).mp hhead
  obtain ⟨last, hlast, hl⟩ := (Option.any_eq_true _ _).mp hlast
  have hend : (a ++ s).toList.getLast? = some last := by
    rw [String.toList_append, List.getLast?_append, hlast, Option.some_or]
  rw [tokens_append_of_last (ha.append hclosed) (by rw [hend]; exact hl),
    tokens_append_of_head ha (by rw [hfirst]; exact hf)]

/-- How many parentheses are open after a token, unless it closes one that is not open. -/
def Token.depth? (d : Nat) : Token → Option Nat
  | .opening => some (d + 1)
  | .closing => if d = 0 then none else some (d - 1)
  | _ => some d

/-- The number of open parentheses behind a list of tokens; it never falls below zero. -/
def depth? (d : Nat) : List Token → Option Nat
  | [] => some d
  | t :: ts => (t.depth? d).bind (depth? · ts)

/-- Every parenthesis has its partner. -/
def Paired (ts : List Token) : Prop :=
  depth? 0 ts = some 0

instance (ts : List Token) : Decidable (Paired ts) :=
  inferInstanceAs (Decidable (_ = _))

/-- Depths are counted on through the second list. -/
theorem depth?_append (d : Nat) (ts us : List Token) :
    depth? d (ts ++ us) = (depth? d ts).bind (depth? · us) := by
  induction ts generalizing d with
  | nil => rfl
  | cons t ts ih => simp only [List.cons_append, depth?, ih, Option.bind_assoc]

/-- A token counts alike at every depth. -/
theorem Token.depth?_add {d e : Nat} (k : Nat) {t : Token} (h : t.depth? d = some e) :
    t.depth? (d + k) = some (e + k) := by
  cases t with
  | closing =>
    simp only [Token.depth?] at h ⊢
    split at h
    · cases h
    · have hd : d + k ≠ 0 := by omega
      rw [if_neg hd]
      simp only [Option.some.injEq] at h ⊢
      omega
  | _ =>
    simp only [Token.depth?, Option.some.injEq] at h ⊢
    omega

/-- Parentheses open around the tokens stay open. -/
theorem depth?_add {d e : Nat} (k : Nat) {ts : List Token} (h : depth? d ts = some e) :
    depth? (d + k) ts = some (e + k) := by
  induction ts generalizing d with
  | nil =>
    obtain rfl := Option.some.inj h
    rfl
  | cons t ts ih =>
    obtain ⟨d', ht, hts⟩ := Option.bind_eq_some_iff.mp h
    rw [depth?, Token.depth?_add k ht]
    exact ih hts

/-- Paired tokens in parentheses are paired. -/
theorem Paired.parenthesized {ts : List Token} (h : Paired ts) :
    Paired (.opening :: (ts ++ [.closing])) := by
  have hin : depth? 1 ts = some 1 := by simpa using depth?_add 1 h
  unfold Paired
  rw [depth?, Token.depth?, Option.bind_some, depth?_append, hin]
  rfl

/-- Tokens other than parentheses. -/
def Token.isFlat : Token → Bool
  | .opening | .closing => false
  | _ => true

/-- Tokens that are no parentheses keep the depth. -/
theorem depth?_of_flat (d : Nat) {ts : List Token} (h : ∀ t ∈ ts, t.isFlat = true) :
    depth? d ts = some d := by
  induction ts with
  | nil => rfl
  | cons t ts ih =>
    obtain ⟨ht, hts⟩ := List.forall_mem_cons.mp h
    have hd : t.depth? d = some d := by
      cases t with
      | opening | closing => cases ht
      | _ => rfl
    rw [depth?, hd]
    exact ih hts

/-- The text is closed and its parentheses outside of quotations have their partners. -/
def Balanced (text : String) : Prop :=
  Closed text ∧ Paired (tokens text)

instance (text : String) : Decidable (Balanced text) :=
  inferInstanceAs (Decidable (_ ∧ _))

theorem isFlat_pending {letters : List Char} : ∀ t ∈ pending letters, t.isFlat = true := by
  cases letters <;> simp [pending, Token.isFlat]

/-- Only a parenthesis outside literals is read as one. -/
theorem isFlat_separate {m : Char × Bool} (hopen : m ≠ ('(', false)) (hclose : m ≠ (')', false)) :
    ∀ t ∈ separate m, t.isFlat = true := by
  unfold separate
  split
  · simp [Token.isFlat]
  · exact absurd rfl hopen
  · exact absurd rfl hclose
  · split <;> simp [Token.isFlat]

/-- Words hold no parentheses, so it does not matter where they begin and end. -/
theorem depth?_tokensFrom (d : Nat) (letters : List Char) (ms : List (Char × Bool)) :
    depth? d (tokensFrom letters ms) = depth? d (ms.flatMap separate) := by
  induction ms generalizing d letters with
  | nil => exact depth?_of_flat d isFlat_pending
  | cons m ms ih =>
    rw [tokensFrom, List.flatMap_cons, depth?_append]
    cases hm : isLetter m with
    | true =>
      have hopen : m ≠ ('(', false) := by
        rintro rfl
        exact absurd hm (by decide)
      have hclose : m ≠ (')', false) := by
        rintro rfl
        exact absurd hm (by decide)
      rw [if_pos rfl, ih, depth?_of_flat d (isFlat_separate hopen hclose), Option.bind_some]
    | false =>
      simp only [Bool.false_eq_true, if_false, List.append_assoc, depth?_append,
        depth?_of_flat d isFlat_pending, Option.bind_some, ih]

/-- Balanced texts, one behind the other, are balanced. -/
theorem Balanced.append {a b : String} (ha : Balanced a) (hb : Balanced b) :
    Balanced (a ++ b) := by
  refine ⟨ha.1.append hb.1, ?_⟩
  have hpa := ha.2
  have hpb := hb.2
  unfold Paired tokens at *
  rw [depth?_tokensFrom] at hpa hpb ⊢
  rw [String.toList_append, mark_append, ha.1, List.flatMap_append, depth?_append, hpa]
  exact hpb

/-- Without parentheses outside literals no token is a parenthesis. -/
theorem isFlat_of_mem_tokensFrom {letters : List Char} {ms : List (Char × Bool)}
    (h : ∀ m ∈ ms, m ≠ ('(', false) ∧ m ≠ (')', false)) :
    ∀ t ∈ tokensFrom letters ms, t.isFlat = true := by
  induction ms generalizing letters with
  | nil => exact isFlat_pending
  | cons m ms ih =>
    obtain ⟨⟨hopen, hclose⟩, hms⟩ := List.forall_mem_cons.mp h
    rw [tokensFrom]
    split
    · exact ih hms
    · rw [List.forall_mem_append, List.forall_mem_append]
      exact ⟨⟨isFlat_pending, isFlat_separate hopen hclose⟩, ih hms⟩

/-- A bare text has no parenthesis among its tokens. -/
theorem Bare.isFlat {text : String} (h : Bare text) : ∀ t ∈ tokens text, t.isFlat = true := by
  rw [tokens, (mark_unquoted fun c hc => isQuote_of_isBare (h c hc)).1]
  refine isFlat_of_mem_tokensFrom fun m hm => ?_
  obtain ⟨c, hc, rfl⟩ := List.mem_map.mp hm
  have hbare := h c hc
  constructor
  · rintro hopen
    obtain rfl := (Prod.mk.inj hopen).1
    exact absurd hbare (by decide)
  · rintro hclose
    obtain rfl := (Prod.mk.inj hclose).1
    exact absurd hbare (by decide)

theorem Bare.balanced {text : String} (h : Bare text) : Balanced text :=
  ⟨h.closed, depth?_of_flat 0 h.isFlat⟩

/-- Parentheses around a closed text are tokens of their own. -/
theorem tokens_parenthesized {text : String} (h : Closed text) :
    tokens ("(" ++ text ++ ")") = .opening :: (tokens text ++ [.closing]) := by
  have hopen : Closed "(" := by decide
  rw [tokens_append_of_head (hopen.append h) (by decide), tokens_append_of_last hopen (by decide)]
  rfl

/-- A balanced text in parentheses is balanced. -/
theorem Balanced.parenthesized {text : String} (h : Balanced text) :
    Balanced ("(" ++ text ++ ")") := by
  have hopen : Closed "(" := by decide
  refine ⟨(hopen.append h.1).append (by decide), ?_⟩
  rw [tokens_parenthesized h.1]
  exact h.2.parenthesized

end RowMap.Sql
