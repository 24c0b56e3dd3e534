import RowMap.Proofs.Binary64.Nearest

/-!
# The order of doubles

Doubles are compared by their places, and so as the numbers that they are (`le_iff`), with an
infinity at each end of them (`le_iff_extended`). Rounding does not go past a double: a number that
is not below a double is not rounded to one below it (`Nearest.le_of_le`, `Nearest.ge_of_ge`). A
bound is therefore met by the nearest double of a number exactly if the number meets it, or is
rounded to the bound itself (`Nearest.lower_iff`, `Nearest.upper_iff`).
-/

namespace RowMap.Binary64

/-- A finite double is at a place of the row that is not an end. -/
theorem toRat?_eq_some_iff {r : Binary64} {q : ℚ} : r.toRat? = some q ↔
    ∃ negative rank, r = .signed negative rank ∧ rank < infiniteRank ∧
      amount (place negative rank) = q := by
  cases r with
  | nan => simp [toRat?]
  | signed negative rank => simp [toRat?]

/-- No double is farther from zero than the infinities. -/
theorem natAbs_place_le (negative : Bool) (rank : Fin (infiniteRank + 1)) :
    (place negative rank).natAbs ≤ infiniteRank := by
  rw [natAbs_place]
  exact Nat.le_of_lt_succ rank.isLt

/-- Finite doubles are compared by their amounts. -/
theorem le_iff {a b : Binary64} {x y : ℚ} (ha : a.toRat? = some x) (hb : b.toRat? = some y) :
    a.le b = true ↔ x ≤ y := by
  obtain ⟨n, i, rfl, -, rfl⟩ := toRat?_eq_some_iff.mp ha
  obtain ⟨m, j, rfl, -, rfl⟩ := toRat?_eq_some_iff.mp hb
  rw [le, decide_eq_true_eq, amount_strictMono.le_iff_le]

/-- Finite doubles are compared strictly by their amounts. -/
theorem lt_iff {a b : Binary64} {x y : ℚ} (ha : a.toRat? = some x) (hb : b.toRat? = some y) :
    a.lt b = true ↔ x < y := by
  obtain ⟨n, i, rfl, -, rfl⟩ := toRat?_eq_some_iff.mp ha
  obtain ⟨m, j, rfl, -, rfl⟩ := toRat?_eq_some_iff.mp hb
  rw [lt, decide_eq_true_eq, amount_strictMono.lt_iff_lt]

/-! ## Numbers and infinities -/

/-- The numbers with an infinity at each end. -/
abbrev Extended : Type := WithBot (WithTop ℚ)

/-- A number among them. -/
def Extended.number (q : ℚ) : Extended :=
  ((q : WithTop ℚ) : WithBot (WithTop ℚ))

open Extended (number)

theorem number_le_number_iff {x y : ℚ} : number x ≤ number y ↔ x ≤ y :=
  WithBot.coe_le_coe.trans WithTop.coe_le_coe

theorem number_inj {x y : ℚ} : number x = number y ↔ x = y :=
  WithBot.coe_inj.trans WithTop.coe_inj

theorem not_top_le_number (x : ℚ) : ¬⊤ ≤ number x :=
  fun h => WithTop.coe_ne_top (WithBot.coe_inj.mp (top_le_iff.mp h))

theorem not_number_le_bot (x : ℚ) : ¬number x ≤ ⊥ :=
  fun h => WithBot.coe_ne_bot (le_bot_iff.mp h)

/-- The value at a place, the two ends of the row being the infinities. -/
def extendedAmount (p : Int) : Extended :=
  if infiniteRank ≤ p then ⊤ else if p ≤ -infiniteRank then ⊥ else number (amount p)

/-- Places are ordered like their amounts, infinities included. -/
theorem extendedAmount_le_iff {p p' : Int} (h : p.natAbs ≤ infiniteRank)
    (h' : p'.natAbs ≤ infiniteRank) : extendedAmount p ≤ extendedAmount p' ↔ p ≤ p' := by
  unfold extendedAmount
  by_cases htop' : (infiniteRank : Int) ≤ p'
  · rw [if_pos htop']
    exact iff_of_true le_top (by omega)
  by_cases hbot : p ≤ -infiniteRank
  · rw [if_neg (by omega), if_pos hbot]
    exact iff_of_true bot_le (by omega)
  rw [if_neg htop', if_neg hbot]
  by_cases htop : (infiniteRank : Int) ≤ p
  · rw [if_pos htop]
    refine iff_of_false (fun hle => not_top_le_number (amount p') (hle.trans ?_)) (by omega)
    split
    · exact bot_le
    · exact le_rfl
  rw [if_neg htop]
  by_cases hbot' : p' ≤ -infiniteRank
  · rw [if_pos hbot']
    exact iff_of_false (not_number_le_bot _) (by omega)
  · rw [if_neg hbot', number_le_number_iff, amount_strictMono.le_iff_le]

/-- What a double stands for: a number or one of the infinities, if it is not NaN. -/
def extended? : Binary64 → Option Extended
  | .nan => none
  | .signed negative rank => some (extendedAmount (place negative rank))

/-- A finite double is its amount. -/
theorem extended?_of_toRat? {r : Binary64} {q : ℚ} (h : r.toRat? = some q) :
    r.extended? = some (number q) := by
  obtain ⟨negative, rank, rfl, hrank, rfl⟩ := toRat?_eq_some_iff.mp h
  have hplace := natAbs_place negative rank
  rw [extended?, extendedAmount, if_neg (by omega), if_neg (by omega)]

/-- A double that stands for anything is an infinity, or the number that it stands for. -/
theorem extended?_cases {r : Binary64} {x : Extended} (h : r.extended? = some x) :
    x = ⊥ ∨ x = ⊤ ∨ ∃ q, x = number q ∧ r.toRat? = some q := by
  cases r with
  | nan => cases h
  | signed negative rank =>
    obtain rfl := Option.some.inj h
    have hplace := natAbs_place negative rank
    unfold extendedAmount
    split
    · exact .inr (.inl rfl)
    split
    · exact .inl rfl
    · exact .inr (.inr ⟨_, rfl, if_pos (by omega)⟩)

/-- The comparison is that of the numbers and infinities. -/
theorem le_iff_extended {a b : Binary64} :
    a.le b = true ↔ ∃ x y, a.extended? = some x ∧ b.extended? = some y ∧ x ≤ y := by
  cases a with
  | nan => simp [le, extended?]
  | signed n i =>
    cases b with
    | nan => simp [le, extended?]
    | signed m j =>
      simp [le, extended?, extendedAmount_le_iff (natAbs_place_le n i) (natAbs_place_le m j)]

/-- What lies between two numbers is a number. -/
theorem exists_toRat?_of_between {r : Binary64} {x z : ℚ} {y : Extended}
    (hr : r.extended? = some y) (h : number x ≤ y ∧ y ≤ number z) :
    ∃ q, y = number q ∧ r.toRat? = some q := by
  rcases extended?_cases hr with rfl | rfl | hnumber
  · exact absurd h.1 (not_number_le_bot x)
  · exact absurd h.2 (not_top_le_number z)
  · exact hnumber

/-! ## Rounding between doubles -/

section Between

variable {p p' : Int} {q : ℚ} (hp' : p'.natAbs ≤ infiniteRank) (h : NearestPlace p q)

include hp' h

/-- A number from a double upwards is not rounded below it. -/
theorem NearestPlace.le_of_amount_le (hq : amount p' ≤ q) : p' ≤ p := by
  by_contra hlt
  have hless := amount_strictMono (lt_of_not_ge hlt)
  rcases h p' hp' (by omega) with hnear | ⟨hequal, -⟩
  · rw [smaller_nearer_iff hless] at hnear
    linarith
  · rw [equally_near_iff hless] at hequal
    linarith

/-- A number up to a double is not rounded above it. -/
theorem NearestPlace.le_of_le_amount (hq : q ≤ amount p') : p ≤ p' := by
  by_contra hlt
  have hless := amount_strictMono (lt_of_not_ge hlt)
  rcases h p' hp' (by omega) with hnear | ⟨hequal, -⟩
  · rw [greater_nearer_iff hless] at hnear
    linarith
  · rw [eq_comm, equally_near_iff hless] at hequal
    linarith

end Between

section Rounding

variable {q x y : ℚ} {r d : Binary64} (h : Nearest q r) (hd : d.toRat? = some x)
  (hr : r.toRat? = some y)

include h hd hr

/-- Rounding does not pass a double that lies below. -/
theorem Nearest.le_of_le (hle : x ≤ q) : x ≤ y := by
  obtain ⟨n, i, rfl, -, rfl⟩ := toRat?_eq_some_iff.mp hd
  obtain ⟨m, j, rfl, -, rfl⟩ := toRat?_eq_some_iff.mp hr
  exact amount_strictMono.monotone (NearestPlace.le_of_amount_le (natAbs_place_le n i) h hle)

/-- Rounding does not pass a double that lies above. -/
theorem Nearest.ge_of_ge (hge : q ≤ x) : y ≤ x := by
  obtain ⟨n, i, rfl, -, rfl⟩ := toRat?_eq_some_iff.mp hd
  obtain ⟨m, j, rfl, -, rfl⟩ := toRat?_eq_some_iff.mp hr
  exact amount_strictMono.monotone (NearestPlace.le_of_le_amount (natAbs_place_le n i) h hge)

/-- The nearest double is not below a double, as the number is not or is rounded to this double. -/
theorem Nearest.lower_iff : x ≤ y ↔ x ≤ q ∨ y = x := by
  constructor
  · intro hle
    rcases le_or_gt x q with hq | hq
    · exact .inl hq
    · exact .inr (le_antisymm (h.ge_of_ge hd hr hq.le) hle)
  · rintro (hq | rfl)
    · exact h.le_of_le hd hr hq
    · exact le_rfl

/-- A rounded number keeps an upper bound unless rounding moves it onto the bound. -/
theorem Nearest.upper_iff : y ≤ x ↔ q ≤ x ∨ y = x := by
  constructor
  · intro hge
    rcases le_or_gt q x with hq | hq
    · exact .inl hq
    · exact .inr (le_antisymm hge (h.le_of_le hd hr hq.le))
  · rintro (hq | rfl)
    · exact h.ge_of_ge hd hr hq
    · exact le_rfl

end Rounding

/-- A bound may be infinite, and then rounding does not matter. -/
theorem Nearest.lower_iff_extended {q y : ℚ} {r d : Binary64} {x : Extended} (h : Nearest q r)
    (hd : d.extended? = some x) (hr : r.toRat? = some y) :
    x ≤ number y ↔ x ≤ number q ∨ number y = x := by
  rcases extended?_cases hd with rfl | rfl | ⟨x, rfl, hx⟩
  · exact iff_of_true bot_le (.inl bot_le)
  · refine iff_of_false (not_top_le_number y) ?_
    rintro (hle | heq)
    · exact not_top_le_number q hle
    · exact not_top_le_number y heq.ge
  · rw [number_le_number_iff, number_le_number_iff, number_inj]
    exact h.lower_iff hx hr

/-- An upper bound that may be infinite is kept likewise. -/
theorem Nearest.upper_iff_extended {q y : ℚ} {r d : Binary64} {x : Extended} (h : Nearest q r)
    (hd : d.extended? = some x) (hr : r.toRat? = some y) :
    number y ≤ x ↔ number q ≤ x ∨ number y = x := by
  rcases extended?_cases hd with rfl | rfl | ⟨x, rfl, hx⟩
  · refine iff_of_false (not_number_le_bot y) ?_
    rintro (hle | heq)
    · exact not_number_le_bot q hle
    · exact not_number_le_bot y heq.le
  · exact iff_of_true le_top (.inl le_top)
  · rw [number_le_number_iff, number_le_number_iff, number_inj]
    exact h.upper_iff hx hr

/-- What lies between two doubles is rounded to a double between them. -/
theorem Nearest.between {q x z : ℚ} {r lower upper : Binary64} (h : Nearest q r)
    (hlower : lower.toRat? = some x) (hupper : upper.toRat? = some z) (hx : x ≤ q) (hz : q ≤ z) :
    ∃ y, r.toRat? = some y ∧ x ≤ y ∧ y ≤ z := by
  cases r with
  | nan => exact h.elim
  | signed negative rank =>
    obtain ⟨n, a, rfl, ha, rfl⟩ := toRat?_eq_some_iff.mp hlower
    obtain ⟨m, b, rfl, hb, rfl⟩ := toRat?_eq_some_iff.mp hupper
    have hleft := NearestPlace.le_of_amount_le (natAbs_place_le _ a) h hx
    have hright := NearestPlace.le_of_le_amount (natAbs_place_le _ b) h hz
    have hfinite : rank.val < infiniteRank := by
      have hrank := natAbs_place negative rank
      have hrank_a := natAbs_place n a
      have hrank_b := natAbs_place m b
      omega
    exact ⟨_, if_pos hfinite, amount_strictMono.monotone hleft, amount_strictMono.monotone hright⟩

end RowMap.Binary64
