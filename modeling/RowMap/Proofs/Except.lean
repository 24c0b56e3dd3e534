/-!
# Computations that may fail

When a computation has a given result or one at all, in what two computations agree, what a loop
preserves as long as no step fails, and where it fails.
-/

namespace RowMap

variable {ε α β : Type}

theorem bind_eq_ok {x : Except ε α} {f : α → Except ε β} {b : β} :
    x >>= f = .ok b ↔ ∃ a, x = .ok a ∧ f a = .ok b := by
  cases x <;> simp [bind, Except.bind]

theorem map_eq_ok {x : Except ε α} {f : α → β} {b : β} :
    x.map f = .ok b ↔ ∃ a, x = .ok a ∧ f a = b := by
  cases x <;> simp [Except.map]

theorem map_eq_error {x : Except ε α} {f : α → β} {e : ε} : x.map f = .error e ↔ x = .error e := by
  cases x <;> simp [Except.map]

theorem mapError_eq_ok {δ : Type} {x : Except ε α} {f : ε → δ} {a : α} :
    x.mapError f = .ok a ↔ x = .ok a := by
  constructor <;> intro h <;> cases x <;> cases h <;> rfl

/-- A mapped error comes from an error. -/
theorem mapError_eq_error {δ : Type} {x : Except ε α} {f : ε → δ} {e : δ} :
    x.mapError f = .error e ↔ ∃ cause, x = .error cause ∧ f cause = e := by
  constructor
  · intro h
    cases x <;> cases h
    exact ⟨_, rfl, rfl⟩
  · rintro ⟨cause, rfl, rfl⟩
    rfl

theorem pure_eq_ok {a b : α} : (pure a : Except ε α) = .ok b ↔ a = b := by
  simp [pure, Except.pure]

/-- A computation whose first step decides nothing about the second has a result if both do. -/
theorem exists_bind_iff {x : Except ε α} {f : α → Except ε β} {P : Prop}
    (h : ∀ a, (∃ b, f a = .ok b) ↔ P) : (∃ b, x >>= f = .ok b) ↔ (∃ a, x = .ok a) ∧ P := by
  cases x with
  | error e => simp [bind, Except.bind]
  | ok a => simpa [bind, Except.bind] using h a

theorem exists_map_iff {x : Except ε α} {f : α → β} :
    (∃ b, x.map f = .ok b) ↔ ∃ a, x = .ok a := by
  cases x <;> simp [Except.map]

theorem exists_pure_iff {a : α} : (∃ b, (pure a : Except ε α) = .ok b) ↔ True :=
  iff_true_intro ⟨a, rfl⟩

/-- Two sequences agree in some part of their results if their first steps do and, whenever the
results of these agree, their second steps do. -/
theorem map_bind_congr {γ δ : Type} {p : α → γ} {q : β → δ} {x y : Except ε α}
    {f g : α → Except ε β} (hxy : x.map p = y.map p)
    (hfg : ∀ a b, p a = p b → (f a).map q = (g b).map q) :
    (x >>= f).map q = (y >>= g).map q := by
  cases x with
  | error e => cases y <;> simp_all [Except.map, bind, Except.bind]
  | ok a =>
    cases y with
    | error e => simp [Except.map] at hxy
    | ok b => exact hfg a b (by simpa [Except.map] using hxy)

/-- Results that agree in one view agree in another one that depends on it only. -/
theorem map_map_congr {γ δ : Type} {p : α → γ} {q : β → δ} {x y : Except ε α} {f g : α → β}
    (hxy : x.map p = y.map p) (hfg : ∀ a b, p a = p b → q (f a) = q (g b)) :
    (x.map f).map q = (y.map g).map q :=
  map_bind_congr hxy fun a b hab => congrArg Except.ok (hfg a b hab)

/-- What comes of a list comes of its members. -/
theorem exists_of_mem_mapM {f : α → Except ε β} {l : List α} {bs : List β} (h : l.mapM f = .ok bs)
    {b : β} (hb : b ∈ bs) : ∃ a ∈ l, f a = .ok b := by
  induction l generalizing bs with
  | nil =>
    cases pure_eq_ok.mp h
    cases hb
  | cons a l ih =>
    rw [List.mapM_cons] at h
    obtain ⟨first, hfirst, hrest⟩ := bind_eq_ok.mp h
    obtain ⟨later, hlater, hcons⟩ := bind_eq_ok.mp hrest
    cases pure_eq_ok.mp hcons
    rcases List.mem_cons.mp hb with rfl | hb
    · exact ⟨a, List.mem_cons_self, hfirst⟩
    · obtain ⟨a', ha', hb'⟩ := ih hlater hb
      exact ⟨a', List.mem_cons_of_mem _ ha', hb'⟩

/-- What holds at first and is preserved by every step holds in the end. -/
theorem foldlM_preserves {f : β → α → Except ε β} {P : β → Prop} {l : List α}
    (step : ∀ a ∈ l, ∀ b b', f b a = .ok b' → P b → P b') {b b' : β}
    (h : l.foldlM f b = .ok b') (hb : P b) : P b' := by
  induction l generalizing b with
  | nil =>
    cases pure_eq_ok.mp h
    exact hb
  | cons a l ih =>
    rw [List.foldlM_cons] at h
    obtain ⟨c, hc, hrest⟩ := bind_eq_ok.mp h
    obtain ⟨hfirst, hlater⟩ := List.forall_mem_cons.mp step
    exact ih hlater hrest (hfirst b c hc hb)

/-- A loop succeeds in every step. -/
theorem exists_step_of_foldlM {f : β → α → Except ε β} {l : List α} {b b' : β}
    (h : l.foldlM f b = .ok b') {a : α} (ha : a ∈ l) : ∃ c c', f c a = .ok c' := by
  induction l generalizing b with
  | nil => cases ha
  | cons first l ih =>
    rw [List.foldlM_cons] at h
    obtain ⟨c, hstep, hrest⟩ := bind_eq_ok.mp h
    rcases List.mem_cons.mp ha with rfl | ha
    · exact ⟨b, c, hstep⟩
    · exact ih hrest ha

/-- A loop fails in one step, before which all others have succeeded. -/
theorem foldlM_eq_error {f : β → α → Except ε β} {l : List α} {b : β} {e : ε}
    (h : l.foldlM f b = .error e) : ∃ before a after c,
      l = before ++ a :: after ∧ before.foldlM f b = .ok c ∧ f c a = .error e := by
  induction l generalizing b with
  | nil => cases h
  | cons a l ih =>
    rw [List.foldlM_cons] at h
    cases hstep : f b a with
    | error e' =>
      rw [hstep] at h
      cases h
      exact ⟨[], a, l, b, rfl, rfl, hstep⟩
    | ok b' =>
      rw [hstep] at h
      obtain ⟨before, a', after, c, rfl, hbefore, hfail⟩ := ih h
      refine ⟨a :: before, a', after, c, rfl, ?_, hfail⟩
      rw [List.foldlM_cons, hstep]
      exact hbefore

end RowMap
