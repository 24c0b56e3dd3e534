import RowMap.Proofs.Json.Text
import RowMap.Proofs.Text.Utf8
import RowMap.Proofs.Timestamp.Text
import RowMap.Value.Coerce

/-!
# Values of a kind

A value is of a kind if it is null or has the type that the kind is about. Coercion makes null of
null only and values of that type of all others (`coerce_eq_ok_cases`), and what is of the kind it
leaves alone (`coerce_of_isOf`).

A value of a kind may be put into a cell and taken out of it as something else, a timestamp as its
text for example, but coercing it again gives it back (`coerce_ofCell_toCell`). JSON values are the
only ones for which this takes a condition, `Keepable`.
-/

namespace RowMap.Value

/-- The values that an attribute of the kind may hold. -/
def isOf (kind : Kind) : Value → Bool
  | .null => true
  | .integer _ => kind = .integer
  | .real _ => kind = .real
  | .text _ => kind = .text
  | .boolean _ => kind = .boolean
  | .timestamp _ => kind = .timestamp
  | .blob _ => false
  | .json d => kind = .extended && d.isObject

/-- The values that have the type that the kind is about. -/
inductive HasKind : Kind → Value → Prop
  | integer (i : Int64) : HasKind .integer (.integer i)
  | real (r : Binary64) : HasKind .real (.real r)
  | text (s : String) : HasKind .text (.text s)
  | boolean (b : Bool) : HasKind .boolean (.boolean b)
  | timestamp (t : Timestamp) : HasKind .timestamp (.timestamp t)
  | extended {d : Document} (h : d.isObject = true) : HasKind .extended (.json d)

variable {v w : Value} {k : Kind}

theorem isOf_iff : v.isOf k = true ↔ v = .null ∨ HasKind k v := by
  constructor
  · intro h
    cases v with
    | null => exact .inl rfl
    | blob bytes => cases h
    | json d =>
      simp only [isOf, Bool.and_eq_true, decide_eq_true_eq] at h
      obtain ⟨rfl, hobject⟩ := h
      exact .inr (.extended hobject)
    | _ =>
      obtain rfl := of_decide_eq_true h
      exact .inr (by constructor)
  · rintro (rfl | h)
    · rfl
    · cases h with
      | extended hobject => simpa [isOf] using hobject
      | _ => rfl

/-! ## Coercion -/

attribute [local simp] coerce orInvalid

theorem hasKind_of_orInvalid {α : Type} {f : α → Value} {a? : Option α}
    (hf : ∀ a, HasKind k (f a)) (h : orInvalid k (a?.map f) = .ok w) : HasKind k w := by
  cases a? with
  | none => cases h
  | some a =>
    cases h
    exact hf a

/-- What comes out of a coercion of anything but null has the type of the kind. -/
theorem hasKind_of_coerce (hv : v ≠ .null) (h : v.coerce k = .ok w) : HasKind k w := by
  cases k with
  | integer =>
    cases v with
    | null => exact absurd rfl hv
    | integer _ | boolean _ => cases h; exact .integer _
    | real r => exact hasKind_of_orInvalid .integer h
    | text s => exact hasKind_of_orInvalid .integer h
    | _ => cases h
  | real =>
    cases v with
    | null => exact absurd rfl hv
    | real _ | integer _ => cases h; exact .real _
    | text s => exact hasKind_of_orInvalid .real h
    | _ => cases h
  | text =>
    cases v with
    | null => exact absurd rfl hv
    | text _ | integer _ | real _ | boolean _ | timestamp _ => cases h; exact .text _
    | _ => cases h
  | boolean =>
    cases v with
    | null => exact absurd rfl hv
    | boolean _ => cases h; exact .boolean _
    | integer i =>
      simp only [coerce] at h
      split at h
      · cases h; exact .boolean _
      · split at h
        · cases h; exact .boolean _
        · cases h
    | text s => exact hasKind_of_orInvalid .boolean h
    | _ => cases h
  | timestamp =>
    cases v with
    | null => exact absurd rfl hv
    | timestamp _ => cases h; exact .timestamp _
    | text s => exact hasKind_of_orInvalid .timestamp h
    | _ => cases h
  | extended =>
    cases v with
    | null => exact absurd rfl hv
    | json d =>
      simp only [coerce] at h
      split at h
      · next hobject =>
        cases h
        exact .extended hobject
      · cases h
    | text s =>
      simp only [coerce] at h
      split at h
      · cases h
      · next d _ =>
        by_cases hobject : d.isObject = true
        · rw [if_pos hobject] at h
          cases h
          exact .extended hobject
        · rw [if_neg hobject] at h
          cases h
    | _ => cases h

/-- Only null is coerced to null. -/
theorem coerce_eq_ok_cases (h : v.coerce k = .ok w) :
    v = .null ∧ w = .null ∨ v ≠ .null ∧ HasKind k w := by
  by_cases hv : v = .null
  · subst hv
    have hnull : Value.null.coerce k = .ok .null := by cases k <;> rfl
    exact .inl ⟨rfl, Except.ok.inj (h.symm.trans hnull)⟩
  · exact .inr ⟨hv, hasKind_of_coerce hv h⟩

/-- What comes out of a coercion is of the kind. -/
theorem isOf_of_coerce (h : v.coerce k = .ok w) : w.isOf k = true := by
  rcases coerce_eq_ok_cases h with ⟨-, rfl⟩ | ⟨-, hw⟩
  · rfl
  · exact isOf_iff.mpr (.inr hw)

theorem coerce_of_isOf (h : v.isOf k = true) : v.coerce k = .ok v := by
  rcases isOf_iff.mp h with rfl | hv
  · cases k <;> rfl
  · cases hv with
    | extended hobject => simp [hobject]
    | _ => rfl

/-! ## Cells -/

/-- JSON text is read back only without doubles and not too deeply nested. -/
def Keepable : Value → Prop
  | .json d => d.tree.Whole ∧ d.tree.depth < Json.maxDepth
  | _ => True

theorem ofCell_text (s : String) : ofCell (.text s.toUTF8) = .text s :=
  congrArg text (Text.decode_toUTF8 s)

/-- A value comes back from its cell once it is coerced to its kind. -/
theorem coerce_ofCell_toCell (h : v.isOf k = true) (hv : v.Keepable) :
    (ofCell v.toCell).coerce k = .ok v := by
  rcases isOf_iff.mp h with rfl | hk
  · cases k <;> rfl
  · cases hk with
    | integer | real => rfl
    | text s =>
      rw [toCell, ofCell_text]
      rfl
    | boolean b => cases b <;> rfl
    | timestamp t =>
      rw [toCell, ofCell_text]
      simp [Timestamp.read?_text]
    | extended hobject =>
      rw [toCell, ofCell_text]
      simp [Document.read?_text hv.1 hv.2, hobject]

end RowMap.Value
