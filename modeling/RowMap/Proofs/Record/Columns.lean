import Mathlib.Data.List.Forall2
import RowMap.Proofs.Record.Reference

/-!
# Rows as records

A row may have columns that are no attributes of a record type. A mapper that is not strict makes of
a row what any mapper, strict or not, makes of the attribute columns alone (`fromMap_columnsOf`),
and no key of these is refused. So reading rows one after the other gives one record for each, or
stops at the first row in which some value cannot be coerced (`rowsRead`).
-/

namespace RowMap

open KeyStyle (toUnderscore)

/-! ## Lists of results -/

section Lists

variable {ε α β : Type} {f : α → Except ε β} {l : List α}

theorem forall₂_of_mapM {bs : List β} (h : l.mapM f = .ok bs) :
    List.Forall₂ (fun a b => f a = .ok b) l bs := by
  induction l generalizing bs with
  | nil =>
    cases pure_eq_ok.mp h
    exact .nil
  | cons a l ih =>
    rw [List.mapM_cons] at h
    obtain ⟨b, hb, hrest⟩ := bind_eq_ok.mp h
    obtain ⟨later, hlater, hcons⟩ := bind_eq_ok.mp hrest
    cases pure_eq_ok.mp hcons
    exact .cons hb (ih hlater)

/-- The error is that of the first member which has one. -/
theorem mapM_eq_error {e : ε} (h : l.mapM f = .error e) : ∃ before a after,
    l = before ++ a :: after ∧ (∀ a ∈ before, ∃ b, f a = .ok b) ∧ f a = .error e := by
  induction l with
  | nil => cases h
  | cons a l ih =>
    rw [List.mapM_cons] at h
    cases ha : f a with
    | error e' =>
      rw [ha] at h
      cases h
      exact ⟨[], a, l, rfl, List.forall_mem_nil _, ha⟩
    | ok b =>
      rw [ha] at h
      cases hrest : l.mapM f with
      | ok bs =>
        rw [hrest] at h
        cases h
      | error e' =>
        rw [hrest] at h
        cases h
        obtain ⟨before, a', after, rfl, hbefore, hfail⟩ := ih hrest
        exact ⟨a :: before, a', after, rfl, List.forall_mem_cons.mpr ⟨⟨b, ha⟩, hbefore⟩, hfail⟩

end Lists

/-! ## Attribute columns -/

/-- The entries whose keys mean attributes. -/
def RecordType.columnsOf (t : RecordType) (row : AttributeMap) : AttributeMap :=
  ⟨row.entries.filter fun e => (t.find? (toUnderscore e.1)).isSome, row.sorted.filter _⟩

namespace Mapper

variable {t : RecordType} {m : Mapper}

theorem foldlM_resolveEntry_filter (hm : m.strict = false) (m' : Mapper) (declared : KeyStyle)
    (entries : List (String × Value)) (candidates : KeyMap Candidate) :
    (entries.filter fun e => (t.find? (toUnderscore e.1)).isSome).foldlM
        (m'.resolveEntry t declared) candidates =
      entries.foldlM (m.resolveEntry t declared) candidates := by
  induction entries generalizing candidates with
  | nil => rfl
  | cons e entries ih =>
    cases hfind : t.find? (toUnderscore e.1) with
    | none =>
      have hskip : m.resolveEntry t declared candidates e = .ok candidates := by
        simp [resolveEntry_of_unknown hfind, hm]
      rw [List.filter_cons_of_neg (by simp [hfind]), ih, List.foldlM_cons, hskip]
      rfl
    | some i =>
      have hknown : (t.find? (toUnderscore e.1)).isSome = true := Option.isSome_of_eq_some hfind
      rw [List.filter_cons, if_pos hknown, List.foldlM_cons, List.foldlM_cons,
        resolveEntry_of_known hknown, resolveEntry_of_known hknown]
      exact ih _

/-- Columns that are no attributes do not count for a mapper that is not strict. -/
theorem fromMap_columnsOf (hm : m.strict = false) (m' : Mapper) (row : AttributeMap)
    (underscoreKeys : Bool) :
    m'.fromMap t (t.columnsOf row) underscoreKeys = m.fromMap t row underscoreKeys := by
  simp only [fromMap, fromMapOn, RecordType.columnsOf, foldlM_resolveEntry_filter hm m']

/-- A mapper that is not strict only finds fault with values. -/
theorem attribute_of_fromMap (hm : m.strict = false) {map : AttributeMap} {underscoreKeys : Bool}
    {fault : MappingFault} (h : m.fromMap t map underscoreKeys = .error fault) :
    ∃ name cause, fault = .attribute name cause := by
  have href := reference_fromMapOn m (Record.unset t) map underscoreKeys
  rw [show m.fromMapOn (Record.unset t) map underscoreKeys = .error fault from h] at href
  cases href with
  | unknown hstrict =>
    rw [hm] at hstrict
    cases hstrict
  | uncoercible => exact ⟨_, _, rfl⟩

/-! ## Rows -/

/-- What becomes of rows that are read one after the other, each by its attribute columns: either
each of them is a record, or the first one that is none decides the fault. -/
inductive RowsRead (m : Mapper) (t : RecordType) (rows : List AttributeMap) :
    Except MappingFault (List (Record t)) → Prop
  | all {records : List (Record t)}
    (h : List.Forall₂ (fun row r => m.fromMap t (t.columnsOf row) true = .ok r) rows records) :
    RowsRead m t rows (.ok records)
  | stopped {before after : List AttributeMap} {row : AttributeMap} {name : String}
    {cause : CoercionError} (hrows : rows = before ++ row :: after)
    (hbefore : ∀ earlier ∈ before, ∃ r, m.fromMap t (t.columnsOf earlier) true = .ok r)
    (h : m.fromMap t (t.columnsOf row) true = .error (.attribute name cause)) :
    RowsRead m t rows (.error (.attribute name cause))

theorem rowsRead (hm : m.strict = false) (m' : Mapper) (t : RecordType)
    (rows : List AttributeMap) :
    RowsRead m' t rows (rows.mapM fun row => m.fromMap t row true) := by
  simp only [← fromMap_columnsOf hm m']
  cases h : rows.mapM fun row => m'.fromMap t (t.columnsOf row) true with
  | ok records => exact .all (forall₂_of_mapM h)
  | error fault =>
    obtain ⟨before, row, after, hrows, hbefore, hfail⟩ := mapM_eq_error h
    obtain ⟨name, cause, rfl⟩ := attribute_of_fromMap hm
      ((fromMap_columnsOf hm m' row true).symm.trans hfail)
    exact .stopped hrows hbefore hfail

end Mapper

end RowMap
