import Mathlib.Data.List.Nodup
import RowMap.Record.Basic

/-!
# Attributes and slots

A field of a record is an attribute of its type with the value in the slot of the attribute. If the
names of the attributes are distinct, a name leads to the one attribute that has it.
`Record.assigned` lists what is set, in order of declaration.
-/

namespace RowMap

theorem Value.isNull_eq_false_iff {v : Value} : v.isNull = false ↔ v ≠ .null := by
  cases v <;> simp [Value.isNull]

/-- No two attributes have the same name. -/
def RecordType.Distinct (t : RecordType) : Prop :=
  (t.attributes.map Attribute.name).Nodup

namespace RecordType

variable {t : RecordType} {name : String} {i : Fin t.attributes.length}

instance : Decidable t.Distinct :=
  inferInstanceAs (Decidable (List.Nodup _))

theorem name_of_find? (h : t.find? name = some i) : (t.attributes.get i).name = name := by
  have := (List.findFinIdx?_eq_some_iff.mp h).1
  simpa using this

/-- Nothing is found if no attribute has the name. -/
theorem find?_eq_none_iff : t.find? name = none ↔ ∀ i, (t.attributes.get i).name ≠ name := by
  simp only [find?, List.findFinIdx?_eq_none_iff, decide_eq_true_eq]
  constructor
  · intro h i
    exact h _ (List.get_mem _ i)
  · intro h a ha
    obtain ⟨i, rfl⟩ := List.get_of_mem ha
    exact h i

/-- Among distinct names each belongs to one attribute. -/
theorem Distinct.get_inj (h : t.Distinct) {i j : Fin t.attributes.length}
    (hij : (t.attributes.get i).name = (t.attributes.get j).name) : i = j := by
  have hsame := List.inj_on_of_nodup_map h (List.get_mem _ i) (List.get_mem _ j) hij
  exact (List.Nodup.get_inj_iff (List.Nodup.of_map _ h)).mp hsame

/-- Among distinct names each attribute is found by its own. -/
theorem Distinct.find?_name (h : t.Distinct) (i : Fin t.attributes.length) :
    t.find? (t.attributes.get i).name = some i := by
  cases hf : t.find? (t.attributes.get i).name with
  | none => exact absurd rfl (find?_eq_none_iff.mp hf i)
  | some j => rw [h.get_inj (name_of_find? hf)]

end RecordType

namespace Record

variable {t : RecordType}

/-- Records with the same slots are the same. -/
theorem ext_get {r r' : Record t} (h : ∀ i, r.get i = r'.get i) : r = r' := by
  obtain ⟨slots⟩ := r
  obtain ⟨slots'⟩ := r'
  congr
  ext n hn
  exact h ⟨n, hn⟩

theorem get_unset (i : Fin t.attributes.length) : (unset t).get i = .null := by
  simp [unset, get]

theorem get_set (r : Record t) (i j : Fin t.attributes.length) (value : Value) :
    (r.set i value).get j = if i = j then value else r.get j := by
  simp only [set, get, Fin.getElem_fin, Vector.getElem_set, Fin.ext_iff]

/-- The fields are the attributes with their slots. -/
theorem mem_fields {r : Record t} {f : Attribute × Value} :
    f ∈ r.fields ↔ ∃ i, f = (t.attributes.get i, r.get i) := by
  rw [fields, List.mem_iff_getElem]
  constructor
  · rintro ⟨n, hn, rfl⟩
    have hlt : n < t.attributes.length := by
      simp only [List.length_zip] at hn
      omega
    exact ⟨⟨n, hlt⟩, by simp [get]⟩
  · rintro ⟨i, rfl⟩
    exact ⟨i, by simp, by simp [get]⟩

/-- The fields stand in the order of the attributes. -/
theorem fields_eq (r : Record t) :
    r.fields = (List.finRange t.attributes.length).map fun i => (t.attributes.get i, r.get i) := by
  refine List.ext_getElem (by simp [fields]) fun n _ _ => ?_
  simp [fields, get]

/-- A key that is set is the value of a field of its name. -/
theorem key_mem_fields {r : Record t} (h : r.key.isNull = false) :
    ∃ f ∈ r.fields, f.1.name = t.key ∧ f.2 = r.key := by
  cases hf : t.find? t.key with
  | none =>
    have hkey : r.key = .null := by rw [key, value, hf]
    rw [hkey] at h
    cases h
  | some i =>
    have hkey : r.key = r.get i := by rw [key, value, hf]
    exact ⟨_, mem_fields.mpr ⟨i, rfl⟩, RecordType.name_of_find? hf, hkey.symm⟩

/-- The names of the attributes that are set, with their values, in order of declaration. -/
def assigned (r : Record t) : List (String × Value) :=
  (List.finRange t.attributes.length).filterMap fun i =>
    if (r.get i).isNull then none else some ((t.attributes.get i).name, r.get i)

/-- The set attributes are those whose slots are not null. -/
theorem mem_assigned {r : Record t} {a : String × Value} :
    a ∈ r.assigned ↔ ∃ i, r.get i ≠ .null ∧ a = ((t.attributes.get i).name, r.get i) := by
  simp only [assigned, List.mem_filterMap, List.mem_finRange, true_and]
  refine exists_congr fun i => ?_
  rw [← Value.isNull_eq_false_iff]
  cases (r.get i).isNull <;> simp [eq_comm (a := a)]

/-- No set attribute has a null value. -/
theorem isNull_of_mem_assigned {r : Record t} {a : String × Value} (h : a ∈ r.assigned) :
    a.2.isNull = false := by
  obtain ⟨i, hi, rfl⟩ := mem_assigned.mp h
  exact Value.isNull_eq_false_iff.mpr hi

/-- Leaving out the null fields leaves the set attributes. -/
theorem map_filter_fields (r : Record t) :
    (r.fields.filter fun f => !f.2.isNull).map (fun f => (f.1.name, f.2)) = r.assigned := by
  rw [fields_eq, List.filter_map, List.map_map, ← List.filterMap_eq_map, List.filterMap_filter,
    assigned]
  congr
  funext i
  cases hi : (r.get i).isNull <;> simp [hi]

/-- The key is among the set attributes if and only if it is set. -/
theorem exists_key_assigned_iff (h : t.Distinct) {r : Record t} :
    (∃ v, (t.key, v) ∈ r.assigned) ↔ r.key.isNull = false := by
  constructor
  · rintro ⟨v, hv⟩
    obtain ⟨i, hi, hfield⟩ := mem_assigned.mp hv
    obtain ⟨hname, -⟩ := Prod.mk.inj hfield
    rw [key, value, hname, h.find?_name]
    exact Value.isNull_eq_false_iff.mpr hi
  · intro hset
    obtain ⟨f, hf, hname, hvalue⟩ := key_mem_fields hset
    obtain ⟨i, rfl⟩ := mem_fields.mp hf
    rw [← hvalue] at hset
    exact ⟨r.get i, mem_assigned.mpr ⟨i, Value.isNull_eq_false_iff.mp hset, by rw [← hname]⟩⟩

/-- Among distinct names no set attribute comes twice. -/
theorem nodup_assigned (h : t.Distinct) (r : Record t) : (r.assigned.map Prod.fst).Nodup := by
  have hnames : (r.fields.map fun f => f.1.name).Nodup := by
    rw [fields_eq, List.map_map]
    exact (List.nodup_finRange _).map fun i j hij => h.get_inj hij
  rw [← map_filter_fields, List.map_map]
  exact hnames.sublist (List.filter_sublist.map _)

end Record

end RowMap
