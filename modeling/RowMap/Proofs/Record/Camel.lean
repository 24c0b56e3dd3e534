import Mathlib.Data.Set.Finite.Lemmas
import RowMap.Proofs.Record.Mapper
import RowMap.Proofs.Record.Words

/-!
# Records in camel maps

Mapping a record and mapping the map back gives the record again exactly if the names of the
attributes that are set are recoverable from camel style (`fromMap_toMap_camel_iff`), whether or not
unknown keys are refused. An attribute whose name is not recoverable is lost: its key is read as a
shorter name, and as the names that are lost are finitely many, no key is read as the longest of
them.
-/

namespace RowMap

open KeyStyle (IsCanonical IsRecoverable toCamel toUnderscore)

/-- All names are canonical. -/
def RecordType.Canonical (t : RecordType) : Prop :=
  ∀ a ∈ t.attributes, IsCanonical a.name

instance (t : RecordType) : Decidable t.Canonical :=
  List.decidableBAll (fun a : Attribute => IsCanonical a.name) t.attributes

namespace Mapper

variable {t : RecordType} {r : Record t}

/-- A mapper with camel keys. -/
def camel (strict : Bool) : Mapper :=
  ⟨.camel, strict⟩

/-- The attribute is set, but its name is not recovered from its key. -/
def Lost (r : Record t) (i : Fin t.attributes.length) : Prop :=
  r.get i ≠ .null ∧ ¬ IsRecoverable (t.attributes.get i).name

theorem fromMap_toMap_of_recoverable (hd : t.Distinct) (hc : t.Canonical) (hr : r.Typed)
    (h : ∀ i, r.get i ≠ .null → IsRecoverable (t.attributes.get i).name) (strict : Bool) :
    (camel strict).fromMap t ((camel strict).toMap r) false = .ok r := by
  refine fromMap_toMap hr fun i hi => ?_
  rw [camel, KeyStyle.apply, KeyStyle.toUnderscore_toCamel (hc _ (List.get_mem _ i)).1 (h i hi),
    hd.find?_name]

/-- Of the names that are lost, a longest one is not read from any key. -/
theorem not_lost_of_fromMap (hc : t.Canonical) {strict : Bool}
    (h : (camel strict).fromMap t ((camel strict).toMap r) false = .ok r)
    (k : Fin t.attributes.length) : ¬ Lost r k := by
  intro hk
  obtain ⟨i, ⟨hi, hlost⟩, hlongest⟩ := Set.exists_max_image {i | Lost r i}
    (fun i => (t.attributes.get i).name.length) (Set.toFinite _) ⟨k, hk⟩
  obtain ⟨e, he, hmeans⟩ := exists_key_of_fromMap h hi
  obtain ⟨j, hj, rfl⟩ := mem_toMap he
  have hname : toUnderscore (toCamel (t.attributes.get j).name) = (t.attributes.get i).name :=
    (RecordType.name_of_find? hmeans).symm
  have hcj : IsCanonical (t.attributes.get j).name := hc _ (List.get_mem _ j)
  by_cases hrj : IsRecoverable (t.attributes.get j).name
  · rw [KeyStyle.toUnderscore_toCamel hcj.1 hrj] at hname
    exact hlost (hname ▸ hrj)
  · have hshorter := KeyStyle.length_toUnderscore_toCamel_lt hcj.1 hrj
    rw [hname] at hshorter
    exact Nat.not_le_of_lt hshorter (hlongest j ⟨hj, hrj⟩)

/-- A record comes back from its camel map exactly if every attribute that is set has a name that is
recovered from camel style. -/
theorem fromMap_toMap_camel_iff (hd : t.Distinct) (hc : t.Canonical) (hr : r.Typed)
    (strict : Bool) :
    (camel strict).fromMap t ((camel strict).toMap r) false = .ok r ↔
      ∀ i, r.get i ≠ .null → IsRecoverable (t.attributes.get i).name := by
  constructor
  · intro h i hi
    by_contra hlost
    exact not_lost_of_fromMap hc h i ⟨hi, hlost⟩
  · intro h
    exact fromMap_toMap_of_recoverable hd hc hr h strict

def orders : RecordType :=
  ⟨"orders", "id", [⟨"id", .integer⟩, ⟨"sha256_sum", .text⟩, ⟨"plan_b", .boolean⟩,
    ⟨"line_2", .text⟩, ⟨"x_y_z", .integer⟩], []⟩

/-- An order in which only recoverable names are set. -/
def confirmed : Record orders :=
  ⟨#v[.integer 7, .text "9f86d081", .boolean true, .null, .null]⟩

theorem fromMap_toMap_camel_iff_confirmed :
    orders.Distinct ∧ orders.Canonical ∧ confirmed.Typed ∧
      (∀ i, confirmed.get i ≠ .null → IsRecoverable (orders.attributes.get i).name) ∧
      ∀ strict, (camel strict).fromMap orders ((camel strict).toMap confirmed) false =
        .ok confirmed := by
  have htype : orders.Distinct ∧ orders.Canonical := by decide
  have htyped : confirmed.Typed := by
    show ∀ i : Fin 5, _
    decide
  have hnames : ∀ i, confirmed.get i ≠ .null →
      IsRecoverable (orders.attributes.get i).name := by
    intro (i : Fin 5) hi
    match i with
    | 0 | 1 | 2 => decide
    | 3 | 4 => exact absurd rfl hi
  exact ⟨htype.1, htype.2, htyped, hnames, fun strict =>
    (fromMap_toMap_camel_iff htype.1 htype.2 htyped strict).mpr hnames⟩

/-- An order with a second address line. -/
def delivered : Record orders :=
  ⟨#v[.integer 7, .null, .null, .text "Flat 4", .null]⟩

/-- The same order without its second address line. -/
def undelivered : Record orders :=
  ⟨#v[.integer 7, .null, .null, .null, .null]⟩

/-- The key of the second address line is refused, or else the line is lost. -/
theorem fromMap_toMap_camel_delivered :
    orders.Distinct ∧ orders.Canonical ∧ delivered.Typed ∧
      (camel true).fromMap orders ((camel true).toMap delivered) false =
        .error (.unknownAttribute "line2" "orders") ∧
      (camel false).fromMap orders ((camel false).toMap delivered) false =
        .ok undelivered ∧ undelivered ≠ delivered := by
  have htype : orders.Distinct ∧ orders.Canonical := by decide
  refine ⟨htype.1, htype.2, ?_, rfl, rfl, fun h => ?_⟩
  · show ∀ i : Fin 5, _
    decide
  · have hline : undelivered.get (3 : Fin 5) = delivered.get (3 : Fin 5) := by rw [h]
    cases hline

end Mapper

end RowMap
