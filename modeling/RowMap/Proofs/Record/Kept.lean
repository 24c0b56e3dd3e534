import RowMap.Proofs.Record.Mapper

/-!
# Records kept in a store

A store keeps a record as a row of cells, and `Record.KeptIn` says that reading the cells gives a
certain row of values. Mapping this row as an engine maps the rows that it fetches gives the record
back if it holds values of its kinds (`fromMap_of_keptIn`), which every record does that was built
from a map (`fromMap_read_back`).
-/

namespace RowMap

open KeyStyle (IsPlain toUnderscore)

/-- All names are over small letters, digits and underscores. -/
def RecordType.Plain (t : RecordType) : Prop :=
  ∀ a ∈ t.attributes, IsPlain a.name

instance (t : RecordType) : Decidable t.Plain :=
  List.decidableBAll (fun a : Attribute => IsPlain a.name) t.attributes

variable {t : RecordType}

/-- The name of an attribute is a key in underscore style that means it. -/
theorem RecordType.Plain.toUnderscore_name (h : t.Plain) (i : Fin t.attributes.length) :
    toUnderscore (t.attributes.get i).name = (t.attributes.get i).name :=
  KeyStyle.toUnderscore_of_plain (h _ (List.get_mem _ i))

namespace Record

/-- Every value of the record can be kept. -/
def Keepable (r : Record t) : Prop :=
  ∀ i, (r.get i).Keepable

/-- The row is what is read from the cells in which the record is kept. An attribute that is not set
may be missing. A column that is no attribute may be there, as long as it means none either. -/
structure KeptIn (r : Record t) (row : AttributeMap) : Prop where
  kept : ∀ i, row.get? (t.attributes.get i).name = some (Value.ofCell (r.get i).toCell) ∨
    (r.get i = .null ∧ row.get? (t.attributes.get i).name = none)
  others : ∀ key value, row.get? key = some value →
    (t.find? key).isSome ∨ t.find? (toUnderscore key) = none

end Record

namespace Mapper

variable {r : Record t} {row : AttributeMap}

/-- A column that means an attribute has its name. -/
theorem name_of_keptIn (hp : t.Plain) (hrow : r.KeptIn row) {key : String} {value : Value}
    (hmem : row.get? key = some value) {i : Fin t.attributes.length}
    (hi : t.find? (toUnderscore key) = some i) : (t.attributes.get i).name = key := by
  rcases hrow.others key value hmem with hsome | hnone
  · obtain ⟨j, hj⟩ := Option.isSome_iff_exists.mp hsome
    have hname := RecordType.name_of_find? hj
    have hsame : toUnderscore key = key := hname ▸ hp.toUnderscore_name j
    rw [hsame] at hi
    exact RecordType.name_of_find? hi
  · rw [hnone] at hi
    cases hi

/-- A record with values of its kinds is read back from the row in which it is kept. -/
theorem fromMap_of_keptIn (hd : t.Distinct) (hp : t.Plain) (hr : r.Typed) (hk : r.Keepable)
    (hrow : r.KeptIn row) (style : KeyStyle) :
    (⟨style, false⟩ : Mapper).fromMap t row true = .ok r := by
  refine fromMap_eq_ok (.inl rfl) ?_ ?_
  · intro e he i hi
    have hget := KeyMap.get?_eq_some_iff.mpr he
    have hname := name_of_keptIn hp hrow hget hi
    rcases hrow.kept i with hkept | ⟨-, hnone⟩
    · rw [hname, hget] at hkept
      rw [Option.some.inj hkept]
      exact Value.coerce_ofCell_toCell (hr i) (hk i)
    · rw [hname, hget] at hnone
      cases hnone
  · intro i hi
    rcases hrow.kept i with hkept | ⟨hnull, -⟩
    · have hmeans : t.find? (toUnderscore (t.attributes.get i).name) = some i := by
        rw [hp.toUnderscore_name, hd.find?_name]
      exact absurd hmeans (hi (_, _) (KeyMap.get?_eq_some_iff.mp hkept))
    · exact hnull

/-- What was mapped once is read back unchanged from the row in which it is kept, in either key
style. -/
theorem fromMap_read_back (hd : t.Distinct) (hp : t.Plain) {m : Mapper} {map : AttributeMap}
    {underscoreKeys : Bool} (h : m.fromMap t map underscoreKeys = .ok r) (hk : r.Keepable)
    (hrow : r.KeptIn row) (style : KeyStyle) :
    (⟨style, false⟩ : Mapper).fromMap t row true = .ok r := by
  have hr : r.Typed := fromMap_typed h
  exact fromMap_of_keptIn hd hp hr hk hrow style

/-- A type with attributes of all kinds that are kept. -/
def visitors : RecordType :=
  ⟨"visitors", "badge_no", [⟨"badge_no", .integer⟩, ⟨"vip", .boolean⟩, ⟨"seen_at", .timestamp⟩,
    ⟨"left_at", .timestamp⟩, ⟨"notes", .extended⟩], []⟩

/-- A quarter into the leap second of a year. -/
def leapSecond : Timestamp :=
  ⟨⟨2016, 12, 31, by decide⟩, ⟨23, 59, 59, 1250000000, by decide⟩⟩

/-- A document in canonical form. -/
def gold : Document :=
  .ofJson (.object [("level", .string "gold")])

def arrival : AttributeMap :=
  .ofList [("badgeNo", .text "7"), ("vip", .integer 1), ("seenAt", .timestamp leapSecond),
    ("notes", .json gold)]

def arrived : Record visitors :=
  ⟨#v[.integer 7, .boolean true, .timestamp leapSecond, .null, .json gold]⟩

/-- What is read of the visitor, who has not left yet. -/
def visit : AttributeMap :=
  .ofList [("badge_no", .integer 7), ("notes", .text gold.text), ("seen_at", .text leapSecond.text),
    ("vip", .integer 1)]

theorem fromMap_read_back_arrived :
    visitors.Distinct ∧ visitors.Plain ∧
      default.fromMap visitors arrival false = .ok arrived ∧ arrived.Keepable ∧
      arrived.KeptIn visit ∧ ∀ style, (⟨style, false⟩ : Mapper).fromMap visitors visit true =
        .ok arrived := by
  have hnames : visitors.Distinct ∧ visitors.Plain := by decide
  have hmap : default.fromMap visitors arrival false = .ok arrived := rfl
  have hkeepable : arrived.Keepable := by
    intro (i : Fin 5)
    match i with
    | 0 | 1 | 2 | 3 => trivial
    | 4 => exact ⟨⟨trivial, trivial⟩, by decide⟩
  have hkept : arrived.KeptIn visit := by
    refine ⟨fun (i : Fin 5) => ?_, fun key value hget => ?_⟩
    · match i with
      | 0 | 1 => exact .inl rfl
      | 2 => exact .inl (congrArg some (Value.ofCell_text _).symm)
      | 3 => exact .inr ⟨rfl, rfl⟩
      | 4 => exact .inl (congrArg some (Value.ofCell_text _).symm)
    · have hnamed : ∀ name ∈ visit.entries.map Prod.fst, (visitors.find? name).isSome := by decide
      exact .inl (hnamed key (List.mem_map_of_mem (KeyMap.get?_eq_some_iff.mp hget)))
  exact ⟨hnames.1, hnames.2, hmap, hkeepable, hkept,
    fromMap_read_back hnames.1 hnames.2 hmap hkeepable hkept⟩

end Mapper

end RowMap
