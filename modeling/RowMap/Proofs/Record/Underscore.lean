import RowMap.Proofs.Record.Kept

/-!
# Records in underscore maps

The map of a record in underscore style has the set attributes as its entries, in the order of their
names, and the record comes back from it (`fromMap_toMap_underscore`). No name is lost, as in camel
style, and no name is taken for another one, for a plain name is not changed when it is read as a
key. Which spelling is the declared one makes no difference, because no two keys mean one attribute.
-/

namespace RowMap.Mapper

open KeyStyle (toUnderscore)

variable {t : RecordType} {r : Record t}

/-- A mapper with underscore keys. -/
def underscore (strict : Bool) : Mapper :=
  ⟨.underscore, strict⟩

/-- The entries of the map are the attributes that are set, each under its own name. -/
theorem entries_toMap_underscore (hd : t.Distinct) (r : Record t) (strict : Bool) :
    ((underscore strict).toMap r).entries.Perm r.assigned := by
  have hmap : (underscore strict).toMap r = .ofList r.assigned :=
    congrArg KeyMap.ofList r.map_filter_fields
  rw [hmap]
  exact KeyMap.perm_ofList (r.nodup_assigned hd)

/-- A record comes back from its underscore map, which has one entry for each attribute that is
set. -/
theorem fromMap_toMap_underscore (hd : t.Distinct) (hp : t.Plain) (hr : r.Typed)
    (strict underscoreKeys : Bool) :
    ((underscore strict).toMap r).entries.Perm r.assigned ∧
      (underscore strict).fromMap t ((underscore strict).toMap r) underscoreKeys = .ok r := by
  refine ⟨entries_toMap_underscore hd r strict, fromMap_toMap hr fun i _ => ?_⟩
  calc t.find? (toUnderscore (t.attributes.get i).name)
      = t.find? (t.attributes.get i).name := by rw [hp.toUnderscore_name]
    _ = some i := hd.find?_name i

def readings : RecordType :=
  ⟨"readings", "_id", [⟨"_id", .integer⟩, ⟨"x_1", .real⟩, ⟨"x__1", .boolean⟩, ⟨"at_", .timestamp⟩,
    ⟨"2", .text⟩, ⟨"_", .extended⟩], []⟩

/-- A reading for which neither `x_1` nor `at_` is known. -/
def partialReading : Record readings :=
  ⟨#v[.integer 7, .null, .boolean true, .null, .text "low", .json gold]⟩

/-- In camel style two of these names would have one spelling, and another one would be empty. -/
theorem fromMap_toMap_underscore_partialReading :
    readings.Distinct ∧ readings.Plain ∧ partialReading.Typed ∧
      partialReading.assigned =
        [("_id", .integer 7), ("x__1", .boolean true), ("2", .text "low"), ("_", .json gold)] ∧
      ∀ strict underscoreKeys,
        ((underscore strict).toMap partialReading).entries.Perm partialReading.assigned ∧
          (underscore strict).fromMap readings ((underscore strict).toMap partialReading)
            underscoreKeys = .ok partialReading := by
  have hnames : readings.Distinct ∧ readings.Plain := by decide
  have htyped : partialReading.Typed := by
    show ∀ i : Fin 6, _
    decide
  exact ⟨hnames.1, hnames.2, htyped, rfl, fromMap_toMap_underscore hnames.1 hnames.2 htyped⟩

end RowMap.Mapper
