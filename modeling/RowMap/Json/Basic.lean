import RowMap.Binary64.Basic
import RowMap.Integer
import RowMap.KeyMap

/-!
# JSON values

`Json` is the syntax tree of a JSON text: an object lists its fields as they stand. A `Document` is
a tree in canonical form, where the keys of every object increase strictly; `Json.canonical` brings
a tree into this form, the last of several fields with one key being kept.

A number is an integer that fits 64 bits, signed or unsigned, or else a finite double.
-/

namespace RowMap

/-- A number is whole and fits a machine word, or it is a finite double. -/
inductive Json.Number where
  | integer (value : Int) (inRange : FitsWord value)
  | real (value : Binary64) (finite : value.isFinite = true)
  deriving DecidableEq

/-- The values of the format; the fields of an object keep their order. -/
inductive Json where
  | null
  | boolean (value : Bool)
  | number (value : Json.Number)
  | string (value : String)
  | array (items : List Json)
  | object (fields : List (String × Json))

namespace Json

def isObject : Json → Bool
  | .object _ => true
  | _ => false

/-! ## Canonical form -/

mutual

/-- The keys of every object increase strictly. -/
def Canonical : Json → Prop
  | .array items => CanonicalItems items
  | .object fields => SortedKeys fields ∧ CanonicalFields fields
  | _ => True

/-- All items are canonical. -/
def CanonicalItems : List Json → Prop
  | [] => True
  | item :: rest => item.Canonical ∧ CanonicalItems rest

/-- The values of all fields are canonical. -/
def CanonicalFields : List (String × Json) → Prop
  | [] => True
  | (_, value) :: rest => value.Canonical ∧ CanonicalFields rest

end

/-- The fields in the order of their keys; a later field takes the place of an earlier one. -/
def sortFields (fields : List (String × Json)) : List (String × Json) :=
  fields.foldl (fun sorted field => insertEntry field.1 field.2 sorted) []

mutual

/-- The tree with the fields of every object sorted. -/
def canonical : Json → Json
  | .array items => .array (canonicalItems items)
  | .object fields => .object (sortFields (canonicalFields fields))
  | scalar => scalar

/-- Each item in canonical form. -/
def canonicalItems : List Json → List Json
  | [] => []
  | item :: rest => item.canonical :: canonicalItems rest

/-- Each value in canonical form, the fields in the order they had. -/
def canonicalFields : List (String × Json) → List (String × Json)
  | [] => []
  | (key, value) :: rest => (key, value.canonical) :: canonicalFields rest

end

/-- A canonical value goes among canonical ones. -/
theorem CanonicalFields.insertEntry {key : String} {value : Json} (hv : value.Canonical)
    {fields : List (String × Json)} (hf : CanonicalFields fields) :
    CanonicalFields (insertEntry key value fields) := by
  induction fields with
  | nil => exact ⟨hv, trivial⟩
  | cons field rest ih =>
    obtain ⟨k, v⟩ := field
    obtain ⟨h, hr⟩ := hf
    simp only [RowMap.insertEntry]
    split
    · exact ⟨hv, h, hr⟩
    · split
      · exact ⟨hv, hr⟩
      · exact ⟨h, ih hr⟩

/-- Sorting canonical fields sorts their keys. -/
theorem canonical_sortFields {fields : List (String × Json)} (h : CanonicalFields fields) :
    SortedKeys (sortFields fields) ∧ CanonicalFields (sortFields fields) := by
  suffices ∀ (sorted fields : List (String × Json)), SortedKeys sorted → CanonicalFields sorted →
      CanonicalFields fields →
      SortedKeys (fields.foldl (fun sorted field => insertEntry field.1 field.2 sorted) sorted) ∧
        CanonicalFields
          (fields.foldl (fun sorted field => insertEntry field.1 field.2 sorted) sorted) from
    this [] fields List.Pairwise.nil trivial h
  intro sorted fields hs hc hf
  induction fields generalizing sorted with
  | nil => exact ⟨hs, hc⟩
  | cons field rest ih =>
    exact ih _ (hs.insertEntry _ _) (hc.insertEntry hf.1) hf.2

mutual

/-- The canonical form is canonical. -/
theorem canonical_canonical : (j : Json) → j.canonical.Canonical
  | .null | .boolean _ | .number _ | .string _ => trivial
  | .array items => canonical_items items
  | .object fields => canonical_sortFields (canonical_fields fields)

theorem canonical_items : (items : List Json) → CanonicalItems (canonicalItems items)
  | [] => trivial
  | item :: rest => ⟨canonical_canonical item, canonical_items rest⟩

/-- The canonical forms of the values of fields are canonical. -/
theorem canonical_fields : (fields : List (String × Json)) →
    CanonicalFields (canonicalFields fields)
  | [] => trivial
  | (_, value) :: rest => ⟨canonical_canonical value, canonical_fields rest⟩

end

end Json

/-- A JSON value in canonical form. -/
structure Document where
  tree : Json
  canonical : tree.Canonical

namespace Document

/-- The document of a value. -/
def ofJson (j : Json) : Document :=
  ⟨j.canonical, j.canonical_canonical⟩

def isObject (d : Document) : Bool :=
  d.tree.isObject

end Document

end RowMap
