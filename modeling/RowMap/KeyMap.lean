/-!
# Maps with text keys

A map is a list of entries whose keys increase strictly, compared character by character. Each map
so has one form, and reading its entries in order is reading them in the order of their keys.

`KeyMap.get?_insert` says what an insertion does to a look-up.
-/

namespace RowMap

variable {α : Type}

/-- The keys increase strictly. -/
def SortedKeys (entries : List (String × α)) : Prop :=
  entries.Pairwise fun a b => a.1 < b.1

/-- Puts an entry in its place, instead of one with the same key if there is one. -/
def insertEntry (key : String) (value : α) : List (String × α) → List (String × α)
  | [] => [(key, value)]
  | (k, v) :: rest =>
    if key < k then (key, value) :: (k, v) :: rest
    else if key = k then (key, value) :: rest
    else (k, v) :: insertEntry key value rest

/-- The value of a key. -/
def lookupKey? (key : String) (entries : List (String × α)) : Option α :=
  (entries.find? (·.1 = key)).map Prod.snd

/-- An inserted entry is the only new one. -/
theorem mem_insertEntry {key : String} {value : α} {entries : List (String × α)}
    {e : String × α} (h : e ∈ insertEntry key value entries) : e = (key, value) ∨ e ∈ entries := by
  induction entries with
  | nil => simpa [insertEntry] using h
  | cons entry rest ih => grind [insertEntry]

/-- Inserting keeps the keys sorted. -/
theorem SortedKeys.insertEntry {entries : List (String × α)} (h : SortedKeys entries)
    (key : String) (value : α) : SortedKeys (insertEntry key value entries) := by
  induction entries with
  | nil => simp [SortedKeys, RowMap.insertEntry]
  | cons entry rest ih =>
    obtain ⟨k, v⟩ := entry
    obtain ⟨first, later⟩ := List.pairwise_cons.mp h
    simp only [RowMap.insertEntry]
    split
    · rename_i hlt
      refine List.pairwise_cons.mpr ⟨fun e he => ?_, h⟩
      rcases List.mem_cons.mp he with rfl | he
      · exact hlt
      · exact String.lt_trans hlt (first e he)
    · split
      · rename_i heq
        exact List.pairwise_cons.mpr ⟨fun e he => heq ▸ first e he, later⟩
      · refine List.pairwise_cons.mpr ⟨fun e he => ?_, ih later⟩
        rcases mem_insertEntry he with rfl | he
        · grind
        · exact first e he

/-- Inserting changes the value of its own key only. -/
theorem lookupKey?_insertEntry (key query : String) (value : α)
    (entries : List (String × α)) :
    lookupKey? query (insertEntry key value entries) =
      if query = key then some value else lookupKey? query entries := by
  induction entries with
  | nil => grind [insertEntry, lookupKey?]
  | cons entry rest ih => grind [insertEntry, lookupKey?]

/-- A finite map from text keys. -/
structure KeyMap (α : Type) where
  entries : List (String × α)
  sorted : SortedKeys entries

namespace KeyMap

/-- No entries. -/
def empty : KeyMap α :=
  ⟨[], List.Pairwise.nil⟩

/-- An entry at its place; it takes the place of one with the same key. -/
def insert (m : KeyMap α) (key : String) (value : α) : KeyMap α :=
  ⟨insertEntry key value m.entries, m.sorted.insertEntry key value⟩

/-- The value of a key. -/
def get? (m : KeyMap α) (key : String) : Option α :=
  lookupKey? key m.entries

/-- The map of a list of entries; of entries with the same key the last one counts. -/
def ofList (entries : List (String × α)) : KeyMap α :=
  entries.foldl (fun m e => m.insert e.1 e.2) empty

@[simp] theorem get?_empty (key : String) : (empty : KeyMap α).get? key = none := rfl

theorem get?_insert (m : KeyMap α) (key query : String) (value : α) :
    (m.insert key value).get? query = if query = key then some value else m.get? query :=
  lookupKey?_insertEntry key query value m.entries

end KeyMap

end RowMap
