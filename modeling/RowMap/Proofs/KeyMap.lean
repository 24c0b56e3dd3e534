import RowMap.KeyMap

/-!
# Entries of maps

Looking up a key finds the entry with this key, of which there is at most one (`get?_eq_some_iff`).
The map of a list has entries of the list only, and one for each of its keys; it has all of them if
no two have the same key (`KeyMap.perm_ofList`).

Entries that come in the order of their keys are put behind one another, so a map that is built from
sorted entries has just these entries.
-/

namespace RowMap

variable {α β : Type}

/-- Among sorted entries a key is found with its value. -/
theorem lookupKey?_eq_some_iff {entries : List (String × α)} (h : SortedKeys entries)
    {key : String} {value : α} :
    lookupKey? key entries = some value ↔ (key, value) ∈ entries := by
  induction entries with
  | nil => simp [lookupKey?]
  | cons entry rest ih =>
    obtain ⟨k, v⟩ := entry
    obtain ⟨first, later⟩ := List.pairwise_cons.mp h
    by_cases hk : k = key
    · subst hk
      have hother : (k, value) ∉ rest := fun hmem => String.lt_irrefl k (first (k, value) hmem)
      simp [lookupKey?, hother, eq_comm]
    · have hskip : lookupKey? key ((k, v) :: rest) = lookupKey? key rest := by
        simp [lookupKey?, hk]
      rw [hskip, ih later]
      simp [Ne.symm hk]

/-- Among sorted entries a key has one value. -/
theorem SortedKeys.eq_of_mem {entries : List (String × α)} (h : SortedKeys entries) {key : String}
    {v w : α} (hv : (key, v) ∈ entries) (hw : (key, w) ∈ entries) : v = w := by
  rw [← lookupKey?_eq_some_iff h] at hv hw
  exact Option.some.inj (hv.symm.trans hw)

theorem KeyMap.get?_eq_some_iff {m : KeyMap α} {key : String} {value : α} :
    m.get? key = some value ↔ (key, value) ∈ m.entries :=
  lookupKey?_eq_some_iff m.sorted

namespace KeyMap

/-- Every entry was there before or is in the list. -/
theorem mem_foldl_insert {e : String × α} {l : List (String × α)} {m : KeyMap α}
    (h : e ∈ (l.foldl (fun m e => m.insert e.1 e.2) m).entries) : e ∈ m.entries ∨ e ∈ l := by
  induction l generalizing m with
  | nil => exact .inl h
  | cons first l ih =>
    rcases ih h with h | h
    · rcases mem_insertEntry h with rfl | h
      · exact .inr List.mem_cons_self
      · exact .inl h
    · exact .inr (List.mem_cons_of_mem _ h)

/-- Every entry of the map is in the list. -/
theorem mem_of_mem_ofList {e : String × α} {l : List (String × α)}
    (h : e ∈ (ofList l).entries) : e ∈ l := by
  rcases mem_foldl_insert h with h | h
  · cases h
  · exact h

/-- Every key that was there or is in the list is found. -/
theorem isSome_get?_foldl {key : String} {l : List (String × α)} {m : KeyMap α}
    (h : (m.get? key).isSome ∨ key ∈ l.map Prod.fst) :
    ((l.foldl (fun m e => m.insert e.1 e.2) m).get? key).isSome := by
  induction l generalizing m with
  | nil => simpa using h
  | cons first l ih =>
    refine ih ?_
    rw [get?_insert]
    by_cases hkey : key = first.1
    · simp [hkey]
    · simpa [hkey] using h

theorem isSome_get?_ofList {key : String} {l : List (String × α)} (h : key ∈ l.map Prod.fst) :
    ((ofList l).get? key).isSome :=
  isSome_get?_foldl (.inr h)

end KeyMap

/-- An entry with a new key replaces no other. -/
theorem perm_insertEntry {key : String} (value : α) {entries : List (String × α)}
    (h : key ∉ entries.map Prod.fst) :
    (insertEntry key value entries).Perm ((key, value) :: entries) := by
  induction entries with
  | nil => exact .refl _
  | cons entry rest ih =>
    obtain ⟨k, v⟩ := entry
    obtain ⟨hne, hrest⟩ := not_or.mp (mt List.mem_cons.mpr h)
    rw [insertEntry, if_neg (show key ≠ k from hne)]
    split
    · exact .refl _
    · exact ((ih hrest).cons (k, v)).trans (.swap ..)

namespace KeyMap

/-- With distinct keys no entry of the list is lost. -/
theorem perm_foldl_insert {l : List (String × α)} {m : KeyMap α}
    (h : ((m.entries ++ l).map Prod.fst).Nodup) :
    (l.foldl (fun m e => m.insert e.1 e.2) m).entries.Perm (m.entries ++ l) := by
  induction l generalizing m with
  | nil => rw [List.foldl_nil, List.append_nil]
  | cons first l ih =>
    have hnew : first.1 ∉ m.entries.map Prod.fst := by
      rw [List.map_append, List.nodup_append] at h
      exact fun hmem => h.2.2 first.1 hmem first.1 List.mem_cons_self rfl
    have hinsert : ((m.insert first.1 first.2).entries ++ l).Perm (m.entries ++ first :: l) :=
      ((perm_insertEntry first.2 hnew).append_right l).trans List.perm_middle.symm
    exact (ih ((hinsert.map Prod.fst).nodup_iff.mpr h)).trans hinsert

/-- The map of a list in which no key is twice has just the entries of the list. -/
theorem perm_ofList {l : List (String × α)} (h : (l.map Prod.fst).Nodup) :
    (ofList l).entries.Perm l :=
  perm_foldl_insert (m := empty) h

end KeyMap

/-- An entry whose key is beyond all others goes to the end. -/
theorem insertEntry_concat {key : String} (value : α) {entries : List (String × α)}
    (h : ∀ e ∈ entries, e.1 < key) : insertEntry key value entries = entries ++ [(key, value)] := by
  induction entries with
  | nil => rfl
  | cons entry rest ih =>
    obtain ⟨k, v⟩ := entry
    obtain ⟨hk, hr⟩ := List.forall_mem_cons.mp h
    have hlt : ¬ key < k := String.lt_asymm hk
    have hne : key ≠ k := by
      rintro rfl
      exact String.lt_irrefl _ hk
    rw [insertEntry, if_neg hlt, if_neg hne, ih hr, List.cons_append]

/-- The keys in front of an entry are smaller. -/
theorem SortedKeys.lt_of_append {first rest : List (String × α)} {entry : String × α}
    (h : SortedKeys (first ++ entry :: rest)) : ∀ e ∈ first, e.1 < entry.1 := by
  intro e he
  exact (List.pairwise_append.mp h).2.2 e he entry List.mem_cons_self

/-- An entry comes before all others but those in front of it. -/
theorem SortedKeys.le_of_not_mem {first rest : List (String × α)} {entry e : String × α}
    (h : SortedKeys (first ++ entry :: rest)) (he : e ∈ first ++ entry :: rest)
    (hfirst : e ∉ first) : entry.1 ≤ e.1 := by
  rcases List.mem_cons.mp ((List.mem_append.mp he).resolve_left hfirst) with rfl | hrest
  · exact String.le_refl _
  · have hlt := (List.pairwise_cons.mp (List.pairwise_append.mp h).2.1).1 e hrest
    exact String.not_lt.mp (String.lt_asymm hlt)

/-- Sorted entries are inserted one behind the other. -/
theorem foldl_insertEntry {first rest : List (String × α)} (h : SortedKeys (first ++ rest)) :
    rest.foldl (fun sorted e => insertEntry e.1 e.2 sorted) first = first ++ rest := by
  induction rest generalizing first with
  | nil => rw [List.foldl_nil, List.append_nil]
  | cons entry rest ih =>
    rw [List.foldl_cons, insertEntry_concat _ h.lt_of_append, ih (by simpa using h)]
    simp

end RowMap
