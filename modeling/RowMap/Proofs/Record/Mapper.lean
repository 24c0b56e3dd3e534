import RowMap.Proofs.Except
import RowMap.Proofs.KeyMap
import RowMap.Proofs.Record.Fields
import RowMap.Proofs.Record.KeyStyle
import RowMap.Proofs.Value.Kind
import RowMap.Record.Mapper

/-!
# Records built from maps

A record that was built from a map holds values of the kinds of its attributes (`fromMap_typed`).
Conversely, a map gives a certain record as soon as each of its entries coerces to what the record
holds in the slot that the key of the entry means, and the slots that no key means are unset
(`fromMap_eq_ok`); only keys that mean a slot can set it (`exists_key_of_fromMap`). So a record
comes back from its own map as long as its keys mean the attributes they were written for
(`fromMap_toMap`).
-/

namespace RowMap

open KeyStyle (toUnderscore)

variable {t : RecordType}

/-- Every slot holds a value of the kind of its attribute. -/
def Record.Typed (r : Record t) : Prop :=
  ∀ i, (r.get i).isOf (t.attributes.get i).kind = true

/-- A record without values is typed. -/
theorem Record.typed_unset : (Record.unset t).Typed := by
  intro i
  rw [get_unset]
  rfl

/-- Assigning a value keeps a record typed. -/
theorem Record.Typed.assign {r r' : Record t} {i : Fin t.attributes.length} {value : Value}
    (hr : r.Typed) (h : r.assign i value = .ok r') : r'.Typed := by
  obtain ⟨w, hw, rfl⟩ := map_eq_ok.mp h
  intro j
  rw [get_set]
  split
  · next hij => exact hij ▸ Value.isOf_of_coerce hw
  · exact hr j

namespace Mapper

/-- Assigning a candidate keeps a record typed. -/
theorem assignCandidate_typed {r r' : Record t} {c : String × Candidate}
    (h : assignCandidate r c = .ok r') (hr : r.Typed) : r'.Typed := by
  unfold assignCandidate at h
  split at h
  · exact hr.assign (mapError_eq_ok.mp h)
  · cases h
    exact hr

/-- What the mapper makes is typed. -/
theorem fromMap_typed {m : Mapper} {map : AttributeMap} {underscoreKeys : Bool} {r : Record t}
    (h : m.fromMap t map underscoreKeys = .ok r) : r.Typed := by
  obtain ⟨candidates, -, hassign⟩ := bind_eq_ok.mp h
  exact foldlM_preserves (fun _ _ _ _ => assignCandidate_typed) hassign Record.typed_unset

variable {m : Mapper} {declared : KeyStyle}

section Entries

variable {candidates candidates' : KeyMap Candidate} {e : String × Value}

/-- A known key is weighed against the candidate that is there. -/
theorem resolveEntry_of_known (h : (t.find? (toUnderscore e.1)).isSome) :
    m.resolveEntry t declared candidates e = .ok (candidates.insert (toUnderscore e.1)
      (.choose (candidates.get? (toUnderscore e.1))
        ⟨e.1 = declared.apply (toUnderscore e.1), e.2⟩)) := by
  obtain ⟨i, hfind⟩ := Option.isSome_iff_exists.mp h
  simp only [resolveEntry, RecordType.attribute?, hfind, Option.map_some,
    RecordType.name_of_find? hfind]

/-- An unknown key is an error for a strict mapper only. -/
theorem resolveEntry_of_unknown (h : t.find? (toUnderscore e.1) = none) :
    m.resolveEntry t declared candidates e =
      if m.strict then .error (.unknownAttribute e.1 t.table) else .ok candidates := by
  simp only [resolveEntry, RecordType.attribute?, h, Option.map_none]

/-- An entry is passed over or becomes a candidate. -/
theorem resolveEntry_eq_ok (h : m.resolveEntry t declared candidates e = .ok candidates') :
    t.find? (toUnderscore e.1) = none ∧ m.strict = false ∧ candidates' = candidates ∨
      (t.find? (toUnderscore e.1)).isSome ∧
        candidates' = candidates.insert (toUnderscore e.1)
          (.choose (candidates.get? (toUnderscore e.1))
            ⟨e.1 = declared.apply (toUnderscore e.1), e.2⟩) := by
  cases hfind : t.find? (toUnderscore e.1) with
  | none =>
    rw [resolveEntry_of_unknown hfind] at h
    split at h
    · cases h
    · next hlenient => exact .inl ⟨rfl, Bool.eq_false_iff.mpr hlenient, (Except.ok.inj h).symm⟩
  | some i =>
    rw [resolveEntry_of_known (Option.isSome_of_eq_some hfind)] at h
    exact .inr ⟨rfl, (Except.ok.inj h).symm⟩

/-- The only error of an entry is an unknown key under a strict mapper. -/
theorem resolveEntry_eq_error {fault : MappingFault}
    (h : m.resolveEntry t declared candidates e = .error fault) :
    t.find? (toUnderscore e.1) = none ∧ m.strict = true ∧
      fault = .unknownAttribute e.1 t.table := by
  cases hfind : t.find? (toUnderscore e.1) with
  | none =>
    rw [resolveEntry_of_unknown hfind] at h
    split at h
    · next hstrict => exact ⟨rfl, hstrict, (Except.error.inj h).symm⟩
    · cases h
  | some i =>
    rw [resolveEntry_of_known (Option.isSome_of_eq_some hfind)] at h
    cases h

variable {r r' : Record t} {c : String × Candidate}

theorem assignCandidate_of_unknown (h : t.find? c.1 = none) : assignCandidate r c = .ok r := by
  simp only [assignCandidate, h]

/-- A candidate is assigned if its value can be coerced. -/
theorem assignCandidate_eq_ok_iff {i : Fin t.attributes.length} (hi : t.find? c.1 = some i) :
    assignCandidate r c = .ok r' ↔
      ∃ w, c.2.value.coerce (t.attributes.get i).kind = .ok w ∧ r.set i w = r' := by
  simp only [assignCandidate, hi, Record.assign, mapError_eq_ok, map_eq_ok]

/-- A candidate that cannot be coerced is the error of its attribute. -/
theorem assignCandidate_eq_error {fault : MappingFault} (h : assignCandidate r c = .error fault) :
    ∃ i cause, t.find? c.1 = some i ∧ c.2.value.coerce (t.attributes.get i).kind = .error cause ∧
      fault = .attribute c.1 cause := by
  cases hi : t.find? c.1 with
  | none =>
    rw [assignCandidate_of_unknown hi] at h
    cases h
  | some i =>
    simp only [assignCandidate, hi, Record.assign, mapError_eq_error, map_eq_error] at h
    obtain ⟨cause, hcause, rfl⟩ := h
    exact ⟨i, cause, rfl, hcause, rfl⟩

end Entries

/-! ## Candidates -/

/-- The candidates after some entries: each is the value of an entry whose key means its attribute,
and each attribute that a key means has one. -/
structure Taken (t : RecordType) (entries : List (String × Value))
    (candidates : KeyMap Candidate) : Prop where
  origin : ∀ name c, candidates.get? name = some c →
    ∃ key, (key, c.value) ∈ entries ∧ (t.find? (toUnderscore key)).isSome ∧ toUnderscore key = name
  complete : ∀ key value, (key, value) ∈ entries → (t.find? (toUnderscore key)).isSome →
    (candidates.get? (toUnderscore key)).isSome

theorem taken_nil : Taken t [] KeyMap.empty where
  origin := by simp
  complete := by simp

variable (declared) {entries : List (String × Value)} {candidates : KeyMap Candidate}

/-- A known key adds to what is taken. -/
theorem Taken.choose (h : Taken t entries candidates) {key : String} {value : Value}
    (hkey : (t.find? (toUnderscore key)).isSome) (preferred : Bool) :
    Taken t (entries ++ [(key, value)]) (candidates.insert (toUnderscore key)
      (.choose (candidates.get? (toUnderscore key)) ⟨preferred, value⟩)) where
  origin := by
    intro name c hc
    rw [KeyMap.get?_insert] at hc
    split at hc
    · next hname =>
      subst hname
      have hlast : (key, value) ∈ entries ++ [(key, value)] := by simp
      cases hearlier : candidates.get? (toUnderscore key) with
      | none =>
        rw [hearlier] at hc
        cases hc
        exact ⟨key, hlast, hkey, rfl⟩
      | some earlier =>
        rw [hearlier, Candidate.choose] at hc
        split at hc
        · cases hc
          obtain ⟨key', hmem, hsome, hname⟩ := h.origin _ _ hearlier
          exact ⟨key', List.mem_append_left _ hmem, hsome, hname⟩
        · cases hc
          exact ⟨key, hlast, hkey, rfl⟩
    · obtain ⟨key', hmem, hsome, hname⟩ := h.origin _ _ hc
      exact ⟨key', List.mem_append_left _ hmem, hsome, hname⟩
  complete := by
    intro key' value' hmem hsome
    rw [KeyMap.get?_insert]
    split
    · rfl
    · next hne =>
      rcases List.mem_append.mp hmem with hmem | hmem
      · exact h.complete key' value' hmem hsome
      · cases List.mem_singleton.mp hmem
        exact absurd rfl hne

/-- An unknown key adds nothing to what is taken. -/
theorem Taken.skip (h : Taken t entries candidates) {key : String} {value : Value}
    (hkey : t.find? (toUnderscore key) = none) :
    Taken t (entries ++ [(key, value)]) candidates where
  origin := by
    intro name c hc
    obtain ⟨key', hmem, hsome, hname⟩ := h.origin _ _ hc
    exact ⟨key', List.mem_append_left _ hmem, hsome, hname⟩
  complete := by
    intro key' value' hmem hsome
    rcases List.mem_append.mp hmem with hmem | hmem
    · exact h.complete key' value' hmem hsome
    · cases List.mem_singleton.mp hmem
      rw [hkey] at hsome
      cases hsome

/-- An entry is taken unless its key is unknown to a strict mapper. -/
theorem resolveEntry_taken (h : Taken t entries candidates) {key : String} {value : Value}
    (hkey : m.strict = false ∨ (t.find? (toUnderscore key)).isSome) :
    ∃ candidates', m.resolveEntry t declared candidates (key, value) = .ok candidates' ∧
      Taken t (entries ++ [(key, value)]) candidates' := by
  cases hfind : t.find? (toUnderscore key) with
  | none =>
    have hlenient : ¬m.strict := by simpa [hfind] using hkey
    refine ⟨candidates, ?_, h.skip hfind⟩
    rw [resolveEntry_of_unknown (e := (key, value)) hfind, if_neg hlenient]
  | some i =>
    have hknown : (t.find? (toUnderscore key)).isSome := Option.isSome_of_eq_some hfind
    exact ⟨_, resolveEntry_of_known (e := (key, value)) hknown,
      h.choose hknown (key = declared.apply (toUnderscore key))⟩

/-- Unless a strict mapper meets an unknown key, all entries are taken. -/
theorem foldlM_resolveEntry_taken (h : Taken t entries candidates)
    {more : List (String × Value)}
    (hmore : m.strict = false ∨ ∀ e ∈ more, (t.find? (toUnderscore e.1)).isSome) :
    ∃ candidates', more.foldlM (m.resolveEntry t declared) candidates = .ok candidates' ∧
      Taken t (entries ++ more) candidates' := by
  induction more generalizing entries candidates with
  | nil => exact ⟨candidates, rfl, by rwa [List.append_nil]⟩
  | cons e more ih =>
    obtain ⟨next, hnext, htaken⟩ := resolveEntry_taken declared h
      (hmore.imp_right fun hall => hall e List.mem_cons_self)
    obtain ⟨last, hlast, hall⟩ := ih htaken
      (hmore.imp_right fun hall e he => hall e (List.mem_cons_of_mem _ he))
    refine ⟨last, ?_, by simpa using hall⟩
    rw [List.foldlM_cons]
    exact bind_eq_ok.mpr ⟨next, hnext, hlast⟩

/-- A candidate that coerces to what a record holds brings its slot into accordance with it. -/
theorem assignCandidate_wanted (wanted : Record t) {c : String × Candidate} {r : Record t}
    (h : ∀ i, t.find? c.1 = some i →
      c.2.value.coerce (t.attributes.get i).kind = .ok (wanted.get i)) :
    ∃ r', assignCandidate r c = .ok r' ∧ ∀ i, r'.get i = wanted.get i ∨
      (r'.get i = r.get i ∧ t.find? c.1 ≠ some i) := by
  cases hfind : t.find? c.1 with
  | none =>
    exact ⟨r, assignCandidate_of_unknown hfind, fun i => .inr ⟨rfl, Option.some_ne_none i |>.symm⟩⟩
  | some j =>
    refine ⟨r.set j (wanted.get j), ?_, fun i => ?_⟩
    · exact (assignCandidate_eq_ok_iff hfind).mpr ⟨wanted.get j, h j hfind, rfl⟩
    · rw [Record.get_set]
      split
      · next hji => exact .inl (hji ▸ rfl)
      · next hne => exact .inr ⟨rfl, fun heq => hne (Option.some.inj heq)⟩

/-- If the candidates coerce to what a record holds, they turn any record into this one, except for
the slots that they do not mean. -/
theorem foldlM_assignCandidate (wanted : Record t) {cs : List (String × Candidate)} {r : Record t}
    (h : ∀ c ∈ cs, ∀ i, t.find? c.1 = some i →
      c.2.value.coerce (t.attributes.get i).kind = .ok (wanted.get i)) :
    ∃ r', cs.foldlM assignCandidate r = .ok r' ∧ ∀ i, r'.get i = wanted.get i ∨
      (r'.get i = r.get i ∧ ∀ c ∈ cs, t.find? c.1 ≠ some i) := by
  induction cs generalizing r with
  | nil => exact ⟨r, rfl, fun i => .inr ⟨rfl, by simp⟩⟩
  | cons c cs ih =>
    obtain ⟨next, hnext, hslots⟩ := assignCandidate_wanted wanted (r := r)
      (h c List.mem_cons_self)
    obtain ⟨last, hlast, hrest⟩ := ih (r := next) fun c hc => h c (List.mem_cons_of_mem _ hc)
    refine ⟨last, bind_eq_ok.mpr ⟨next, hnext, hlast⟩, fun i => ?_⟩
    rcases hrest i with hwanted | ⟨hsame, hnone⟩
    · exact .inl hwanted
    · rcases hslots i with hwanted | ⟨hkept, hne⟩
      · exact .inl (hsame.trans hwanted)
      · exact .inr ⟨hsame.trans hkept, List.forall_mem_cons.mpr ⟨hne, hnone⟩⟩

/-- A map that holds the values of a record, each under one or several keys that mean its attribute,
gives this record. -/
theorem fromMap_eq_ok {map : AttributeMap} {underscoreKeys : Bool} {r : Record t}
    (hknown : m.strict = false ∨ ∀ e ∈ map.entries, (t.find? (toUnderscore e.1)).isSome)
    (hset : ∀ e ∈ map.entries, ∀ i, t.find? (toUnderscore e.1) = some i →
      e.2.coerce (t.attributes.get i).kind = .ok (r.get i))
    (hunset : ∀ i, (∀ e ∈ map.entries, t.find? (toUnderscore e.1) ≠ some i) → r.get i = .null) :
    m.fromMap t map underscoreKeys = .ok r := by
  obtain ⟨candidates, hresolve, htaken⟩ := foldlM_resolveEntry_taken
    (if underscoreKeys then .underscore else .camel) taken_nil hknown
  have hcoerce : ∀ c ∈ candidates.entries, ∀ i, t.find? c.1 = some i →
      c.2.value.coerce (t.attributes.get i).kind = .ok (r.get i) := by
    intro c hc i hi
    obtain ⟨key, hmem, -, hname⟩ := htaken.origin c.1 c.2 (KeyMap.get?_eq_some_iff.mpr hc)
    exact hset (key, c.2.value) (by simpa using hmem) i (by rw [hname, hi])
  obtain ⟨r', hassign, hslots⟩ := foldlM_assignCandidate r (r := Record.unset t) hcoerce
  have hr : r' = r := by
    refine Record.ext_get fun i => ?_
    rcases hslots i with hwanted | ⟨hsame, hnone⟩
    · exact hwanted
    · rw [hsame, Record.get_unset]
      refine (hunset i fun e he hi => ?_).symm
      have hsome := htaken.complete e.1 e.2 (by simpa using he) (by rw [hi]; rfl)
      obtain ⟨c, hc⟩ := Option.isSome_iff_exists.mp hsome
      exact hnone (toUnderscore e.1, c) (KeyMap.get?_eq_some_iff.mp hc) hi
  subst hr
  exact bind_eq_ok.mpr ⟨candidates, hresolve, hassign⟩

section Maps

variable {r : Record t}

/-- An entry of a map is an attribute that is set, under its key. -/
theorem mem_toMap {e : String × Value} (h : e ∈ (m.toMap r).entries) :
    ∃ i, r.get i ≠ .null ∧ e = (m.style.apply (t.attributes.get i).name, r.get i) := by
  obtain ⟨f, hf, rfl⟩ := List.mem_map.mp (KeyMap.mem_of_mem_ofList h)
  obtain ⟨hmem, hset⟩ := List.mem_filter.mp hf
  obtain ⟨i, rfl⟩ := Record.mem_fields.mp hmem
  exact ⟨i, Value.isNull_eq_false_iff.mp (by simpa using hset), rfl⟩

/-- Each attribute that is set has its key in the map. -/
theorem exists_entry_toMap {i : Fin t.attributes.length} (hi : r.get i ≠ .null) :
    ∃ e ∈ (m.toMap r).entries, e.1 = m.style.apply (t.attributes.get i).name := by
  have hkey : ((m.toMap r).get? (m.style.apply (t.attributes.get i).name)).isSome := by
    refine KeyMap.isSome_get?_ofList ?_
    rw [List.map_map]
    refine List.mem_map.mpr ⟨(t.attributes.get i, r.get i), ?_, rfl⟩
    rw [List.mem_filter, Value.isNull_eq_false_iff.mpr hi]
    exact ⟨Record.mem_fields.mpr ⟨i, rfl⟩, rfl⟩
  obtain ⟨value, hvalue⟩ := Option.isSome_iff_exists.mp hkey
  exact ⟨(_, value), KeyMap.get?_eq_some_iff.mp hvalue, rfl⟩

/-- A record with values of its kinds comes back from its map if the key of each attribute that is
set means this attribute. -/
theorem fromMap_toMap (hr : r.Typed) {underscoreKeys : Bool}
    (h : ∀ i, r.get i ≠ .null →
      t.find? (toUnderscore (m.style.apply (t.attributes.get i).name)) = some i) :
    m.fromMap t (m.toMap r) underscoreKeys = .ok r := by
  refine fromMap_eq_ok (.inr ?_) ?_ ?_
  · intro e he
    obtain ⟨i, hi, rfl⟩ := mem_toMap he
    exact Option.isSome_of_eq_some (h i hi)
  · intro e he j hj
    obtain ⟨i, hi, rfl⟩ := mem_toMap he
    obtain rfl := Option.some.inj ((h i hi).symm.trans hj)
    exact Value.coerce_of_isOf (hr i)
  · intro i hnone
    by_contra hi
    obtain ⟨e, he, hkey⟩ := exists_entry_toMap (m := m) hi
    exact hnone e he (hkey ▸ h i hi)

end Maps

/-! ## Where values come from -/

/-- A candidate was there before or comes from the entry. -/
theorem name_of_resolveEntry {e : String × Value} {candidates' : KeyMap Candidate}
    (h : m.resolveEntry t declared candidates e = .ok candidates') {name : String} {c : Candidate}
    (hc : candidates'.get? name = some c) :
    (candidates.get? name).isSome ∨ toUnderscore e.1 = name := by
  rcases resolveEntry_eq_ok h with ⟨-, -, rfl⟩ | ⟨-, rfl⟩
  · exact .inl (Option.isSome_of_eq_some hc)
  · rw [KeyMap.get?_insert] at hc
    split at hc
    · next hname => exact .inr hname.symm
    · exact .inl (Option.isSome_of_eq_some hc)

/-- A slot that is set was set before or belongs to the candidate. -/
theorem slot_of_assignCandidate {c : String × Candidate} {r r' : Record t}
    (h : assignCandidate r c = .ok r') {i : Fin t.attributes.length} (hi : r'.get i ≠ .null) :
    r.get i ≠ .null ∨ t.find? c.1 = some i := by
  cases hfind : t.find? c.1 with
  | none =>
    rw [assignCandidate_of_unknown hfind] at h
    cases h
    exact .inl hi
  | some j =>
    obtain ⟨w, -, rfl⟩ := (assignCandidate_eq_ok_iff hfind).mp h
    rw [Record.get_set] at hi
    split at hi
    · next hji => exact .inr (hji ▸ rfl)
    · exact .inl hi

/-- A slot is only set because of a key that means it. -/
theorem exists_key_of_fromMap {map : AttributeMap} {underscoreKeys : Bool} {r : Record t}
    (h : m.fromMap t map underscoreKeys = .ok r) {i : Fin t.attributes.length}
    (hi : r.get i ≠ .null) : ∃ e ∈ map.entries, t.find? (toUnderscore e.1) = some i := by
  obtain ⟨candidates, hresolve, hassign⟩ := bind_eq_ok.mp h
  have hcandidates : ∀ name c, candidates.get? name = some c →
      ∃ e ∈ map.entries, toUnderscore e.1 = name := by
    refine foldlM_preserves (P := fun candidates => ∀ name c, candidates.get? name = some c →
      ∃ e ∈ map.entries, toUnderscore e.1 = name) ?_ hresolve (by simp)
    intro e he before after hstep hbefore name c hc
    rcases name_of_resolveEntry _ hstep hc with hearlier | hname
    · obtain ⟨c', hc'⟩ := Option.isSome_iff_exists.mp hearlier
      exact hbefore name c' hc'
    · exact ⟨e, he, hname⟩
  have hslots : ∀ j, r.get j ≠ .null → ∃ c ∈ candidates.entries, t.find? c.1 = some j := by
    refine foldlM_preserves (P := fun r => ∀ j, r.get j ≠ .null →
      ∃ c ∈ candidates.entries, t.find? c.1 = some j) ?_ hassign
      fun j hj => absurd (Record.get_unset j) hj
    intro c hc before after hstep hbefore j hj
    rcases slot_of_assignCandidate hstep hj with hearlier | hfind
    · exact hbefore j hearlier
    · exact ⟨c, hc, hfind⟩
  obtain ⟨c, hc, hfind⟩ := hslots i hi
  obtain ⟨e, he, hname⟩ := hcandidates c.1 c.2 (KeyMap.get?_eq_some_iff.mpr hc)
  exact ⟨e, he, hname.symm ▸ hfind⟩

end Mapper

end RowMap
