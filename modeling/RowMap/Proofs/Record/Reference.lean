import RowMap.Proofs.Record.Mapper
import RowMap.Proofs.Text.Order

/-!
# Which record a map makes

`Reference` says what becomes of a map without telling how to compute it. Strict mappers refuse the
least unknown key. Otherwise there is at most one value for each attribute name: that under the
declared spelling, or that under the greatest key (`Chosen`). The least name whose value cannot be
coerced decides the error, and if there is none, the values are in the first slots of their names.

The mapper computes just this (`fromMapOn_eq_iff`). Both of its loops go through sorted entries, so
what they are to have done is said of the entries so far, and the last of these is the greatest.
-/

namespace RowMap

open KeyStyle (toUnderscore)
open Text (bytes)

variable {t : RecordType}

namespace Mapper

/-- A key belongs to the first attribute of a name. -/
def Owns (t : RecordType) (name key : String) : Prop :=
  toUnderscore key = name ∧ (t.find? name).isSome

/-- Of all entries whose keys belong to an attribute, the one that gives its value: the entry in the
declared spelling if there is one, and else that with the greatest key. -/
inductive Chosen (t : RecordType) (declared : KeyStyle) (entries : List (String × Value))
    (name : String) : Candidate → Prop
  | declared {value : Value} (howns : Owns t name (declared.apply name))
    (h : (declared.apply name, value) ∈ entries) : Chosen t declared entries name ⟨true, value⟩
  | greatest {key : String} {value : Value} (howns : Owns t name key) (h : (key, value) ∈ entries)
    (hother : ∀ e ∈ entries, Owns t name e.1 → e.1 ≠ declared.apply name)
    (hlast : ∀ e ∈ entries, Owns t name e.1 → bytes e.1 ≤ bytes key) :
    Chosen t declared entries name ⟨false, value⟩

/-- No key is refused. -/
def Known (m : Mapper) (t : RecordType) (entries : List (String × Value)) : Prop :=
  m.strict = true → ∀ e ∈ entries, (t.find? (toUnderscore e.1)).isSome

/-- An attribute name has a value that cannot be coerced to the kind of its attribute. -/
def Fails (t : RecordType) (declared : KeyStyle) (entries : List (String × Value)) (name : String)
    (cause : CoercionError) : Prop :=
  ∃ i c, t.find? name = some i ∧ Chosen t declared entries name c ∧
    c.value.coerce (t.attributes.get i).kind = .error cause

/-- What becomes of a default record and a map. -/
inductive Reference (m : Mapper) (default : Record t) (declared : KeyStyle) (map : AttributeMap) :
    Except MappingFault (Record t) → Prop
  | unknown {key : String} {value : Value} (hstrict : m.strict = true)
    (h : (key, value) ∈ map.entries) (hunknown : t.find? (toUnderscore key) = none)
    (hleast : ∀ e ∈ map.entries, t.find? (toUnderscore e.1) = none →
      bytes key ≤ bytes e.1) :
    Reference m default declared map (.error (.unknownAttribute key t.table))
  | uncoercible {name : String} {cause : CoercionError} (hknown : m.Known t map.entries)
    (h : Fails t declared map.entries name cause)
    (hleast : ∀ other cause, Fails t declared map.entries other cause →
      bytes name ≤ bytes other) :
    Reference m default declared map (.error (.attribute name cause))
  | built {r : Record t} (hknown : m.Known t map.entries)
    (hset : ∀ i c, t.find? (t.attributes.get i).name = some i →
      Chosen t declared map.entries (t.attributes.get i).name c →
      c.value.coerce (t.attributes.get i).kind = .ok (r.get i))
    (hkept : ∀ i, (t.find? (t.attributes.get i).name = some i →
      ∀ c, ¬Chosen t declared map.entries (t.attributes.get i).name c) →
      r.get i = default.get i) :
    Reference m default declared map (.ok r)

/-! ## There is only one reference -/

variable {m : Mapper} {declared : KeyStyle} {entries : List (String × Value)} {name : String}

/-- Only an attribute of the type has a chosen entry. -/
theorem Chosen.owned {c : Candidate} (h : Chosen t declared entries name c) :
    (t.find? name).isSome := by
  cases h with
  | declared howns | greatest howns => exact howns.2

/-- An attribute has one chosen entry. -/
theorem Chosen.unique (hsorted : SortedKeys entries) {c d : Candidate}
    (hc : Chosen t declared entries name c) (hd : Chosen t declared entries name d) : c = d := by
  cases hc with
  | declared howns h =>
    cases hd with
    | declared howns' h' => rw [hsorted.eq_of_mem h h']
    | greatest howns' h' hother => exact absurd rfl (hother _ h howns)
  | greatest howns h hother hlast =>
    cases hd with
    | declared howns' h' => exact absurd rfl (hother _ h' howns')
    | greatest howns' h' hother' hlast' =>
      obtain rfl := Text.bytes_le_antisymm (hlast' _ h howns) (hlast _ h' howns')
      rw [hsorted.eq_of_mem h h']

/-- An attribute fails for one cause. -/
theorem Fails.cause_unique (hsorted : SortedKeys entries) {cause cause' : CoercionError}
    (h : Fails t declared entries name cause) (h' : Fails t declared entries name cause') :
    cause = cause' := by
  obtain ⟨i, c, hi, hc, herr⟩ := h
  obtain ⟨i', c', hi', hc', herr'⟩ := h'
  obtain rfl := Option.some.inj (hi.symm.trans hi')
  obtain rfl := hc.unique hsorted hc'
  exact Except.error.inj (herr.symm.trans herr')

/-- A map has one reference. -/
theorem Reference.unique {default : Record t} {map : AttributeMap}
    {x y : Except MappingFault (Record t)} (hx : Reference m default declared map x)
    (hy : Reference m default declared map y) : x = y := by
  have hrefused {key : String} {value : Value} (hstrict : m.strict = true)
      (h : (key, value) ∈ map.entries) (hunknown : t.find? (toUnderscore key) = none) :
      ¬m.Known t map.entries := by
    intro hknown
    have hsome := hknown hstrict _ h
    rw [hunknown] at hsome
    cases hsome
  have hcoerced {name : String} {cause : CoercionError}
      (h : Fails t declared map.entries name cause) {r : Record t}
      (hset : ∀ i c, t.find? (t.attributes.get i).name = some i →
        Chosen t declared map.entries (t.attributes.get i).name c →
        c.value.coerce (t.attributes.get i).kind = .ok (r.get i)) : False := by
    obtain ⟨i, c, hi, hc, herr⟩ := h
    obtain rfl := RecordType.name_of_find? hi
    rw [hset i c hi hc] at herr
    cases herr
  cases hx with
  | unknown hstrict h hunknown hleast =>
    cases hy with
    | unknown _ h' hunknown' hleast' =>
      rw [Text.bytes_le_antisymm (hleast _ h' hunknown') (hleast' _ h hunknown)]
    | uncoercible hknown | built hknown => exact absurd hknown (hrefused hstrict h hunknown)
  | uncoercible hknown h hleast =>
    cases hy with
    | unknown hstrict h' hunknown => exact absurd hknown (hrefused hstrict h' hunknown)
    | uncoercible _ h' hleast' =>
      obtain rfl := Text.bytes_le_antisymm (hleast _ _ h') (hleast' _ _ h)
      rw [h.cause_unique map.sorted h']
    | built _ hset => exact (hcoerced h hset).elim
  | built hknown hset hkept =>
    cases hy with
    | unknown hstrict h hunknown => exact absurd hknown (hrefused hstrict h hunknown)
    | uncoercible _ h => exact (hcoerced h hset).elim
    | built _ hset' hkept' =>
      -- A slot is coerced from the chosen entry of its attribute or left as it was before.
      refine congrArg Except.ok (Record.ext_get fun i => ?_)
      by_cases hi : t.find? (t.attributes.get i).name = some i ∧
          ∃ c, Chosen t declared map.entries (t.attributes.get i).name c
      · obtain ⟨hfirst, c, hc⟩ := hi
        exact Except.ok.inj ((hset i c hfirst hc).symm.trans (hset' i c hfirst hc))
      · have hnone (hfirst : t.find? (t.attributes.get i).name = some i) (c : Candidate) :
            ¬Chosen t declared map.entries (t.attributes.get i).name c :=
          fun hc => hi ⟨hfirst, c, hc⟩
        rw [hkept i hnone, hkept' i hnone]

/-! ## Looking up keys -/

variable {candidates candidates' : KeyMap Candidate} {e : String × Value}

/-- The candidates after some entries. -/
def Resolved (t : RecordType) (declared : KeyStyle) (entries : List (String × Value))
    (candidates : KeyMap Candidate) : Prop :=
  ∀ name c, candidates.get? name = some c ↔ Chosen t declared entries name c

/-- No entry resolves to no candidate. -/
theorem resolved_nil : Resolved t declared [] KeyMap.empty := by
  intro name c
  rw [KeyMap.get?_empty]
  exact ⟨nofun, fun h => by cases h <;> contradiction⟩

/-- Only the entries matter whose keys belong to the attribute. -/
theorem Chosen.congr {entries' : List (String × Value)}
    (h : ∀ key value, Owns t name key → ((key, value) ∈ entries ↔ (key, value) ∈ entries'))
    {c : Candidate} (hc : Chosen t declared entries name c) :
    Chosen t declared entries' name c := by
  cases hc with
  | declared howns hmem => exact .declared howns ((h _ _ howns).mp hmem)
  | greatest howns hmem hother hlast =>
    exact .greatest howns ((h _ _ howns).mp hmem)
      (fun e he howns' => hother e ((h e.1 e.2 howns').mpr he) howns')
      (fun e he howns' => hlast e ((h e.1 e.2 howns').mpr he) howns')

/-- An entry for another attribute does not matter. -/
theorem chosen_concat_iff (h : ¬Owns t name e.1) {c : Candidate} :
    Chosen t declared (entries ++ [e]) name c ↔ Chosen t declared entries name c := by
  have hmem (key : String) (value : Value) (howns : Owns t name key) :
      (key, value) ∈ entries ++ [e] ↔ (key, value) ∈ entries := by
    rw [List.mem_append, List.mem_singleton]
    refine or_iff_left fun heq => h ?_
    rw [← heq]
    exact howns
  exact ⟨.congr hmem, .congr fun key value howns => (hmem key value howns).symm⟩

/-- The last entry so far is chosen, unless another one has the declared spelling. -/
theorem Resolved.choose (h : Resolved t declared entries candidates)
    (hsorted : SortedKeys (entries ++ [e])) (howns : Owns t name e.1) :
    Chosen t declared (entries ++ [e]) name
      (.choose (candidates.get? name) ⟨e.1 = declared.apply name, e.2⟩) := by
  obtain ⟨key, value⟩ := e
  have hlast : (key, value) ∈ entries ++ [(key, value)] := List.mem_concat_self
  by_cases hkey : key = declared.apply name
  · have hchoose : Candidate.choose (candidates.get? name) ⟨key = declared.apply name, value⟩ =
        ⟨true, value⟩ := by
      cases candidates.get? name <;> simp [Candidate.choose, hkey]
    rw [hchoose]
    exact .declared (hkey ▸ howns) (hkey ▸ hlast)
  · by_cases hearlier : ∃ earlier, (declared.apply name, earlier) ∈ entries ∧
        Owns t name (declared.apply name)
    · obtain ⟨earlier, hmem, howns'⟩ := hearlier
      rw [(h name _).mpr (.declared howns' hmem)]
      simp only [Candidate.choose, hkey, decide_false, Bool.not_false, Bool.and_self, if_true]
      exact .declared howns' (List.mem_append_left _ hmem)
    · have hchoose : Candidate.choose (candidates.get? name) ⟨key = declared.apply name, value⟩ =
          ⟨false, value⟩ := by
        cases hget : candidates.get? name with
        | none => simp [Candidate.choose, hkey]
        | some earlier =>
          cases (h name earlier).mp hget with
          | declared howns' hmem => exact absurd ⟨_, hmem, howns'⟩ hearlier
          | greatest => simp [Candidate.choose, hkey]
      rw [hchoose]
      refine .greatest howns hlast (fun e' he' howns' heq => ?_) (fun e' he' _ => ?_)
      · rcases List.mem_append.mp he' with he' | he'
        · exact hearlier ⟨e'.2, heq ▸ he', heq ▸ howns'⟩
        · rw [List.mem_singleton.mp he'] at heq
          exact hkey heq
      · rcases List.mem_append.mp he' with he' | he'
        · exact List.le_of_lt (Text.bytes_lt (hsorted.lt_of_append e' he'))
        · rw [List.mem_singleton.mp he']
          exact List.le_refl _

/-- One more entry. -/
theorem Resolved.step (h : Resolved t declared entries candidates)
    (hsorted : SortedKeys (entries ++ [e]))
    (hstep : m.resolveEntry t declared candidates e = .ok candidates') :
    Resolved t declared (entries ++ [e]) candidates' := by
  intro name c
  rcases resolveEntry_eq_ok hstep with ⟨hnone, -, rfl⟩ | ⟨hsome, rfl⟩
  · rw [chosen_concat_iff, h name c]
    rintro ⟨rfl, hsome⟩
    rw [hnone] at hsome
    cases hsome
  · rw [KeyMap.get?_insert]
    by_cases hname : name = toUnderscore e.1
    · subst hname
      have hchosen := h.choose hsorted ⟨rfl, hsome⟩
      rw [if_pos rfl, Option.some.injEq]
      exact ⟨fun heq => heq ▸ hchosen, hchosen.unique hsorted⟩
    · rw [if_neg hname, chosen_concat_iff fun howns => hname howns.1.symm]
      exact h name c

/-- More entries are resolved one by one. -/
theorem Resolved.foldlM {more : List (String × Value)} (h : Resolved t declared entries candidates)
    (hsorted : SortedKeys (entries ++ more))
    (hfold : more.foldlM (m.resolveEntry t declared) candidates = .ok candidates') :
    Resolved t declared (entries ++ more) candidates' := by
  induction more generalizing entries candidates with
  | nil =>
    cases pure_eq_ok.mp hfold
    rwa [List.append_nil]
  | cons e more ih =>
    rw [List.foldlM_cons] at hfold
    obtain ⟨next, hstep, hrest⟩ := bind_eq_ok.mp hfold
    rw [List.append_cons] at hsorted ⊢
    exact ih (h.step (hsorted.sublist (List.sublist_append_left ..)) hstep) hsorted hrest

variable {r r' : Record t} {c : String × Candidate} {cs : List (String × Candidate)}

/-- A candidate comes to lie in the first slot of its name, and all other slots stay as they are. -/
theorem assigned_of_find? {i : Fin t.attributes.length} (hi : t.find? c.1 = some i)
    (h : assignCandidate r c = .ok r') :
    c.2.value.coerce (t.attributes.get i).kind = .ok (r'.get i) ∧
      ∀ j, t.find? c.1 ≠ some j → r'.get j = r.get j := by
  obtain ⟨w, hw, rfl⟩ := (assignCandidate_eq_ok_iff hi).mp h
  refine ⟨by rw [Record.get_set, if_pos rfl, hw], fun j hj => ?_⟩
  have hij : i ≠ j := by
    rintro rfl
    exact hj hi
  rw [Record.get_set, if_neg hij]

/-- Candidates for several names come to lie in the first slots of these, and all other slots stay
as they are. -/
theorem foldlM_assignCandidate_eq_ok (hsorted : SortedKeys cs)
    (hnames : ∀ c ∈ cs, (t.find? c.1).isSome) (h : cs.foldlM assignCandidate r = .ok r') :
    (∀ c ∈ cs, ∀ i, t.find? c.1 = some i →
        c.2.value.coerce (t.attributes.get i).kind = .ok (r'.get i)) ∧
      ∀ i, (∀ c ∈ cs, t.find? c.1 ≠ some i) → r'.get i = r.get i := by
  induction cs generalizing r with
  | nil =>
    cases pure_eq_ok.mp h
    exact ⟨List.forall_mem_nil _, fun _ _ => rfl⟩
  | cons c cs ih =>
    rw [List.foldlM_cons] at h
    obtain ⟨next, hstep, hrest⟩ := bind_eq_ok.mp h
    obtain ⟨hfirst, hlater⟩ := List.pairwise_cons.mp hsorted
    obtain ⟨hname, hnames⟩ := List.forall_mem_cons.mp hnames
    obtain ⟨i, hi⟩ := Option.isSome_iff_exists.mp hname
    obtain ⟨hcoerce, hkept⟩ := assigned_of_find? hi hstep
    obtain ⟨hset, hsame⟩ := ih hlater hnames hrest
    refine ⟨List.forall_mem_cons.mpr ⟨fun j hj => ?_, hset⟩, fun j hj => ?_⟩
    · obtain rfl := Option.some.inj (hi.symm.trans hj)
      -- No later candidate has the same name, so the slot keeps what it has got.
      rw [hsame i fun c' hc' hi' => ?_]
      · exact hcoerce
      · have hlt := hfirst c' hc'
        rw [← RecordType.name_of_find? hi, ← RecordType.name_of_find? hi'] at hlt
        exact String.lt_irrefl _ hlt
    · obtain ⟨hne, hnone⟩ := List.forall_mem_cons.mp hj
      exact (hsame j hnone).trans (hkept j hne)

/-! ## The mapper -/

section Sound

variable {default : Record t} {map : AttributeMap}

/-- If all entries are resolved, the mapper knows all keys. -/
theorem known_of_foldlM
    (h : entries.foldlM (m.resolveEntry t declared) candidates = .ok candidates') :
    m.Known t entries := by
  intro hstrict e he
  obtain ⟨_, _, hstep⟩ := exists_step_of_foldlM h he
  rcases resolveEntry_eq_ok hstep with ⟨-, hlenient, -⟩ | ⟨hsome, -⟩
  · rw [hstrict] at hlenient
    cases hlenient
  · exact hsome

/-- The first key that is refused is the least unknown one. -/
theorem reference_unknown {fault : MappingFault}
    (h : map.entries.foldlM (m.resolveEntry t declared) KeyMap.empty = .error fault) :
    Reference m default declared map (.error fault) := by
  obtain ⟨before, e, after, _, hentries, hbefore, hfail⟩ := foldlM_eq_error h
  obtain ⟨hunknown, hstrict, rfl⟩ := resolveEntry_eq_error hfail
  have hsorted := map.sorted
  have hmem : e ∈ map.entries := by simp [hentries]
  rw [hentries] at hsorted
  refine .unknown hstrict hmem hunknown fun e' he' hnone => ?_
  rw [hentries] at he'
  refine Text.le_iff_bytes_le.mp (hsorted.le_of_not_mem he' fun hfirst => ?_)
  have hsome := known_of_foldlM hbefore hstrict e' hfirst
  rw [hnone] at hsome
  cases hsome

/-- The first candidate that is not coerced is that of the least name. -/
theorem reference_resolved (hknown : m.Known t map.entries)
    (hresolved : Resolved t declared map.entries candidates) :
    Reference m default declared map (candidates.entries.foldlM assignCandidate default) := by
  have hchosen {name : String} {c : Candidate} :
      (name, c) ∈ candidates.entries ↔ Chosen t declared map.entries name c := by
    rw [← KeyMap.get?_eq_some_iff]
    exact hresolved name c
  cases hassign : candidates.entries.foldlM assignCandidate default with
  | error fault =>
    obtain ⟨before, ⟨name, c⟩, after, _, hentries, hbefore, hfail⟩ := foldlM_eq_error hassign
    obtain ⟨i, cause, hi, hcause, rfl⟩ := assignCandidate_eq_error hfail
    have hmem : (name, c) ∈ candidates.entries := by simp [hentries]
    refine .uncoercible hknown ⟨i, c, hi, hchosen.mp hmem, hcause⟩ ?_
    rintro other _ ⟨j, d, hj, hd, herr⟩
    have hsorted := candidates.sorted
    have hother := hchosen.mpr hd
    rw [hentries] at hsorted hother
    refine Text.le_iff_bytes_le.mp (hsorted.le_of_not_mem hother fun hfirst => ?_)
    obtain ⟨_, _, hstep⟩ := exists_step_of_foldlM hbefore hfirst
    obtain ⟨hcoerce, -⟩ := assigned_of_find? hj hstep
    rw [herr] at hcoerce
    cases hcoerce
  | ok r =>
    obtain ⟨hset, hkept⟩ := foldlM_assignCandidate_eq_ok candidates.sorted
      (fun c hc => (hchosen.mp hc).owned) hassign
    refine .built hknown (fun i c hi hc => hset _ (hchosen.mpr hc) i hi) fun i hnone => ?_
    refine hkept i fun c hc hi => ?_
    rw [RecordType.name_of_find? hi] at hnone
    exact hnone hi c.2 (hchosen.mp hc)

variable (m default map) in
theorem reference_fromMapOn (underscoreKeys : Bool) :
    Reference m default (if underscoreKeys then .underscore else .camel) map
      (m.fromMapOn default map underscoreKeys) := by
  show Reference m default _ map (map.entries.foldlM (m.resolveEntry t _) KeyMap.empty >>= _)
  generalize (if underscoreKeys then KeyStyle.underscore else .camel) = declared
  cases hresolve : map.entries.foldlM (m.resolveEntry t declared) KeyMap.empty with
  | error fault => exact reference_unknown hresolve
  | ok candidates =>
    exact reference_resolved (known_of_foldlM hresolve)
      (resolved_nil.foldlM map.sorted hresolve)

end Sound

/-- A mapper makes of a default record and a map what the reference says, and nothing else. -/
theorem fromMapOn_eq_iff (m : Mapper) (default : Record t) (map : AttributeMap)
    (underscoreKeys : Bool) (x : Except MappingFault (Record t)) :
    m.fromMapOn default map underscoreKeys = x ↔
      Reference m default (if underscoreKeys then .underscore else .camel) map x := by
  constructor
  · rintro rfl
    exact reference_fromMapOn m default map underscoreKeys
  · exact (reference_fromMapOn m default map underscoreKeys).unique

end Mapper

end RowMap
