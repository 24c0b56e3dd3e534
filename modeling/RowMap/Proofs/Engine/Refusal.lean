import RowMap.Engine.Request
import RowMap.Proofs.Engine.Batch
import RowMap.Proofs.Engine.Keyed
import RowMap.Proofs.Query.Rendered
import RowMap.Proofs.Store.Calls

/-!
# What is refused

A request that validates its records writes none of them unless all are valid, and a request that
has no statement does not get to the store (`step_refuses`).

There are three things to show. Which calls an operation may make can be read off it (`puts_create`
and the like), so every write is of a record of the request. If a record is invalid, the operation
is the rejection itself, except that a record with nothing but its key is looked up first. And what
has no statement is decided without the store (`decided_of_malformed`).
-/

namespace RowMap

open RowMap.Action

/-- The call changes rows. -/
def Call.isWrite : Call → Bool
  | .execute _ | .insert _ => true
  | _ => false

/-- The violations that an outcome carries. -/
def Outcome.rejected? {α : Type} : Outcome α → Option (List Violation)
  | .committed _ => none
  | .rejected violations => some violations

theorem Outcome.rejected?_eq_some {α : Type} {outcome : Outcome α} {violations : List Violation} :
    outcome.rejected? = some violations ↔ outcome = .rejected violations := by
  cases outcome <;> simp [rejected?]

namespace Request

/-- The records that the request is to write, in order. -/
def records : Request → List ((t : RecordType) × Record t)
  | .create t r _ | .save t r _ | .update t _ r _ => [⟨t, r⟩]
  | .createAll t rs _ => rs.map (⟨t, ·⟩)
  | _ => []

/-- The request validates its records. -/
def validates : Request → Bool
  | .create _ _ skip | .createAll _ _ skip | .save _ _ skip | .update _ _ _ skip => !skip
  | _ => false

/-- The violations for which the request was rejected, if it was. -/
def rejected? : (q : Request) → q.Response → Option (List Violation)
  | .create .., response => response.rejected?
  | .createAll .., response => response.rejected?
  | .save .., response => response.rejected?
  | .update .., response => response.rejected?
  | .updateWhere .., _ | .destroy .., _ | .destroyWhere .., _ | .queryByKey .., _
  | .queryFirst .., _ | .query .., _ | .countAll _, _ | .count .., _ | .fetch _, _
  | .fetchAs .., _ | .execute _, _ | .readMapper, _ => none

/-- The request has no statement: a key or every assignment is missing, parameters do not match
their placeholders, or the dataset does not compile. -/
inductive Malformed (dialect : Dialect) : Request → Prop
  | updateWithoutKey {t : RecordType} {id : Value} (r : Record t) (skip : Bool)
    (h : id.isNull = true) : Malformed dialect (.update t id r skip)
  | updateOfNothing {t : RecordType} (id : Value) {r : Record t} (skip : Bool)
    (h : Engine.assignments r = []) : Malformed dialect (.update t id r skip)
  | destroyWithoutKey (t : RecordType) {id : Value} (h : id.isNull = true) :
    Malformed dialect (.destroy t id)
  | updateWhere (t : RecordType) {assignments condition : String} {params : List Value}
    (h : Sql.placeholders assignments + Sql.placeholders condition ≠ params.length) :
    Malformed dialect (.updateWhere t assignments condition params)
  | destroyWhere (t : RecordType) {condition : String} {params : List Value}
    (h : Sql.placeholders condition ≠ params.length) :
    Malformed dialect (.destroyWhere t condition params)
  | query (t : RecordType) {condition : String} {params : List Value}
    (h : Sql.placeholders condition ≠ params.length) :
    Malformed dialect (.query t condition params)
  | queryFirst (t : RecordType) {condition : String} {params : List Value}
    (h : Sql.placeholders condition ≠ params.length) :
    Malformed dialect (.queryFirst t condition params)
  | count (t : RecordType) {condition : String} {params : List Value}
    (h : Sql.placeholders condition ≠ params.length) :
    Malformed dialect (.count t condition params)
  | fetch {d : Dataset} {fault : CompilationFault} (h : d.compile dialect = .error fault) :
    Malformed dialect (.fetch d)
  | fetchAs (t : RecordType) {d : Dataset} {fault : CompilationFault}
    (h : d.compile dialect = .error fault) : Malformed dialect (.fetchAs t d)

end Request

namespace Engine

variable (e : Engine) {t : RecordType} {P : Call → Prop}

/-- The call writes the record: it inserts it, or updates a row by its set attributes. -/
inductive Writes (r : Record t) : Call → Prop
  | insertion : Writes r (.insert (e.insertStatement r))
  | update {id : Value} {statement : Statement}
    (h : Update.compile ⟨t.table, assignments r, some (hasKey t id)⟩ e.dialect = .ok statement) :
    Writes r (.execute statement)

/-! ## The calls of each operation -/

/-- An insertion puts its statement to the store. -/
theorem puts_insertRecord {r : Record t} (h : P (.insert (e.insertStatement r))) :
    (e.insertRecord r).run.Puts P := by
  refine puts_bind (puts_ask h) fun id => ?_
  split
  · exact puts_ofExcept _
  · exact puts_pure r

/-- A statement without rows is put to the store once it is compiled. -/
theorem puts_affect {statement : Except CompilationFault Statement}
    (h : ∀ compiled, statement = .ok compiled → P (.execute compiled)) :
    (affect statement).run.Puts P := by
  refine puts_locked ?_
  cases statement with
  | error fault => exact puts_throw (.compilation fault)
  | ok compiled => exact puts_ask (h compiled rfl)

/-- A lookup puts a query only. -/
theorem puts_queryByKey (t : RecordType) (id : Value) (h : ∀ statement, P (.query statement)) :
    (e.queryByKey t id).run.Puts P := by
  refine puts_bind (puts_bind (puts_locked ?_) fun rows => puts_ofExcept _) fun rs => puts_pure _
  exact puts_bind (puts_ofExcept _) fun statement => puts_ask (h statement)

/-- A creation puts its insertion only. -/
theorem puts_create {r : Record t} (skip : Bool) (h : P (.insert (e.insertStatement r))) :
    (e.create r skip).run.Puts P := by
  unfold create
  split
  · exact puts_bind (puts_locked (e.puts_insertRecord h)) fun r' => puts_pure _
  · exact puts_pure _

/-- A batch puts its insertions and the calls of its transaction only. -/
theorem puts_createAll {rs : List (Record t)} (skip : Bool)
    (h : ∀ r ∈ rs, P (.insert (e.insertStatement r))) (hstart : P .start) (hcommit : P .commit)
    (hrollback : P .rollback) : (e.createAll rs skip).run.Puts P := by
  unfold createAll
  split
  · have hbatch : (rs.mapM e.insertRecord).run.Puts P :=
      puts_mapM fun r hr => e.puts_insertRecord (h r hr)
    exact puts_bind (puts_locked (puts_transaction hbatch hstart hcommit hrollback))
      fun rs' => puts_pure _
  · exact puts_pure _

section Updates

variable {id : Value} {r : Record t}

/-- An update puts its statement only. -/
theorem puts_update (skip : Bool) (h : ∀ statement,
      Update.compile ⟨t.table, assignments r, some (hasKey t id)⟩ e.dialect = .ok statement →
        P (.execute statement)) : (e.update id r skip).run.Puts P := by
  unfold update
  refine puts_unless ?_
  dsimp only
  split
  · exact puts_bind (puts_affect h) fun rows => puts_pure _
  · exact puts_pure _

/-- A save puts a lookup and the writes of the record only. -/
theorem puts_save (skip : Bool) (hquery : ∀ statement, P (.query statement))
    (hwrite : ∀ c, e.Writes r c → P c) : (e.save r skip).run.Puts P := by
  have hcreate (skip : Bool) : (e.create r skip).run.Puts P :=
    e.puts_create skip (hwrite _ .insertion)
  unfold save
  split
  · exact hcreate skip
  · split
    · refine puts_bind (e.puts_queryByKey t r.key hquery) fun found => ?_
      split
      · exact hcreate skip
      · split <;> exact puts_pure _
    · refine puts_bind (e.puts_update skip fun _ h => hwrite _ (.update h)) fun outcome => ?_
      split
      · exact hcreate true
      · exact puts_pure _
      · exact puts_pure _

end Updates

/-- A request that validates its records writes no others. -/
theorem puts_perform {q : Request} (hq : q.validates = true) :
    (e.perform q).run.Puts fun c => c.isWrite = true → ∃ y ∈ q.records, e.Writes y.2 c := by
  cases q with
  | create t r skip =>
    exact e.puts_create skip fun _ => ⟨_, List.mem_singleton_self _, .insertion⟩
  | createAll t rs skip =>
    refine e.puts_createAll skip (fun r hr _ => ?_) nofun nofun nofun
    exact ⟨⟨t, r⟩, List.mem_map_of_mem hr, .insertion⟩
  | save t r skip =>
    exact e.puts_save skip (fun _ h => by cases h)
      fun c hc _ => ⟨_, List.mem_singleton_self _, hc⟩
  | update t id r skip =>
    exact e.puts_update skip fun _ h _ => ⟨_, List.mem_singleton_self _, .update h⟩
  | _ => cases hq

section Invalid

variable {r : Record t} {rs : List (Record t)} {id : Value} {skip : Bool}

/-- The creation of an invalid record is its rejection. -/
theorem create_of_invalid (h : violationsUnless skip r ≠ []) :
    e.create r skip = pure (.rejected (violationsUnless skip r)) := by
  obtain ⟨v, vs, hvs⟩ := List.exists_cons_of_ne_nil h
  rw [create, hvs]

/-- A batch with an invalid record is the rejection of the first one. -/
theorem createAll_of_invalid (h : firstViolations skip rs ≠ []) :
    e.createAll rs skip = pure (.rejected (firstViolations skip rs)) := by
  obtain ⟨v, vs, hvs⟩ := List.exists_cons_of_ne_nil h
  rw [createAll, hvs]

/-- The update with an invalid record is its rejection. -/
theorem update_of_invalid (hid : id.isNull = false) (h : violationsUnless skip r ≠ []) :
    e.update id r skip = pure (.rejected (violationsUnless skip r)) := by
  obtain ⟨v, vs, hvs⟩ := List.exists_cons_of_ne_nil h
  rw [update, if_neg (by simp [hid]), hvs]

/-- An update without a key fails before anything else. -/
theorem update_without_key (hid : id.isNull = true) :
    (e.update id r skip).Decided (.error (.argument (.updateWithoutKey t.table))) := by
  rw [update, if_pos hid]
  exact decided_throw _ _

theorem save_without_key (hr : r.key.isNull = true) : e.save r skip = e.create r skip := by
  rw [save, if_pos hr]

/-- With more than the key set, an invalid record is not even looked up. -/
theorem save_of_invalid (hr : r.key.isNull = false) (hset : assignments r ≠ [])
    (h : violationsUnless skip r ≠ []) :
    e.save r skip = pure (.rejected (violationsUnless skip r)) := by
  rw [save, if_neg (by simp [hr]), if_neg (by simpa using hset), e.update_of_invalid hr h]
  rfl

variable {σ : Type} (store : Store σ) (s : Session σ)

/-- Reading a dataset takes one call, if it gets to the store at all. -/
theorem log_fetch (d : Dataset) :
    ((e.fetch d).run.run store s).log = [] ∨ ∃ statement reply,
      d.compile e.dialect = .ok statement ∧
        ((e.fetch d).run.run store s).log = [⟨.query statement, reply⟩] := by
  unfold fetch
  cases hd : d.compile e.dialect with
  | error fault =>
    have hputs : (locked (compiled (.error fault) >>= fun st => ask (.query st))).run.Puts
        fun _ => False := puts_locked (puts_throw _)
    exact .inl (hputs.log_eq_nil store s)
  | ok statement =>
    have hlog := log_locked_ask store s (.query statement)
    by_cases hfree : s.lock = .free
    · rw [if_pos hfree] at hlog
      exact .inr ⟨statement, _, rfl, hlog⟩
    · rw [if_neg hfree] at hlog
      exact .inl hlog

/-- A lookup makes at most one call. -/
theorem log_queryByKey (t : RecordType) (id : Value) :
    ((e.queryByKey t id).run.run store s).log = [] ∨ ∃ statement reply,
      (rowOfKey t id).compile e.dialect = .ok statement ∧
        ((e.queryByKey t id).run.run store s).log = [⟨.query statement, reply⟩] := by
  have hlog : ((e.queryByKey t id).run.run store s).log =
      ((e.fetch (rowOfKey t id)).run.run store s).log := by
    rw [queryByKey, log_bind fun _ => puts_pure _, fetchAs, log_bind fun _ => puts_ofExcept _]
    rfl
  rw [hlog]
  exact e.log_fetch store s (rowOfKey t id)

/-- The save of an invalid record makes at most the lookup by its key. -/
theorem log_save_of_invalid (h : violationsUnless skip r ≠ []) :
    ((e.save r skip).run.run store s).log = [] ∨
      r.key.isNull = false ∧ assignments r = [] ∧ ∃ statement reply,
        (rowOfKey t r.key).compile e.dialect = .ok statement ∧
          ((e.save r skip).run.run store s).log = [⟨.query statement, reply⟩] := by
  cases hr : r.key.isNull with
  | true =>
    rw [e.save_without_key hr, e.create_of_invalid h]
    exact .inl rfl
  | false =>
    by_cases hset : assignments r = []
    · have hlog : ((e.save r skip).run.run store s).log =
          ((e.queryByKey t r.key).run.run store s).log := by
        rw [save, if_neg (by simp [hr]), if_pos (by simpa using hset)]
        refine log_bind fun found => ?_
        split
        · rw [e.create_of_invalid h]
          exact puts_pure _
        · split <;> exact puts_pure _
      rw [hlog]
      exact (e.log_queryByKey store s t r.key).imp_right fun hquery => ⟨rfl, hset, hquery⟩
    · rw [e.save_of_invalid hr hset h]
      exact .inl rfl

end Invalid

/-- Violations are found only where validation is asked for. -/
theorem eq_false_of_violationsUnless {skip : Bool} {r : Record t}
    (h : violationsUnless skip r ≠ []) : skip = false := by
  cases skip with
  | true => exact absurd rfl h
  | false => rfl

/-- The first violations are those of the first record that has any. -/
theorem firstViolations_cons (skip : Bool) (r : Record t) (rs : List (Record t)) :
    firstViolations skip (r :: rs) =
      if violationsUnless skip r = [] then firstViolations skip rs
      else violationsUnless skip r := by
  rw [firstViolations, List.map_cons, List.find?_cons]
  cases violationsUnless skip r <;> rfl

/-- An invalid record of a list is noticed. -/
theorem firstViolations_ne_nil {rs : List (Record t)} (h : ∃ r ∈ rs, r.violations ≠ []) :
    firstViolations false rs ≠ [] := by
  induction rs with
  | nil => simp at h
  | cons r rest ih =>
    rw [firstViolations_cons]
    split
    · rename_i hr
      obtain ⟨r', hmem, hr'⟩ := h
      rcases List.mem_cons.mp hmem with rfl | hmem
      · exact absurd hr hr'
      · exact ih ⟨r', hmem, hr'⟩
    · assumption

/-- The records up to the first invalid one, which has the violations. -/
def FirstInvalid (rs : List ((t : RecordType) × Record t)) (violations : List Violation) : Prop :=
  ∃ before r after, rs = before ++ r :: after ∧ (∀ valid ∈ before, valid.2.violations = []) ∧
    r.2.violations = violations

/-- What is reported of a list are the violations of its first invalid record. -/
theorem firstInvalid_firstViolations {skip : Bool} {rs : List (Record t)}
    (h : firstViolations skip rs ≠ []) :
    skip = false ∧ FirstInvalid (rs.map (⟨t, ·⟩)) (firstViolations skip rs) := by
  induction rs with
  | nil => exact absurd rfl h
  | cons r rest ih =>
    rw [firstViolations_cons] at h ⊢
    by_cases hr : violationsUnless skip r = []
    · rw [if_pos hr] at h ⊢
      obtain ⟨rfl, before, r', after, hsplit, hbefore, hr'⟩ := ih h
      refine ⟨rfl, ⟨t, r⟩ :: before, r', after, ?_, List.forall_mem_cons.mpr ⟨hr, hbefore⟩, hr'⟩
      rw [List.map_cons, hsplit, List.cons_append]
    · rw [if_neg hr]
      obtain rfl := eq_false_of_violationsUnless hr
      exact ⟨rfl, [], ⟨t, r⟩, rest.map (⟨t, ·⟩), rfl, List.forall_mem_nil _, rfl⟩

theorem invalid_single {skip : Bool} {r : Record t} (hskip : (!skip) = true)
    (h : ∃ y ∈ [(⟨t, r⟩ : (t : RecordType) × Record t)], y.2.violations ≠ []) :
    skip = false ∧ violationsUnless skip r ≠ [] := by
  obtain ⟨y, hy, hviolations⟩ := h
  obtain rfl : y = ⟨t, r⟩ := List.mem_singleton.mp hy
  obtain rfl : skip = false := by simpa using hskip
  exact ⟨rfl, hviolations⟩

/-- A request with an invalid record makes no call but the lookup of a record that only its key is
set of. -/
theorem log_of_invalid {σ : Type} (store : Store σ) (s : Session σ) {q : Request}
    (hq : q.validates = true) (hinvalid : ∃ y ∈ q.records, y.2.violations ≠ []) :
    (e.step store q s).log = [] ∨
      ∃ t r, q = .save t r false ∧ r.key.isNull = false ∧ assignments r = [] ∧
        ∃ statement reply, (rowOfKey t r.key).compile e.dialect = .ok statement ∧
          (e.step store q s).log = [⟨.query statement, reply⟩] := by
  cases q with
  | create t r skip =>
    obtain ⟨-, hvs⟩ := invalid_single hq hinvalid
    left
    rw [step, perform, e.create_of_invalid hvs]
    rfl
  | createAll t rs skip =>
    obtain rfl : skip = false := by simpa [Request.validates] using hq
    obtain ⟨y, hy, hviolations⟩ := hinvalid
    obtain ⟨r, hr, rfl⟩ := List.mem_map.mp hy
    left
    rw [step, perform, e.createAll_of_invalid (firstViolations_ne_nil ⟨r, hr, hviolations⟩)]
    rfl
  | save t r skip =>
    obtain ⟨rfl, hvs⟩ := invalid_single hq hinvalid
    exact (e.log_save_of_invalid store s hvs).imp_right fun h => ⟨t, r, rfl, h⟩
  | update t id r skip =>
    obtain ⟨-, hvs⟩ := invalid_single hq hinvalid
    left
    cases hid : id.isNull with
    | true =>
      rw [step, perform, update, if_pos hid]
      rfl
    | false =>
      rw [step, perform, e.update_of_invalid hid hvs]
      rfl
  | _ => cases hq

section Rejections

variable {σ : Type} {store : Store σ} {s : Session σ} {r : Record t} {skip : Bool}
  {violations : List Violation}

/-- A creation is rejected for the violations of its record. -/
theorem rejected_create
    (h : ((e.create r skip).run.run store s).ending = .returned (.ok (.rejected violations))) :
    violations ≠ [] ∧ violationsUnless skip r = violations := by
  by_cases hvs : violationsUnless skip r = []
  · rw [create, hvs] at h
    obtain ⟨created, s', -, h⟩ := exists_of_bind h
    cases h
  · rw [e.create_of_invalid hvs] at h
    cases h
    exact ⟨hvs, rfl⟩

/-- A batch is rejected for the violations of its first invalid record. -/
theorem rejected_createAll {rs : List (Record t)}
    (h : ((e.createAll rs skip).run.run store s).ending = .returned (.ok (.rejected violations))) :
    violations ≠ [] ∧ firstViolations skip rs = violations := by
  by_cases hvs : firstViolations skip rs = []
  · rw [createAll, hvs] at h
    obtain ⟨created, s', -, h⟩ := exists_of_bind h
    cases h
  · rw [e.createAll_of_invalid hvs] at h
    cases h
    exact ⟨hvs, rfl⟩

/-- An update is rejected for the violations of its record. -/
theorem rejected_update {id : Value}
    (h : ((e.update id r skip).run.run store s).ending = .returned (.ok (.rejected violations))) :
    violations ≠ [] ∧ violationsUnless skip r = violations := by
  cases hid : id.isNull with
  | true =>
    rw [update, if_pos hid] at h
    cases h
  | false =>
    by_cases hvs : violationsUnless skip r = []
    · rw [update, if_neg (by simp [hid]), hvs] at h
      obtain ⟨rows, s', -, h⟩ := exists_of_bind h
      cases h
    · rw [e.update_of_invalid hid hvs] at h
      cases h
      exact ⟨hvs, rfl⟩

/-- A record that is saved is rejected where it is looked up, updated or created. -/
theorem rejected_save
    (h : ((e.save r skip).run.run store s).ending = .returned (.ok (.rejected violations))) :
    violations ≠ [] ∧ violationsUnless skip r = violations := by
  cases hr : r.key.isNull with
  | true =>
    rw [e.save_without_key hr] at h
    exact e.rejected_create h
  | false =>
    rw [save, if_neg (by simp [hr])] at h
    by_cases hset : assignments r = []
    · rw [if_pos (by simpa using hset)] at h
      obtain ⟨found, s', -, h⟩ := exists_of_bind h
      cases found with
      | none => exact e.rejected_create h
      | some r' =>
        cases hvs : violationsUnless skip r with
        | nil =>
          rw [hvs] at h
          cases h
        | cons v vs =>
          rw [hvs] at h
          cases h
          exact ⟨List.cons_ne_nil v vs, rfl⟩
    · rw [if_neg (by simpa using hset)] at h
      obtain ⟨outcome, s', hupdate, h⟩ := exists_of_bind h
      match outcome with
      | .committed 0 =>
        -- The creation behind an update without effect does not validate again.
        obtain ⟨hne, hskipped⟩ := e.rejected_create h
        exact absurd hskipped.symm hne
      | .committed (n + 1) => cases h
      | .rejected _ =>
        cases h
        exact e.rejected_update hupdate

theorem firstInvalid_single (hne : violations ≠ []) (h : violationsUnless skip r = violations) :
    (!skip) = true ∧ violations ≠ [] ∧ FirstInvalid [⟨t, r⟩] violations := by
  subst h
  obtain rfl := eq_false_of_violationsUnless hne
  exact ⟨rfl, hne, [], ⟨t, r⟩, [], rfl, List.forall_mem_nil _, rfl⟩

/-- Only a request that validates is rejected, for its first invalid record. -/
theorem rejected_step {q : Request} {response : q.Response}
    (h : (e.step store q s).ending = .returned (.ok response))
    (hrejected : q.rejected? response = some violations) :
    q.validates = true ∧ violations ≠ [] ∧ FirstInvalid q.records violations := by
  cases q with
  | create t r skip =>
    obtain rfl := Outcome.rejected?_eq_some.mp hrejected
    obtain ⟨hne, hvs⟩ := e.rejected_create h
    exact firstInvalid_single hne hvs
  | createAll t rs skip =>
    obtain rfl := Outcome.rejected?_eq_some.mp hrejected
    obtain ⟨hne, rfl⟩ := e.rejected_createAll h
    obtain ⟨rfl, hfirst⟩ := firstInvalid_firstViolations hne
    exact ⟨rfl, hne, hfirst⟩
  | save t r skip =>
    obtain rfl := Outcome.rejected?_eq_some.mp hrejected
    obtain ⟨hne, hvs⟩ := e.rejected_save h
    exact firstInvalid_single hne hvs
  | update t id r skip =>
    obtain rfl := Outcome.rejected?_eq_some.mp hrejected
    obtain ⟨hne, hvs⟩ := e.rejected_update h
    exact firstInvalid_single hne hvs
  | _ => cases hrejected

end Rejections

/-! ## Requests without a statement -/

section Malformed

variable {d : Dataset} {fault : CompilationFault}

/-- A statement that cannot be compiled decides the request. -/
theorem decided_affect {statement : Except CompilationFault Statement}
    (h : statement = .error fault) : (affect statement).Decided (.error (.compilation fault)) := by
  subst h
  exact decided_locked _ _

/-- A query that cannot be compiled decides its reading. -/
theorem decided_fetch (h : d.compile e.dialect = .error fault) :
    (e.fetch d).Decided (.error (.compilation fault)) := by
  unfold fetch
  rw [h]
  exact decided_locked _ _

theorem decided_fetchAs (t : RecordType) (h : d.compile e.dialect = .error fault) :
    (e.fetchAs t d).Decided (.error (.compilation fault)) :=
  decided_bind_error (e.decided_fetch h) _

/-- Text whose parameters do not match it is no condition of a dataset. -/
theorem exists_fault_of_placeholders {condition : String} {params : List Value}
    (hd : d.filters = [.raw condition params])
    (h : Sql.placeholders condition ≠ params.length) (dialect : Dialect) :
    ∃ fault, d.compile dialect = .error fault := by
  cases hcompile : d.compile dialect with
  | error fault => exact ⟨fault, rfl⟩
  | ok statement =>
    obtain ⟨projections, source, joins, filters, groupKeys, groupFilter, orderKeys, limit,
      offset⟩ := d
    obtain rfl : filters = [.raw condition params] := hd
    obtain ⟨f, hf, -⟩ := map_eq_ok.mp hcompile
    rw [render_dataset] at hf
    obtain ⟨_, -, hf⟩ := bind_eq_ok.mp hf
    obtain ⟨_, -, hf⟩ := bind_eq_ok.mp hf
    obtain ⟨_, -, hf⟩ := bind_eq_ok.mp hf
    obtain ⟨_, hfilters, -⟩ := bind_eq_ok.mp hf
    obtain ⟨g, hraw, -⟩ := map_eq_ok.mp hfilters
    exact absurd (render_raw_eq_ok.mp hraw).1 h

/-- A deletion counts the parameters of its raw condition. -/
theorem deletion_of_placeholders {condition : String} {params : List Value}
    (h : Sql.placeholders condition ≠ params.length) (table : String) (dialect : Dialect) :
    Deletion.compile ⟨table, some (.raw condition params)⟩ dialect =
      .error (.parameterCount condition (Sql.placeholders condition) params.length) := by
  rw [Deletion.compile, Deletion.render, whereClause, render_raw_of_ne h]
  rfl

/-- An update with raw texts counts their parameters before anything else. -/
theorem decided_updateWhere (t : RecordType) {assignments condition : String}
    {params : List Value}
    (h : Sql.placeholders assignments + Sql.placeholders condition ≠ params.length) :
    (e.updateWhere t assignments condition params).Decided
      (.error (.compilation (.updateParameterCount t.table
        (Sql.placeholders assignments + Sql.placeholders condition) params.length))) := by
  rw [updateWhere, if_pos h]
  exact decided_throw _ _

/-- Nothing to set, or no row to set it in. -/
theorem decided_update {id : Value} {r : Record t} (skip : Bool)
    (h : id.isNull = true ∨ assignments r = []) :
    ∃ result, (e.update id r skip).Decided result ∧
      ∀ response, result = .ok response → ∃ violations, response.rejected? = some violations := by
  cases hid : id.isNull with
  | true => exact ⟨_, e.update_without_key hid, fun _ h => by cases h⟩
  | false =>
    by_cases hvs : violationsUnless skip r = []
    · have hempty : assignments r = [] := h.resolve_left (by simp [hid])
      have hfault : Update.compile ⟨t.table, assignments r, some (hasKey t id)⟩ e.dialect =
          .error (.noAssignments t.table) := by
        rw [Update.compile, Update.render, hempty]
        rfl
      refine ⟨.error (.compilation (.noAssignments t.table)), ?_, fun _ h => by cases h⟩
      rw [update, if_neg (by simp [hid]), hvs]
      exact decided_bind_error (decided_affect hfault) _
    · refine ⟨.ok (.rejected (violationsUnless skip r)), ?_, ?_⟩
      · rw [e.update_of_invalid hid hvs]
        exact decided_pure _
      · rintro _ ⟨⟩
        exact ⟨_, rfl⟩

/-- A malformed request comes to an error or to a rejection without a call. -/
theorem decided_of_malformed {q : Request} (h : q.Malformed e.dialect) :
    ∃ result, (e.perform q).Decided result ∧
      ∀ response, result = .ok response → ∃ violations, q.rejected? response = some violations := by
  cases h with
  | updateWithoutKey r skip h => exact e.decided_update skip (.inl h)
  | updateOfNothing id skip h => exact e.decided_update skip (.inr h)
  | destroyWithoutKey t h =>
    refine ⟨.error (.argument (.destroyWithoutKey t.table)), ?_, nofun⟩
    rw [perform, destroy, if_pos h]
    exact decided_throw _ _
  | updateWhere t h => exact ⟨_, e.decided_updateWhere t h, nofun⟩
  | destroyWhere t h => exact ⟨_, decided_affect (deletion_of_placeholders h _ _), nofun⟩
  | @query t condition params h =>
    obtain ⟨fault, hfault⟩ :=
      exists_fault_of_placeholders (d := rowsWhere t condition params) rfl h e.dialect
    exact ⟨_, e.decided_fetchAs t hfault, nofun⟩
  | @queryFirst t condition params h =>
    obtain ⟨fault, hfault⟩ :=
      exists_fault_of_placeholders (d := (rowsWhere t condition params).first) rfl h e.dialect
    exact ⟨_, decided_bind_error (e.decided_fetchAs t hfault) _, nofun⟩
  | @count t condition params h =>
    obtain ⟨fault, hfault⟩ := exists_fault_of_placeholders
      (d := (rowsWhere t condition params).select [.aliased .countAll "count"]) rfl h e.dialect
    exact ⟨_, decided_bind_error (e.decided_fetch hfault) _, nofun⟩
  | fetch h => exact ⟨_, e.decided_fetch h, nofun⟩
  | fetchAs t h => exact ⟨_, e.decided_fetchAs t h, nofun⟩

end Malformed

/-- Nothing invalid and nothing malformed is written. A request that validates makes no call if a
record is invalid, except for the lookup of a record that only its key is set of. What it is
rejected for is what the first invalid record is. A request without a statement is decided without
the store, and not by a committed write or by rows. So every write of a request that validates is of
a valid record. -/
theorem step_refuses {σ : Type} (store : Store σ) (s : Session σ) (hlock : s.lock = .free)
    (q : Request) :
    let run := e.step store q s
    (q.validates = true → (∃ y ∈ q.records, y.2.violations ≠ []) →
      run.log = [] ∨ ∃ t r, q = .save t r false ∧ r.key.isNull = false ∧ assignments r = [] ∧
        ∃ statement reply, (rowOfKey t r.key).compile e.dialect = .ok statement ∧
          run.log = [⟨.query statement, reply⟩]) ∧
      (∀ response violations, run.ending = .returned (.ok response) →
        q.rejected? response = some violations →
          q.validates = true ∧ violations ≠ [] ∧ FirstInvalid q.records violations) ∧
      (q.Malformed e.dialect → ∃ result, run = ⟨.returned result, s, []⟩ ∧
        ∀ response, result = .ok response →
          ∃ violations, q.rejected? response = some violations) ∧
      (q.validates = true → ∀ x ∈ run.log, x.call.isWrite = true →
        ∃ y ∈ q.records, y.2.violations = [] ∧ e.Writes y.2 x.call) := by
  intro run
  refine ⟨e.log_of_invalid store s, fun _ _ => e.rejected_step, fun hmalformed => ?_,
    fun hq x hx hwrite => ?_⟩
  · obtain ⟨result, hdecided, hresult⟩ := e.decided_of_malformed hmalformed
    exact ⟨result, hdecided σ store s hlock, hresult⟩
  · obtain ⟨y, hy, hwrites⟩ := (e.puts_perform hq).log store s x hx hwrite
    refine ⟨y, hy, ?_, hwrites⟩
    -- An invalid record would leave at most a lookup in the log.
    by_contra hinvalid
    rcases e.log_of_invalid store s hq ⟨y, hy, hinvalid⟩ with
      hlog | ⟨_, _, -, -, -, statement, reply, -, hlog⟩
    · rw [hlog] at hx
      cases hx
    · rw [hlog] at hx
      obtain rfl := List.mem_singleton.mp hx
      cases hwrite

/-- A type with one required attribute. -/
def guests : RecordType :=
  ⟨"guests", "id", [⟨"id", .integer⟩, ⟨"name", .text⟩], [⟨"name", .required⟩]⟩

/-- Two guests, the second of them without a name. -/
def party : List (Record guests) :=
  [⟨#v[.null, .text "Eve"]⟩, ⟨#v[.null, .null]⟩]

theorem step_refuses_nameless :
    let run := plain.step Script.store (.createAll guests party false) (.fresh .empty)
    run.log = [] ∧ ∃ violations, run.ending = .returned (.ok (.rejected violations)) ∧
      FirstInvalid (party.map (⟨guests, ·⟩)) violations := by
  intro run
  obtain ⟨hinvalid, hrejected, -⟩ := plain.step_refuses Script.store (.fresh .empty) rfl
    (.createAll guests party false)
  have hending : run.ending = .returned (.ok (.rejected (firstViolations false party))) := rfl
  have hmember : ∃ y ∈ (Request.createAll guests party false).records, y.2.violations ≠ [] :=
    ⟨⟨guests, ⟨#v[.null, .null]⟩⟩, by simp [Request.records, party], by decide⟩
  refine ⟨(hinvalid rfl hmember).resolve_right ?_, _, hending, ?_⟩
  · rintro ⟨_, _, hsave, -⟩
    cases hsave
  · exact (hrejected _ _ hending rfl).2.2

end Engine

end RowMap
