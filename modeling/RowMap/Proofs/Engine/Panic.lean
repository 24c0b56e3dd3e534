import RowMap.Engine.Request
import RowMap.Proofs.Query.Rendered
import RowMap.Proofs.Store.Discipline
import RowMap.Store.Script

/-!
# After a panic

What becomes of an engine whose store fails in the middle of a call. Every request is orderly
(`orderly_perform`), so such a failure leaves the lock poisoned, and nothing else does; and on a
poisoned lock every request is settled (`settled_perform`), so the store is not called again. The
lock therefore tells, over any run of requests, whether the store has failed (`lockTells_history`),
and what comes of the next request follows from that (`step_after_history`).
-/

namespace RowMap

open RowMap.Action

namespace Engine

variable (e : Engine) {t : RecordType}

/-! ## Every operation is orderly -/

/-- Compilation makes no call. -/
theorem orderly_compiled {held : Bool} (statement : Except CompilationFault Statement) :
    (compiled statement).Orderly held :=
  orderly_mapError (fun _ => by simp [Error.kind]) statement

/-- An insertion keeps the guard that its caller took. -/
theorem orderly_insertRecord (r : Record t) : (e.insertRecord r).Orderly true := by
  unfold insertRecord
  refine orderly_bind (orderly_ask _) fun id => ?_
  split
  · exact orderly_mapError (fun _ => by simp [Error.kind]) _
  · exact orderly_pure r

theorem orderly_affect (statement : Except CompilationFault Statement) :
    (affect statement).Orderly false :=
  orderly_locked (orderly_bind (orderly_compiled statement) fun _ => orderly_ask _)

theorem orderly_fetch (d : Dataset) : (e.fetch d).Orderly false :=
  orderly_locked (orderly_bind (orderly_compiled _) fun _ => orderly_ask _)

theorem orderly_fetchAs (t : RecordType) (d : Dataset) : (e.fetchAs t d).Orderly false :=
  orderly_bind (e.orderly_fetch d) fun _ => orderly_mapError (fun _ => by simp [Error.kind]) _

theorem orderly_queryByKey (t : RecordType) (id : Value) : (e.queryByKey t id).Orderly false :=
  orderly_bind (e.orderly_fetchAs t _) fun _ => orderly_pure _

theorem orderly_countRows (d : Dataset) : (e.countRows d).Orderly false := by
  refine orderly_bind (e.orderly_fetch _) fun rows => ?_
  split
  · exact orderly_pure _
  · exact orderly_throw (by simp [Error.kind])

/-- A creation takes the guard for its insertion only. -/
theorem orderly_create (r : Record t) (skip : Bool) : (e.create r skip).Orderly false := by
  unfold create
  split
  · exact orderly_bind (orderly_locked (e.orderly_insertRecord r)) fun _ => orderly_pure _
  · exact orderly_pure _

/-- A batch takes the guard before its transaction and gives it back after it. -/
theorem orderly_createAll (rs : List (Record t)) (skip : Bool) :
    (e.createAll rs skip).Orderly false := by
  unfold createAll
  split
  · have hbatch := orderly_transaction (orderly_mapM e.orderly_insertRecord rs)
    exact orderly_bind (orderly_locked hbatch) fun _ => orderly_pure _
  · exact orderly_pure _

/-- An update takes the guard for its statement only. -/
theorem orderly_update (id : Value) (r : Record t) (skip : Bool) :
    (e.update id r skip).Orderly false := by
  unfold update
  refine orderly_unless (by simp [Error.kind]) ?_
  dsimp only
  split
  · exact orderly_bind (orderly_affect _) fun _ => orderly_pure _
  · exact orderly_pure _

/-- A save takes the guard once for each of its steps. -/
theorem orderly_save (r : Record t) (skip : Bool) : (e.save r skip).Orderly false := by
  unfold save
  split
  · exact e.orderly_create r skip
  · split
    · refine orderly_bind (e.orderly_queryByKey t r.key) fun found => ?_
      split
      · exact e.orderly_create r skip
      · split <;> exact orderly_pure _
    · refine orderly_bind (e.orderly_update r.key r skip) fun outcome => ?_
      split
      · exact e.orderly_create r true
      · exact orderly_pure _
      · exact orderly_pure _

/-- An update with raw texts takes the guard for its statement only. -/
theorem orderly_updateWhere (t : RecordType) (assignments condition : String)
    (params : List Value) : (e.updateWhere t assignments condition params).Orderly false := by
  unfold updateWhere
  refine orderly_unless (by simp [Error.kind]) ?_
  refine orderly_bind (orderly_mapError (fun _ => by simp [Error.kind]) _) fun set => ?_
  refine orderly_bind (orderly_mapError (fun _ => by simp [Error.kind]) _) fun filter => ?_
  exact orderly_affect _

theorem orderly_destroyWhere (t : RecordType) (condition : Expression) :
    (e.destroyWhere t condition).Orderly false :=
  orderly_affect _

theorem orderly_destroy (t : RecordType) (id : Value) : (e.destroy t id).Orderly false := by
  unfold destroy
  refine orderly_unless (by simp [Error.kind]) ?_
  exact e.orderly_destroyWhere t _

/-- Whatever is asked for, the guard is given back. -/
theorem orderly_perform (q : Request) : (e.perform q).Orderly false := by
  cases q with
  | create t r skip => exact e.orderly_create r skip
  | createAll t rs skip => exact e.orderly_createAll rs skip
  | save t r skip => exact e.orderly_save r skip
  | update t id r skip => exact e.orderly_update id r skip
  | updateWhere t assignments condition params => exact e.orderly_updateWhere t _ _ params
  | destroy t id => exact e.orderly_destroy t id
  | destroyWhere t condition params => exact e.orderly_destroyWhere t _
  | queryByKey t id => exact e.orderly_queryByKey t id
  | queryFirst t condition params =>
    exact orderly_bind (e.orderly_fetchAs t _) fun _ => orderly_pure _
  | query t condition params => exact e.orderly_fetchAs t _
  | countAll t => exact e.orderly_countRows _
  | count t condition params => exact e.orderly_countRows _
  | fetch dataset => exact e.orderly_fetch dataset
  | fetchAs t dataset => exact e.orderly_fetchAs t dataset
  | execute sql => exact orderly_affect _
  | readMapper => exact orderly_pure _

/-! ## Requests on a poisoned lock -/

/-- The rejection of a write for its violations, if there are any. -/
def rejection? {α : Type} (violations : List Violation) : Option (Except Error (Outcome α)) :=
  if violations.isEmpty then none else some (.ok (.rejected violations))

/-- What a request comes to before the lock is asked for, if that decides it. -/
def decided? : (q : Request) → Option (Except Error q.Response)
  | .create _ r skip => rejection? (violationsUnless skip r)
  | .createAll _ rs skip => rejection? (firstViolations skip rs)
  -- A record that only its key is set of is looked up before it is validated.
  | .save _ r skip =>
    if !r.key.isNull && (assignments r).isEmpty then none else rejection? (violationsUnless skip r)
  | .update t id r skip =>
    if id.isNull then some (.error (.argument (.updateWithoutKey t.table)))
    else rejection? (violationsUnless skip r)
  | .updateWhere t assignments condition params =>
    let expected := Sql.placeholders assignments + Sql.placeholders condition
    if expected = params.length then none
    else some (.error (.compilation (.updateParameterCount t.table expected params.length)))
  | .destroy t id =>
    if id.isNull then some (.error (.argument (.destroyWithoutKey t.table))) else none
  | .readMapper => some (.ok e.mapper)
  | _ => none

/-- The response to a request while the lock is poisoned. -/
def refusal (q : Request) : Except Error q.Response :=
  (e.decided? q).getD (.error .poisoned)

theorem settled_affect (statement : Except CompilationFault Statement) :
    (affect statement).Settled (.error .poisoned) :=
  settled_locked _

theorem settled_fetchAs (t : RecordType) (d : Dataset) :
    (e.fetchAs t d).Settled (.error .poisoned) :=
  settled_bind_error (settled_locked _) _

theorem settled_queryByKey (t : RecordType) (id : Value) :
    (e.queryByKey t id).Settled (.error .poisoned) :=
  settled_bind_error (e.settled_fetchAs t _) _

theorem settled_countRows (d : Dataset) : (e.countRows d).Settled (.error .poisoned) :=
  settled_bind_error (settled_locked _) _

/-- A write asks for the lock only if validation lets it pass. -/
theorem settled_validated {α : Type} {violations : List Violation} {write : Action (Outcome α)}
    (h : write.Settled (.error .poisoned)) :
    Action.Settled
      (match violations with
        | [] => write
        | violations => pure (.rejected violations))
      ((rejection? violations).getD (.error .poisoned)) := by
  cases violations with
  | nil => exact h
  | cons v vs => exact settled_pure _

theorem settled_create (r : Record t) (skip : Bool) :
    (e.create r skip).Settled (e.refusal (.create t r skip)) :=
  settled_validated (settled_bind_error (settled_locked _) _)

theorem settled_createAll (rs : List (Record t)) (skip : Bool) :
    (e.createAll rs skip).Settled (e.refusal (.createAll t rs skip)) :=
  settled_validated (settled_bind_error (settled_locked _) _)

/-- On a poisoned lock an update fails, is rejected or is refused. -/
theorem settled_update (id : Value) (r : Record t) (skip : Bool) :
    (e.update id r skip).Settled (e.refusal (.update t id r skip)) := by
  unfold update
  by_cases hid : id.isNull = true
  · rw [refusal, decided?, if_pos hid, if_pos hid]
    exact settled_bind_error (settled_throw _) _
  · rw [refusal, decided?, if_neg hid, if_neg hid]
    exact settled_validated (settled_bind_error (settled_affect _) _)

/-- On a poisoned lock a save is rejected or refused. -/
theorem settled_save (r : Record t) (skip : Bool) :
    (e.save r skip).Settled (e.refusal (.save t r skip)) := by
  unfold save
  rw [refusal, decided?]
  by_cases hkey : r.key.isNull = true
  · rw [if_pos hkey, if_neg (by simp [hkey])]
    exact e.settled_create r skip
  · rw [if_neg hkey]
    by_cases hempty : (assignments r).isEmpty = true
    · rw [if_pos hempty, if_pos (by simp [hkey, hempty])]
      exact settled_bind_error (e.settled_queryByKey t r.key) _
    · rw [if_neg hempty, if_neg (by simp [hempty])]
      have hupdate := e.settled_update r.key r skip
      rw [refusal, decided?, if_neg hkey] at hupdate
      cases hv : violationsUnless skip r with
      | nil =>
        rw [hv] at hupdate
        exact settled_bind_error hupdate _
      | cons v vs =>
        rw [hv] at hupdate
        exact settled_bind hupdate (settled_pure _)

/-- On a poisoned lock the parameters are counted before the refusal. -/
theorem settled_updateWhere (t : RecordType) (assignments condition : String)
    (params : List Value) : (e.updateWhere t assignments condition params).Settled
      (e.refusal (.updateWhere t assignments condition params)) := by
  unfold updateWhere
  rw [refusal, decided?]
  by_cases hcount : Sql.placeholders assignments + Sql.placeholders condition = params.length
  · have hset : (Expression.raw assignments (params.take (Sql.placeholders assignments))).render
        .neutral = .ok ⟨assignments, params.take (Sql.placeholders assignments)⟩ := by
      refine render_raw_eq_ok.mpr ⟨?_, rfl⟩
      rw [List.length_take]
      omega
    have hfilter : (Expression.raw condition (params.drop (Sql.placeholders assignments))).render
        .neutral = .ok ⟨condition, params.drop (Sql.placeholders assignments)⟩ := by
      refine render_raw_eq_ok.mpr ⟨?_, rfl⟩
      rw [List.length_drop]
      omega
    rw [if_neg (not_not_intro hcount), if_pos hcount]
    simp only [List.splitAt_eq, hset, hfilter]
    exact settled_bind (settled_ofExcept _) (settled_bind (settled_ofExcept _) (settled_affect _))
  · rw [if_pos hcount, if_neg hcount]
    exact settled_bind_error (settled_throw _) _

/-- On a poisoned lock a deletion without a key fails, any other one is refused. -/
theorem settled_destroy (t : RecordType) (id : Value) :
    (e.destroy t id).Settled (e.refusal (.destroy t id)) := by
  unfold destroy
  by_cases hid : id.isNull = true
  · rw [refusal, decided?, if_pos hid, if_pos hid]
    exact settled_bind_error (settled_throw _) _
  · rw [refusal, decided?, if_neg hid, if_neg hid]
    exact settled_affect _

/-- On a poisoned lock every request comes to its refusal without a call. -/
theorem settled_perform (q : Request) : (e.perform q).Settled (e.refusal q) := by
  cases q with
  | create t r skip => exact e.settled_create r skip
  | createAll t rs skip => exact e.settled_createAll rs skip
  | save t r skip => exact e.settled_save r skip
  | update t id r skip => exact e.settled_update id r skip
  | updateWhere t assignments condition params => exact e.settled_updateWhere t _ _ params
  | destroy t id => exact e.settled_destroy t id
  | destroyWhere t condition params => exact settled_affect _
  | queryByKey t id => exact e.settled_queryByKey t id
  | queryFirst t condition params => exact settled_bind_error (e.settled_fetchAs t _) _
  | query t condition params => exact e.settled_fetchAs t _
  | countAll t => exact e.settled_countRows _
  | count t condition params => exact e.settled_countRows _
  | fetch dataset => exact settled_locked _
  | fetchAs t dataset => exact e.settled_fetchAs t dataset
  | execute sql => exact settled_affect _
  | readMapper => exact settled_pure _

end Engine

/-- A request, and the engine that it is issued through. Engines that are clones of each other work
on one session. -/
structure Issued where
  engine : Engine
  request : Request

section Runs

variable {σ : Type} (store : Store σ)

/-- The session after the requests. -/
def sessionAfter : List Issued → Session σ → Session σ
  | [], s => s
  | x :: rest, s => sessionAfter rest (x.engine.step store x.request s).session

/-- All calls to the store in the course of the requests. -/
def history : List Issued → Session σ → List Exchange
  | [], _ => []
  | x :: rest, s =>
    let run := x.engine.step store x.request s
    run.log ++ history rest run.session

end Runs

namespace Engine

variable {σ : Type} {store : Store σ} {s : Session σ}

/-- From a free lock a step is disciplined, and only the store reports a lock error. -/
theorem step_free (e : Engine) (q : Request) (hs : s.lock = .free) :
    (e.step store q s).Disciplined false ∧
      ∀ error, (e.step store q s).ending = .returned (.error error) → error.kind = .lock →
        ∃ x ∈ (e.step store q s).log, x.Reports error :=
  (e.orderly_perform q).run store hs

/-- From a poisoned lock a step is the refusal; the log stays empty. -/
theorem step_poisoned (e : Engine) (q : Request) (hs : s.lock = .poisoned) :
    e.step store q s = ⟨.returned (e.refusal q), s, []⟩ :=
  e.settled_perform q σ store s hs

/-- The lock is free as long as the store has not failed in the middle of a call, and poisoned
afterwards. -/
def LockTells (s : Session σ) (past : List Exchange) : Prop :=
  (s.lock = .free ∧ ∀ x ∈ past, ¬x.Panics) ∨ (s.lock = .poisoned ∧ ∃ x ∈ past, x.Panics)

/-- What the lock tells about the past stays true with every step. -/
theorem lockTells_step {past : List Exchange} (h : LockTells s past) (e : Engine) (q : Request) :
    LockTells (e.step store q s).session (past ++ (e.step store q s).log) := by
  rcases h with ⟨hfree, hpast⟩ | ⟨hpoisoned, hpast⟩
  · have hrun : (e.step store q s).Disciplined false := (e.step_free q hfree).1
    generalize e.step store q s = run at hrun ⊢
    cases hrun with
    | returned hlock hlog => exact .inl ⟨hlock, List.forall_mem_append.mpr ⟨hpast, hlog⟩⟩
    | panicked hlock hlog =>
      obtain ⟨x, hx, hpanics⟩ := hlog
      exact .inr ⟨hlock, x, List.mem_append_right _ hx, hpanics⟩
  · rw [e.step_poisoned q hpoisoned, List.append_nil]
    exact .inr ⟨hpoisoned, hpast⟩

/-- What the lock tells about the past stays true along every history. -/
theorem lockTells_history (xs : List Issued) {past : List Exchange} (h : LockTells s past) :
    LockTells (sessionAfter store xs s) (past ++ history store xs s) := by
  induction xs generalizing s past with
  | nil => simpa [history, sessionAfter] using h
  | cons x rest ih =>
    rw [sessionAfter, history, ← List.append_assoc]
    exact ih (lockTells_step h x.engine x.request)

/-- A request after any others. It never waits for itself. If the store has failed in the middle of
a call, the request is decided without the store or refused for the lock. If not, then it fails in
the middle only if the store does, and it finds no fault with the lock but what the store
reports. -/
theorem step_after_history (store : Store σ) (state : σ) (xs : List Issued) (e : Engine)
    (q : Request) :
    let s := sessionAfter store xs (.fresh state)
    let past := history store xs (.fresh state)
    let run := e.step store q s
    run.ending ≠ .stuck ∧
      ((∃ x ∈ past, x.Panics) →
        run = ⟨.returned ((e.decided? q).getD (.error .poisoned)), s, []⟩) ∧
      ((∀ x ∈ past, ¬x.Panics) →
        (run.ending = .panicked → ∃ x ∈ run.log, x.Panics) ∧
        ∀ error, run.ending = .returned (.error error) → error.kind = .lock →
          ∃ x ∈ run.log, x.Reports error) := by
  intro s past run
  have hfresh : LockTells (Session.fresh state) [] := .inl ⟨rfl, by simp⟩
  have htells : LockTells s past := lockTells_history xs hfresh
  rcases htells with ⟨hfree, hpast⟩ | ⟨hpoisoned, hpast⟩
  · obtain ⟨hrun, hreported⟩ : run.Disciplined false ∧ _ := e.step_free q hfree
    refine ⟨hrun.ending_ne_stuck, fun hpanic => ?_, fun _ => ⟨hrun.panics, hreported⟩⟩
    obtain ⟨x, hx, hpanics⟩ := hpanic
    exact absurd hpanics (hpast x hx)
  · have hrun : run = ⟨.returned (e.refusal q), s, []⟩ := e.step_poisoned q hpoisoned
    refine ⟨by simp [hrun], fun _ => hrun, fun hnone => ?_⟩
    obtain ⟨x, hx, hpanics⟩ := hpast
    exact absurd hpanics (hnone x hx)

/-- A deletion during which the store fails, and what follows: a deletion that does not get to the
store, and one that is refused before. -/
example :
    let e : Engine := ⟨.sqlite, ⟨.underscore, true⟩⟩
    let t : RecordType := ⟨"notes", "id", [⟨"id", .integer⟩], []⟩
    let failing : Script := Script.empty.load [.panic] none none
    let s := sessionAfter Script.store [⟨e, .destroy t (.integer 1)⟩] (.fresh failing)
    (e.step Script.store (.destroy t (.integer 2)) s).ending = .returned (.error .poisoned) ∧
      (e.step Script.store (.destroy t .null) s).ending =
        .returned (.error (.argument (.destroyWithoutKey "notes"))) :=
  ⟨rfl, rfl⟩

end Engine

end RowMap
