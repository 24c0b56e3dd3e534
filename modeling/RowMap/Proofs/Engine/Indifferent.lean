import RowMap.Engine.Request
import RowMap.Proofs.Record.Columns
import RowMap.Proofs.Store.Alike
import RowMap.Proofs.Store.Calls
import RowMap.Store.Script

/-!
# The mapper of an engine does not matter

An engine carries a mapper, but no request other than reading it depends on its key style or on its
strictness (`perform_congr`). So engines that differ in nothing else, on alike sessions, give the
same results and make the same calls in any run (`trace_eq`). Reading records is reading rows and
then mapping them one by one by their attribute columns (`reads_step`), which is the same whether
the mapper is strict or not.
-/

namespace RowMap.Engine

open RowMap.Action
open Mapper (RowsRead rowsRead)

variable {σ τ : Type} {store : Store σ} {other : Store τ} {s : Session σ} {s' : Session τ}

/-- What a request shows: how it ends, and its calls to the store with their replies. -/
structure Observation where
  request : Request
  ending : Ending (Except Error request.Response)
  calls : List Exchange

/-- What requests show that are performed one after the other. -/
def trace (e : Engine) (store : Store σ) : List Request → Session σ → List Observation
  | [], _ => []
  | q :: rest, s =>
    let run := e.step store q s
    ⟨q, run.ending, run.log⟩ :: e.trace store rest run.session

variable {dialect : Dialect} {m m' : Mapper}

/-- Only one request asks for the mapper itself. -/
theorem perform_congr {q : Request} (hq : q ≠ .readMapper) :
    perform ⟨dialect, m⟩ q = perform ⟨dialect, m'⟩ q := by
  cases q with
  | readMapper => exact absurd rfl hq
  | _ => rfl

/-- On alike sessions a step is alike under both mappers. -/
theorem like_step {q : Request} (hq : q ≠ .readMapper) (h : s.Alike store other s') :
    (step ⟨dialect, m⟩ store q s).Like store other (step ⟨dialect, m'⟩ other q s') := by
  rw [step, step, perform_congr hq]
  exact Program.like_run _ h

/-- On alike sessions a run is the same under both mappers. -/
theorem trace_eq {qs : List Request} (hqs : ∀ q ∈ qs, q ≠ .readMapper)
    (h : s.Alike store other s') :
    trace ⟨dialect, m⟩ store qs s = trace ⟨dialect, m'⟩ other qs s' := by
  induction qs generalizing s s' with
  | nil => rfl
  | cons q rest ih =>
    obtain ⟨hq, hrest⟩ := List.forall_mem_cons.mp hqs
    have hstep : (step ⟨dialect, m⟩ store q s).Like store other (step ⟨dialect, m'⟩ other q s') :=
      like_step hq h
    rw [trace, trace, hstep.ending, hstep.log, ih hrest hstep.session]

/-! ## Reading records -/

/-- The requests that read records: of which type, from which dataset, and what of the records they
respond. -/
inductive TypedRead (t : RecordType) :
    Dataset → (q : Request) → (List (Record t) → q.Response) → Prop
  | fetchAs (d : Dataset) : TypedRead t d (.fetchAs t d) id
  | query (condition : String) (params : List Value) :
    TypedRead t (rowsWhere t condition params) (.query t condition params) id
  | queryFirst (condition : String) (params : List Value) :
    TypedRead t (rowsWhere t condition params).first (.queryFirst t condition params) List.head?
  | queryByKey (id : Value) :
    TypedRead t ((Dataset.empty.fromTable t.table).filter (hasKey t id)).first
      (.queryByKey t id) List.head?

/-- How reading records ends if reading the rows ends in the given way. -/
inductive ReadEnding {α : Type} (m : Mapper) (t : RecordType) (select : List (Record t) → α) :
    Ending (Except Error (List AttributeMap)) → Ending (Except Error α) → Prop
  | mapped {rows : List AttributeMap} {result : Except MappingFault (List (Record t))}
    (h : RowsRead m t rows result) :
    ReadEnding m t select (.returned (.ok rows)) (.returned ((result.mapError .mapping).map select))
  | failed (err : Error) :
    ReadEnding m t select (.returned (.error err)) (.returned (.error err))
  | panicked : ReadEnding m t select .panicked .panicked
  | stuck : ReadEnding m t select .stuck .stuck

section Reading

variable (e : Engine) {t : RecordType} {d : Dataset} {q : Request}
  {select : List (Record t) → q.Response}

/-- A typed read is a fetch and a selection. -/
theorem perform_typedRead (h : TypedRead t d q select) :
    e.perform q = e.fetchAs t d >>= fun records => pure (select records) := by
  cases h with
  | fetchAs => exact (bind_pure _).symm
  | query => exact (bind_pure _).symm
  | queryFirst => rfl
  | queryByKey => rfl

variable (store : Store σ) (s : Session σ)

/-- Reading records takes the calls of reading rows. -/
theorem reads_step (h : TypedRead t d q select) :
    let raw := e.step store (.fetch d) s
    let run := e.step store q s
    run.log = raw.log ∧ ReadEnding e.mapper t select raw.ending run.ending := by
  intro raw run
  have hrun : run = raw.andThen
      fun result s' => (ExceptT.bindCont (fun rows => Action.ofExcept ((rows.mapM fun row =>
        (⟨e.mapper.style, false⟩ : Mapper).fromMap t row true).mapError .mapping) >>=
          fun records => pure (select records)) result).run store s' := by
    rw [show run = (e.perform q).run.run store s from rfl, perform_typedRead e h, fetchAs,
      bind_assoc, run_sequence]
    rfl
  rw [hrun]
  rcases raw with ⟨(err | rows) | _ | _, s', log⟩
  · exact ⟨List.append_nil log, .failed err⟩
  · have hread := rowsRead (m := ⟨e.mapper.style, false⟩) rfl e.mapper t rows
    have hmapped : ReadEnding e.mapper t select _ _ := .mapped hread
    simp only [Run.andThen, ExceptT.bindCont]
    generalize (rows.mapM fun row => (⟨e.mapper.style, false⟩ : Mapper).fromMap t row true) =
      result at hmapped
    cases result <;> exact ⟨List.append_nil log, hmapped⟩
  · exact ⟨rfl, .panicked⟩
  · exact ⟨rfl, .stuck⟩

theorem eq_answer_of_ending {α : Type} {reply : Reply α} {a : α}
    (h : reply.ending = .returned (.ok a)) : reply = .answer a := by
  cases reply <;> cases h
  rfl

/-- The rows are the answer of the store to one call. -/
theorem answer_of_fetch {rows : List AttributeMap}
    (h : (e.step store (.fetch d) s).ending = .returned (.ok rows)) :
    ∃ statement, d.compile e.dialect = .ok statement ∧
      (e.step store (.fetch d) s).log = [⟨.query statement, .answer rows⟩] := by
  obtain ⟨state, lock⟩ := s
  simp only [step, perform, fetch] at h ⊢
  cases hd : d.compile e.dialect with
  | error fault =>
    rw [hd] at h
    cases lock <;> cases h
  | ok statement =>
    rw [hd] at h
    cases lock with
    | held => cases h
    | poisoned => cases h
    | free =>
      have hfree : (Session.mk state Lock.free).lock = .free := rfl
      obtain ⟨s', hrun⟩ := run_locked_ask store hfree (.query statement)
      have hreply : (store.respond state (.query statement)).1 = .answer rows :=
        eq_answer_of_ending ((congrArg Run.ending hrun).symm.trans h)
      refine ⟨statement, rfl, (congrArg Run.log hrun).trans ?_⟩
      rw [Store.exchange, hreply]

end Reading

/-! ## All requests -/

/-- Engines that differ in their mappers only, on sessions that are alike, show the same in any run
of requests that does not read the mapper. And reading records is reading rows, which are the answer
of the store to one call, and then mapping them one after the other by their attribute columns, even
if the mapper is strict. -/
theorem indifferent_to_mapper (h : s.Alike store other s') (dialect : Dialect) (m m' : Mapper) :
    (∀ qs : List Request, (∀ q ∈ qs, q ≠ .readMapper) →
      trace ⟨dialect, m⟩ store qs s = trace ⟨dialect, m'⟩ other qs s') ∧
    ∀ t d q select, TypedRead t d q select →
      let raw := step ⟨dialect, m⟩ store (.fetch d) s
      let run := step ⟨dialect, m⟩ store q s
      run.log = raw.log ∧ ReadEnding m t select raw.ending run.ending ∧
        ∀ rows, raw.ending = .returned (.ok rows) → ∃ statement, d.compile dialect = .ok statement ∧
          raw.log = [⟨.query statement, .answer rows⟩] := by
  refine ⟨fun qs hqs => trace_eq hqs h, fun t d q select hread => ?_⟩
  obtain ⟨hlog, hending⟩ := reads_step ⟨dialect, m⟩ store s hread
  exact ⟨hlog, hending, fun rows hrows => answer_of_fetch ⟨dialect, m⟩ store s hrows⟩

/-- A strict mapper refuses a row for a column that is no attribute. Still a strict engine reads a
record from it, as one does that is not strict. -/
theorem indifferent_to_mapper_archived :
    let t : RecordType := ⟨"notes", "id", [⟨"id", .integer⟩, ⟨"title", .text⟩], []⟩
    let row : AttributeMap :=
      .ofList [("id", .integer 1), ("archived", .integer 0), ("title", .text "first")]
    let r : Record t := ⟨⟨#[.integer 1, .text "first"], rfl⟩⟩
    let strict : Engine := ⟨.sqlite, ⟨.underscore, true⟩⟩
    let lenient : Engine := ⟨.sqlite, ⟨.camel, false⟩⟩
    let d : Dataset := Dataset.empty.fromTable t.table
    let s : Session Script := .fresh (Script.empty.load [.rows [row], .affected 0] none none)
    let qs : List Request := [.fetchAs t d, .save t r false]
    let read := (strict.step Script.store (.fetchAs t d) s).ending
    strict.mapper.fromMap t row true = .error (.unknownAttribute "archived" "notes") ∧
      read = .returned (.ok [r]) ∧
      strict.trace Script.store qs s = lenient.trace Script.store qs s ∧
      ReadEnding strict.mapper t id (strict.step Script.store (.fetch d) s).ending read := by
  have hself (s : Session Script) : s.Alike Script.store Script.store s := ⟨fun _ => rfl, rfl⟩
  refine ⟨rfl, rfl, (indifferent_to_mapper (hself _) .sqlite _ _).1 _ ?_, ?_⟩
  · exact List.forall_mem_cons.mpr ⟨nofun, List.forall_mem_singleton.mpr nofun⟩
  · exact ((indifferent_to_mapper (hself _) .sqlite _ .default).2 _ _ _ _ (.fetchAs _)).2.1

end RowMap.Engine
