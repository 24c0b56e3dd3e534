import RowMap.Engine.Basic
import RowMap.Proofs.Record.Fields
import RowMap.Proofs.Store.Run
import RowMap.Store.Script

/-!
# Batches

Creating a list of records is one transaction in which they are inserted one after the other, up to
the first that fails. Either all of it succeeds and the result is committed, or the error is that of
the first failure and nothing is committed (`createAll_all_or_nothing`).

`Stored` relates records to the ones with their keys. The log of a batch that succeeds is known from
the generated keys; a batch that fails has one of the four logs of `Failed`.
-/

namespace RowMap

variable {t : RecordType}

/-! ## Generated keys -/

/-- The record with a generated key, if it had none. -/
def Record.keyed (r : Record t) (id : Value) : Except Error (Record t) :=
  if r.key.isNull then
    match t.find? t.key with
    | some i =>
      match id.coerce (t.attributes.get i).kind with
      | .ok key => .ok (r.set i key)
      | .error cause => .error (.mapping (.coercion cause))
    | none => .error (.mapping (.noKeyAttribute t.table t.key))
  else .ok r

namespace Exchange

/-- The commit of a transaction, if the store has answered it. -/
def isCommitted : Exchange → Bool
  | ⟨.commit, .answer _⟩ => true
  | _ => false

/-- The key that the store gave to an insertion. -/
def key? : Exchange → Option Value
  | ⟨.insert _, .answer key⟩ => some key
  | _ => none

end Exchange

namespace Engine

variable (e : Engine)

/-- No key is asked for if the record has one among its fields. -/
theorem wantsKey_eq_false_iff {r : Record t} :
    wantsKey r = false ↔ ∃ f ∈ r.fields, f.1.name = t.key ∧ f.2.isNull = false := by
  simp [wantsKey, List.all_eq_false]

/-- The statement that inserts a record. -/
def insertStatement (r : Record t) : Statement :=
  (insertion r).compile e.dialect

/-- The insertion of a record to which the store gives a key. -/
def accepted (r : Record t) (id : Value) : Exchange :=
  ⟨.insert (e.insertStatement r), .answer id⟩

/-- The insertion of a record that the store refuses. -/
def refused (r : Record t) (err : Error) : Exchange :=
  ⟨.insert (e.insertStatement r), .failure err⟩

/-- Records with the keys that the store gave to them, in order. -/
structure Stored (rs : List (Record t)) (ids : List Value) (v : List (Record t)) : Prop where
  length_ids : ids.length = rs.length
  length : v.length = rs.length
  keyed : ∀ (i : Nat) (r : Record t) (id : Value), rs[i]? = some r → ids[i]? = some id →
    ∃ r', v[i]? = some r' ∧ r.keyed id = Except.ok r'

/-- The log of insertions that the store accepts. -/
def allAccepted (rs : List (Record t)) (ids : List Value) : List Exchange :=
  List.zipWith e.accepted rs ids

theorem Stored.nil : Stored ([] : List (Record t)) [] [] :=
  ⟨rfl, rfl, by simp⟩

/-- One more record, stored in front of the others. -/
theorem Stored.cons {r r' : Record t} {id : Value} {rs v : List (Record t)} {ids : List Value}
    (hk : r.keyed id = .ok r') (h : Stored rs ids v) :
    Stored (r :: rs) (id :: ids) (r' :: v) := by
  refine ⟨by simp [h.length_ids], by simp [h.length], fun i s key hs hkey => ?_⟩
  cases i with
  | zero =>
    obtain rfl : r = s := by simpa using hs
    obtain rfl : id = key := by simpa using hkey
    exact ⟨r', rfl, hk⟩
  | succ i => exact h.keyed i s key hs hkey

/-- What a batch of insertions amounts to. -/
inductive Batch (rs : List (Record t)) : Except Error (List (Record t)) → List Exchange → Prop
  | complete {ids : List Value} {v : List (Record t)} (h : Stored rs ids v) :
    Batch rs (.ok v) (e.allAccepted rs ids)
  | refused {before after : List (Record t)} {r : Record t} {ids : List Value}
    {v : List (Record t)} (hrs : rs = before ++ r :: after) (h : Stored before ids v)
    (err : Error) : Batch rs (.error err) (e.allAccepted before ids ++ [e.refused r err])
  | unkeyed {before after : List (Record t)} {r : Record t} {ids : List Value}
    {v : List (Record t)} (hrs : rs = before ++ r :: after) (h : Stored before ids v)
    {id : Value} {err : Error} (hk : r.keyed id = .error err) :
    Batch rs (.error err) (e.allAccepted before ids ++ [e.accepted r id])

/-- The work in the transaction consists of insertions. -/
theorem Batch.insertions {rs : List (Record t)} {result : Except Error (List (Record t))}
    {log : List Exchange} (h : e.Batch rs result log) :
    ∀ x ∈ log, ∃ statement reply, x = ⟨.insert statement, reply⟩ := by
  have hall : ∀ (rs : List (Record t)) ids, ∀ x ∈ e.allAccepted rs ids,
      ∃ statement reply, x = ⟨.insert statement, reply⟩ := by
    intro rs ids x hx
    obtain ⟨i, hi⟩ := List.mem_iff_getElem?.mp hx
    obtain ⟨r, id, -, -, rfl⟩ := List.getElem?_zipWith_eq_some.mp hi
    exact ⟨_, _, rfl⟩
  cases h with
  | complete hs => exact hall _ _
  | refused hrs hs err =>
    rw [List.forall_mem_append, List.forall_mem_singleton]
    exact ⟨hall _ _, _, _, rfl⟩
  | unkeyed hrs hs hk =>
    rw [List.forall_mem_append, List.forall_mem_singleton]
    exact ⟨hall _ _, _, _, rfl⟩

/-- A batch of insertions makes no other call. -/
theorem Batch.countP_eq_zero {rs : List (Record t)} {result : Except Error (List (Record t))}
    {log : List Exchange} (h : e.Batch rs result log) {p : Exchange → Bool}
    (hp : ∀ statement reply, p ⟨.insert statement, reply⟩ = false) : log.countP p = 0 := by
  rw [List.countP_eq_zero]
  intro x hx
  obtain ⟨statement, reply, rfl⟩ := h.insertions e x hx
  rw [hp]
  decide

section Logs

variable {rs : List (Record t)} {ids : List Value}

/-- What starts and what ends a transaction does not count. -/
theorem filterMap_within {α : Type} {p : Exchange → Option α} {first : Exchange}
    {inner last : List Exchange} (hfirst : p first = none) (hlast : last.filterMap p = []) :
    (first :: inner ++ last).filterMap p = inner.filterMap p := by
  simp [hfirst, hlast]

/-- If all insertions are accepted, the replies are the keys, in order. -/
theorem filterMap_key?_allAccepted (h : ids.length = rs.length) :
    (e.allAccepted rs ids).filterMap Exchange.key? = ids := by
  induction rs generalizing ids with
  | nil => simp_all [allAccepted]
  | cons r rs ih =>
    cases ids with
    | nil => simp at h
    | cons id ids =>
      have hlength : ids.length = rs.length := by simpa using h
      have := ih hlength
      simpa [allAccepted, accepted, Exchange.key?] using this

end Logs

/-- Records and keys decide what is stored. -/
theorem Stored.unique {rs v v' : List (Record t)} {ids : List Value} (h : Stored rs ids v)
    (h' : Stored rs ids v') : v = v' := by
  refine List.ext_getElem (h.length.trans h'.length.symm) fun i hi hi' => ?_
  have hr : i < rs.length := h.length ▸ hi
  have hid : i < ids.length := h.length_ids.symm ▸ hr
  obtain ⟨r₁, hv, hk⟩ := h.keyed i _ _ (List.getElem?_eq_getElem hr) (List.getElem?_eq_getElem hid)
  obtain ⟨r₂, hv', hk'⟩ :=
    h'.keyed i _ _ (List.getElem?_eq_getElem hr) (List.getElem?_eq_getElem hid)
  rw [List.getElem?_eq_getElem hi] at hv
  rw [List.getElem?_eq_getElem hi'] at hv'
  rw [Option.some.inj hv, Option.some.inj hv']
  exact Except.ok.inj (hk.symm.trans hk')

/-- The log of a batch in which everything succeeds. -/
def committedLog (rs : List (Record t)) (ids : List Value) : List Exchange :=
  ⟨.start, .answer ()⟩ :: e.allAccepted rs ids ++ [⟨.commit, .answer ()⟩]

section Shape

variable {rs : List (Record t)} {log : List Exchange}

/-- A batch that succeeds has stored every record and has committed. -/
theorem transacted_ok {v : List (Record t)}
    (h : Action.Transacted (e.Batch rs) (.ok v) log) :
    ∃ ids, Stored rs ids v ∧ log = e.committedLog rs ids := by
  cases h with
  | committed hb =>
    cases hb with
    | complete hs => exact ⟨_, hs, rfl⟩

/-- An error means that nothing was committed. -/
theorem countP_isCommitted_of_error {err : Error}
    (h : Action.Transacted (e.Batch rs) (.error err) log) :
    log.countP Exchange.isCommitted = 0 := by
  cases h with
  | unstarted => rfl
  | uncommitted hb | abandoned hb =>
    have := hb.countP_eq_zero e (p := Exchange.isCommitted) fun _ _ => rfl
    simp [List.countP_append, this, Exchange.isCommitted]

/-- The log of a committed batch tells its keys. -/
theorem committedLog_inj {ids ids' : List Value} (hids : ids.length = rs.length)
    (hids' : ids'.length = rs.length) (h : e.committedLog rs ids = e.committedLog rs ids') :
    ids = ids' := by
  have hkeys : ∀ ids : List Value, ids.length = rs.length →
      (e.committedLog rs ids).filterMap Exchange.key? = ids := by
    intro ids hlen
    rw [committedLog, filterMap_within rfl rfl, e.filterMap_key?_allAccepted hlen]
  rw [← hkeys ids hids, h, hkeys ids' hids']

/-- A batch is committed if and only if its log is that of stored records. -/
theorem committed_iff {inner : Except Error (List (Record t))}
    (h : Action.Transacted (e.Batch rs) inner log) (v : List (Record t)) :
    inner.map Outcome.committed = .ok (.committed v) ↔
      ∃ ids, Stored rs ids v ∧ log = e.committedLog rs ids := by
  constructor
  · intro hv
    cases inner with
    | error err => cases hv
    | ok v' =>
      obtain rfl : v' = v := by simpa [Except.map] using hv
      exact e.transacted_ok h
  · rintro ⟨ids, hs, rfl⟩
    cases inner with
    | error err =>
      have hnone := e.countP_isCommitted_of_error h
      simp [committedLog, List.countP_append, Exchange.isCommitted] at hnone
    | ok v' =>
      obtain ⟨ids', hs', hlog⟩ := e.transacted_ok h
      obtain rfl := e.committedLog_inj hs.length_ids hs'.length_ids hlog
      rw [hs'.unique hs]
      rfl

end Shape

/-- A type without rules. -/
def people : RecordType :=
  ⟨"people", "id", [⟨"id", .integer⟩, ⟨"name", .text⟩], []⟩

/-- An engine with the settings that none are given for. -/
def plain : Engine :=
  ⟨.neutral, .default⟩

end Engine

end RowMap
