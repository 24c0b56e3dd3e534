import RowMap.Engine.Basic
import RowMap.Proofs.Record.Mapper
import RowMap.Proofs.Store.Calls
import RowMap.Store.Script

/-!
# Records in the hands of a caller

A caller gets records from a mapper and from the reads of an engine, and may set their keys. In each
of these records every slot is null or has the type of its attribute, whatever the maps held and
whatever the store has answered (`Produced.typed`). All of them were coerced on the way, and
coercing them again changes nothing (`coerce_normalises`).

A key is set in place by `Record.rekey`. It is coerced before anything is written, so a key that is
refused leaves the record as it was (`run_rekey`).
-/

namespace RowMap

variable {α β : Type} {t : RecordType}

/-- The record afterwards is the one with the key, or the same if the key is refused. -/
theorem Record.run_rekey (r : Record t) (id : Value) : (rekey id).run.run r =
    match r.setKey id with
    | .ok r' => (.ok (), r')
    | .error fault => (.error fault, r) := by
  unfold rekey setKey assign
  cases t.find? t.key with
  | none => rfl
  | some i =>
    dsimp only
    cases id.coerce (t.attributes.get i).kind <;> rfl

/-- Setting the key keeps a record typed. -/
theorem Record.Typed.setKey {r r' : Record t} {id : Value} (hr : r.Typed)
    (h : r.setKey id = .ok r') : r'.Typed := by
  unfold Record.setKey at h
  split at h
  · exact hr.assign (mapError_eq_ok.mp h)
  · cases h

/-- Setting the key in place keeps a record typed, also when it fails. -/
theorem Record.Typed.rekey {r : Record t} (hr : r.Typed) (id : Value) :
    ((rekey id).run.run r).2.Typed := by
  rw [run_rekey]
  cases h : r.setKey id with
  | ok r' => exact hr.setKey h
  | error fault => exact hr

/-- In some run, on whatever store and in whatever state of its lock, the action returns the value.
-/
def Action.Returns (x : Action α) (a : α) : Prop :=
  ∃ (σ : Type) (store : Store σ) (s : Session σ),
    (x.run.run store s).ending = .returned (.ok a)

namespace Action

/-- What a sequence returns comes from what its first action returns. -/
theorem Returns.bind {x : Action α} {f : α → Action β} {b : β} (h : (x >>= f).Returns b) :
    ∃ a, x.Returns a ∧ (f a).Returns b := by
  obtain ⟨σ, store, s, hrun⟩ := h
  obtain ⟨a, s', hx, hf⟩ := exists_of_bind hrun
  exact ⟨a, ⟨σ, store, s, hx⟩, σ, store, s', hf⟩

theorem Returns.ofExcept {result : Except Error α} {a : α} (h : (ofExcept result).Returns a) :
    result = .ok a := by
  obtain ⟨σ, store, s, hrun⟩ := h
  exact Ending.returned.inj hrun

theorem Returns.pure {a b : α} (h : (Pure.pure a : Action α).Returns b) : a = b := by
  obtain ⟨σ, store, s, hrun⟩ := h
  exact Except.ok.inj (Ending.returned.inj hrun)

end Action

namespace Engine

variable {e : Engine}

/-- The records of a dataset come from its rows. -/
theorem typed_of_fetchAs {d : Dataset} {rs : List (Record t)} (h : (e.fetchAs t d).Returns rs) :
    ∀ r ∈ rs, r.Typed := by
  obtain ⟨rows, -, hrows⟩ := h.bind
  intro r hr
  obtain ⟨row, -, hrow⟩ := exists_of_mem_mapM (mapError_eq_ok.mp hrows.ofExcept) hr
  exact Mapper.fromMap_typed hrow

/-- The first record that is read is typed. -/
theorem typed_of_head? {d : Dataset} {r : Record t}
    (h : (e.fetchAs t d >>= fun records => pure records.head?).Returns (some r)) : r.Typed := by
  obtain ⟨records, hrecords, hhead⟩ := h.bind
  exact typed_of_fetchAs hrecords r (List.mem_of_head? hhead.pure)

end Engine

/-- The records that a caller can come by: from a map, from the typed reads of an engine on any
store, and by setting keys, whether they are taken or refused. -/
inductive Record.Produced : Record t → Prop
  | mapped {m : Mapper} {map : AttributeMap} {underscoreKeys : Bool} {r : Record t}
    (h : m.fromMap t map underscoreKeys = .ok r) : Produced r
  | fetched {e : Engine} {d : Dataset} {rs : List (Record t)} (h : (e.fetchAs t d).Returns rs)
    {r : Record t} (hr : r ∈ rs) : Produced r
  | queried {e : Engine} {condition : String} {params : List Value} {rs : List (Record t)}
    (h : (e.query t condition params).Returns rs) {r : Record t} (hr : r ∈ rs) : Produced r
  | first {e : Engine} {condition : String} {params : List Value} {r : Record t}
    (h : (e.queryFirst t condition params).Returns (some r)) : Produced r
  | ofKey {e : Engine} {id : Value} {r : Record t} (h : (e.queryByKey t id).Returns (some r)) :
    Produced r
  | rekeyed {r : Record t} (h : Produced r) (id : Value) : Produced ((rekey id).run.run r).2

/-- Every record that is produced is typed. -/
theorem Record.Produced.typed {r : Record t} (h : r.Produced) : r.Typed := by
  induction h with
  | mapped h => exact Mapper.fromMap_typed h
  | fetched h hr => exact Engine.typed_of_fetchAs h _ hr
  | queried h hr => exact Engine.typed_of_fetchAs h _ hr
  | first h => exact Engine.typed_of_head? h
  | ofKey h => exact Engine.typed_of_head? h
  | rekeyed _ id ih => exact ih.rekey id

/-- Coercion makes null of null only, makes values with the type of the kind of all others, and
leaves its results alone. So every slot of a record that a caller can come by is null or has its
type and is not changed by coercing it again. Setting a key keeps this of any record that has it,
and a key that is refused leaves any record as it was. -/
theorem coerce_normalises :
    (∀ (v w : Value) (k : Kind), v.coerce k = .ok w →
      (v = .null ∧ w = .null ∨ v ≠ .null ∧ w.HasKind k) ∧ w.coerce k = .ok w) ∧
    ∀ (t : RecordType) (r : Record t),
      (r.Produced → ∀ i, (r.get i = .null ∨ (r.get i).HasKind (t.attributes.get i).kind) ∧
        (r.get i).coerce (t.attributes.get i).kind = .ok (r.get i)) ∧
      ∀ id, (r.Typed → ((Record.rekey id).run.run r).2.Typed) ∧
        (Record.rekey id).run.run r = match r.setKey id with
          | .ok r' => (.ok (), r')
          | .error fault => (.error fault, r) := by
  constructor
  · intro v w k h
    exact ⟨Value.coerce_eq_ok_cases h, Value.coerce_of_isOf (Value.isOf_of_coerce h)⟩
  · intro t r
    refine ⟨fun h i => ?_, fun id => ⟨fun hr => hr.rekey id, r.run_rekey id⟩⟩
    have hslot := h.typed i
    exact ⟨Value.isOf_iff.mp hslot, Value.coerce_of_isOf hslot⟩

/-- A type with attributes of three kinds. -/
def parcels : RecordType :=
  ⟨"parcels", "id", [⟨"id", .integer⟩, ⟨"fragile", .boolean⟩, ⟨"sent_at", .timestamp⟩], []⟩

/-- A row of the table, where all values are kept as numbers and texts. -/
def parcelRow : AttributeMap :=
  .ofList [("fragile", .integer 1), ("id", .text " 7 "), ("sent_at", .text "2024-02-29")]

def parcel : Record parcels :=
  ⟨#v[.integer 7, .boolean true, .timestamp ⟨⟨2024, 2, 29, by decide⟩, .midnight⟩]⟩

/-- A parcel is read from its row, and a word is refused as its key. -/
theorem coerce_normalises_parcel :
    (Value.text " 7 ").coerce .integer = .ok (.integer 7) ∧
      (Value.integer 7).coerce .integer = .ok (.integer 7) ∧ parcel.Produced ∧
      (∀ i, (parcel.get i).coerce (parcels.attributes.get i).kind = .ok (parcel.get i)) ∧
      (Record.rekey (.text "seven")).run.run parcel =
        (.error (.coercion (.invalid .integer)), parcel) := by
  have hseven : (Value.text " 7 ").coerce .integer = .ok (.integer 7) := rfl
  have hread : ((⟨.sqlite, .default⟩ : Engine).query parcels "fragile" []).Returns [parcel] :=
    ⟨Script, Script.store, .fresh ⟨[.rows [parcelRow]], 0, none, none⟩, rfl⟩
  have hproduced : parcel.Produced := .queried hread List.mem_cons_self
  have hrefused : parcel.setKey (.text "seven") = .error (.coercion (.invalid .integer)) := rfl
  obtain ⟨hcoerce, hrecords⟩ := coerce_normalises
  obtain ⟨hslots, hkeys⟩ := hrecords parcels parcel
  obtain ⟨-, hrekey⟩ := hkeys (.text "seven")
  rw [hrefused] at hrekey
  exact ⟨hseven, (hcoerce _ _ _ hseven).2, hproduced, fun i => (hslots hproduced i).2, hrekey⟩

end RowMap
