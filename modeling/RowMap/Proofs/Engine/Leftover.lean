import RowMap.Proofs.Engine.Batch
import RowMap.Proofs.Engine.Panic
import RowMap.Proofs.Engine.Refusal

/-!
# Rows that outlive an error

A record that is created outside a batch is inserted without a transaction, and its key is set only
after the store has accepted it. If the key that the store gives cannot be set, then the error comes
too late: the row stays. That is the only way for it. An error leaves no row behind exactly if every
key that the store gives is one that the record takes (`error_leaves_nothing_iff`), which a record
with a key of its own always does. Saving is no different, since it inserts by creating.
-/

namespace RowMap

open RowMap.Action

variable {t : RecordType}

/-! ## Keys that a record takes -/

/-- A key from the store does no harm: the record has one of its own, or its key attribute can hold
the given one. -/
def Record.Takes (r : Record t) (id : Value) : Prop :=
  (∃ f ∈ r.fields, f.1.name = t.key ∧ f.2.isNull = false) ∨
    ∃ a key, t.attribute? t.key = some a ∧ id.coerce a.kind = .ok key

theorem Record.exists_setKey_iff {r : Record t} {id : Value} :
    (∃ r', r.setKey id = .ok r') ↔
      ∃ a key, t.attribute? t.key = some a ∧ id.coerce a.kind = .ok key := by
  rw [Record.setKey, RecordType.attribute?]
  cases t.find? t.key with
  | none => simp
  | some i =>
    simp only [mapError_eq_ok, Record.assign, map_eq_ok, Option.map_some, Option.some.injEq]
    constructor
    · rintro ⟨r', key, hkey, -⟩
      exact ⟨_, key, rfl, hkey⟩
    · rintro ⟨_, key, rfl, hkey⟩
      exact ⟨_, key, hkey, rfl⟩

/-! ## What creating leaves behind -/

/-- What comes of making a record, by the keys of the insertions that the store has accepted. -/
inductive Made (r : Record t) (log : List Exchange) : Except Error (Outcome (Record t)) → Prop
  | nothing {result : Except Error (Outcome (Record t))} (hlog : log.filterMap Exchange.key? = []) :
    Made r log result
  | row {id : Value} (hlog : log.filterMap Exchange.key? = [id]) (h : r.Takes id)
    (r' : Record t) : Made r log (.ok (.committed r'))
  /-- The row is in the store, and the error does not tell. -/
  | leftover {id : Value} (hlog : log.filterMap Exchange.key? = [id]) (h : ¬r.Takes id)
    (err : Error) : Made r log (.error err)

section Made

variable {r : Record t} {log : List Exchange} {result : Except Error (Outcome (Record t))}

theorem Made.append {earlier : List Exchange} (h : Made r log result)
    (hearlier : earlier.filterMap Exchange.key? = []) : Made r (earlier ++ log) result := by
  have hkeys : (earlier ++ log).filterMap Exchange.key? = log.filterMap Exchange.key? := by
    rw [List.filterMap_append, hearlier, List.nil_append]
  cases h with
  | nothing hlog => exact .nothing (hkeys.trans hlog)
  | row hlog h r' => exact .row (hkeys.trans hlog) h r'
  | leftover hlog h err => exact .leftover (hkeys.trans hlog) h err

/-- Neither an error nor a row without its record, if every key is taken. -/
theorem Made.error_iff (h : Made r log result) :
    ((∃ err, result = .error err) → log.filterMap Exchange.key? = []) ↔
      ∀ id ∈ log.filterMap Exchange.key?, r.Takes id := by
  cases h with
  | nothing hlog => simp [hlog]
  | row hlog h r' => simp [hlog, h]
  | leftover hlog h err => simp [hlog, h]

theorem Made.committed_iff (h : Made r log result) :
    (log.filterMap Exchange.key? ≠ [] → ∃ r', result = .ok (.committed r')) ↔
      ∀ id ∈ log.filterMap Exchange.key?, r.Takes id := by
  cases h with
  | nothing hlog => simp [hlog]
  | row hlog h r' => simp [hlog, h]
  | leftover hlog h err => simp [hlog, h]

end Made

/-- Calls that insert nothing generate no keys. -/
theorem filterMap_key?_eq_nil {log : List Exchange} (h : ∀ x ∈ log, ∀ st, x.call ≠ .insert st) :
    log.filterMap Exchange.key? = [] := by
  rw [List.filterMap_eq_nil_iff]
  rintro ⟨call, reply⟩ hx
  cases call with
  | insert st => exact absurd rfl (h _ hx st)
  | _ => rfl

namespace Engine

variable (e : Engine)

/-- An insertion and what becomes of its key. -/
theorem yields_insertRecord_made (lock : Lock) (r : Record t) :
    (e.insertRecord r).run.Yields lock fun result log => Made r log (result.map .committed) := by
  unfold insertRecord
  refine yields_bind (yields_ask _) (fun id log hid => ?_) (fun err log herr => ?_)
  · obtain rfl : log = [⟨.insert ((insertion r).compile e.dialect), .answer id⟩] := hid
    cases hwants : wantsKey r with
    | false =>
      have htakes : r.Takes id := .inl (wantsKey_eq_false_iff.mp hwants)
      exact yields_pure (.row rfl htakes r)
    | true =>
      have hown : ¬∃ f ∈ r.fields, f.1.name = t.key ∧ f.2.isNull = false := by
        rw [← wantsKey_eq_false_iff, hwants]
        decide
      cases hset : r.setKey id with
      | ok r' =>
        have htakes : r.Takes id := .inr (Record.exists_setKey_iff.mp ⟨r', hset⟩)
        exact yields_ofExcept (.row rfl htakes r')
      | error fault =>
        have htakes : ¬r.Takes id := by
          rintro (hkey | hfits)
          · exact hown hkey
          · obtain ⟨r', hr'⟩ := Record.exists_setKey_iff.mpr hfits
            rw [hset] at hr'
            cases hr'
        exact yields_ofExcept (.leftover rfl htakes (.mapping fault))
  · obtain rfl : log = [⟨.insert ((insertion r).compile e.dialect), .failure err⟩] := herr
    exact .nothing rfl

theorem yields_create_made (r : Record t) (skip : Bool) :
    (e.create r skip).run.Yields .free fun result log => Made r log result := by
  by_cases hvs : violationsUnless skip r = []
  · rw [create, hvs]
    refine (yields_map (yields_locked (e.yields_insertRecord_made .held r)) _).mono ?_
    rintro _ log ⟨inner, rfl, hmade⟩
    exact hmade
  · rw [e.create_of_invalid hvs]
    exact yields_pure (.nothing rfl)

/-- Before a record is created, saving it makes no insertion. -/
theorem yields_save_made (r : Record t) (skip : Bool) :
    (e.save r skip).run.Yields .free fun result log => Made r log result := by
  have hlater (skip : Bool) {earlier : List Exchange}
      (h : ∀ x ∈ earlier, ∀ st, x.call ≠ .insert st) :
      (e.create r skip).run.Yields .free fun result log => Made r (earlier ++ log) result :=
    (e.yields_create_made r skip).mono fun _ _ hmade => hmade.append (filterMap_key?_eq_nil h)
  have hdone {result : Except Error (Outcome (Record t))} {log : List Exchange}
      (h : ∀ x ∈ log, ∀ st, x.call ≠ .insert st) : Made r log result :=
    .nothing (filterMap_key?_eq_nil h)
  unfold save
  split
  · exact e.yields_create_made r skip
  · split
    · have hquery := (e.puts_queryByKey t r.key (P := fun c => ∀ st, c ≠ .insert st)
        fun _ => nofun).yields (e.orderly_queryByKey t r.key).guarded
      refine yields_bind hquery (fun found log hlog => ?_) (fun err log hlog => hdone hlog)
      split
      · exact hlater skip hlog
      · split <;> exact yields_pure (hdone (by simpa using hlog))
    · have hputs : (e.update r.key r skip).run.Puts fun c => ∀ st, c ≠ .insert st :=
        e.puts_update skip fun _ _ _ h => by cases h
      have hupdate := hputs.yields (e.orderly_update r.key r skip).guarded
      refine yields_bind hupdate (fun outcome log hlog => ?_) (fun err log hlog => hdone hlog)
      split
      · exact hlater true hlog
      · exact yields_pure (hdone (by simpa using hlog))
      · exact yields_pure (hdone (by simpa using hlog))

/-- Creating or saving a record leaves nothing behind when it ends with an error, or, which is the
same, commits the record whenever the store has inserted it, exactly if the record takes every key
that the store gives to it. -/
theorem error_leaves_nothing_iff {σ : Type} (store : Store σ) (s : Session σ)
    (hlock : s.lock = .free) (r : Record t) (skip : Bool) {x : Action (Outcome (Record t))}
    (hx : x = e.create r skip ∨ x = e.save r skip)
    (hpanic : (x.run.run store s).ending ≠ .panicked) :
    ∃ result s' log, x.run.run store s = ⟨.returned result, s', log⟩ ∧
      (((∃ err, result = .error err) → log.filterMap Exchange.key? = []) ↔
        ∀ id ∈ log.filterMap Exchange.key?, r.Takes id) ∧
      ((log.filterMap Exchange.key? ≠ [] → ∃ r', result = .ok (.committed r')) ↔
        ∀ id ∈ log.filterMap Exchange.key?, r.Takes id) := by
  have hyields : x.run.Yields .free fun result log => Made r log result := by
    rcases hx with rfl | rfl
    · exact e.yields_create_made r skip
    · exact e.yields_save_made r skip
  obtain ⟨result, s', log, hrun, -, hmade⟩ := (hyields σ store s hlock).resolve_left hpanic
  exact ⟨result, s', log, hrun, hmade.error_iff, hmade.committed_iff⟩

/-- A person whose key the store is to give. -/
def newcomer : Record people :=
  ⟨#v[.null, .text "Cyd"]⟩

/-- The newcomer takes the number that the store gives. -/
theorem error_leaves_nothing_iff_newcomer :
    ∃ r' s' log, (plain.create newcomer false).run.run Script.store (.fresh .empty) =
        ⟨.returned (.ok (.committed r')), s', log⟩ ∧
      log.filterMap Exchange.key? = [.integer 1] ∧ newcomer.Takes (.integer 1) := by
  have htakes : newcomer.Takes (.integer 1) :=
    .inr ⟨⟨"id", .integer⟩, .integer 1, rfl, rfl⟩
  obtain ⟨ending, s', hrun, hending⟩ : ∃ ending s',
      (plain.create newcomer false).run.run Script.store (.fresh .empty) =
        ⟨ending, s', [plain.accepted newcomer (.integer 1)]⟩ ∧ ending ≠ .panicked :=
    ⟨_, _, rfl, nofun⟩
  obtain ⟨result, _, log, hsame, -, hcommitted⟩ :=
    plain.error_leaves_nothing_iff Script.store (.fresh .empty) rfl newcomer false (.inl rfl)
      (by rwa [hrun])
  obtain ⟨-, -, hlog⟩ := Run.mk.inj (hrun.symm.trans hsame)
  have hkeys : log.filterMap Exchange.key? = [.integer 1] := by
    rw [← hlog]
    rfl
  rw [hkeys] at hcommitted
  obtain ⟨r', rfl⟩ := hcommitted.mpr (List.forall_mem_singleton.mpr htakes) (List.cons_ne_nil _ _)
  exact ⟨r', _, log, hsame, hkeys, htakes⟩

/-- Orders whose key is no attribute. -/
def unnumberedOrders : RecordType :=
  ⟨"orders", "id", [⟨"no", .text⟩], []⟩

/-- An order without a place for its key. -/
def entry : Record unnumberedOrders :=
  ⟨#v[.text "A-1"]⟩

/-- The row of the order stays in the store, though creating it has failed. -/
theorem create_entry_leaves_row :
    ∃ s', (plain.create entry false).run.run Script.store (.fresh .empty) =
        ⟨.returned (.error (.mapping (.noKeyAttribute "orders" "id"))), s',
          [plain.accepted entry (.integer 1)]⟩ ∧
      [plain.accepted entry (.integer 1)].filterMap Exchange.key? = [.integer 1] ∧
      ¬entry.Takes (.integer 1) := by
  refine ⟨_, rfl, rfl, ?_⟩
  rintro (⟨f, hf, hname, -⟩ | ⟨a, key, hattribute, -⟩)
  · obtain rfl := List.mem_singleton.mp hf
    exact absurd hname (by decide)
  · have hnone : unnumberedOrders.attribute? unnumberedOrders.key = none := rfl
    rw [hnone] at hattribute
    cases hattribute

end Engine

end RowMap
