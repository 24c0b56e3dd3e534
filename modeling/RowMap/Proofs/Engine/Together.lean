import RowMap.Proofs.Engine.Refusal
import RowMap.Proofs.Query.WellFormed
import RowMap.Proofs.Store.Turns

/-!
# Records saved together

Two parties save a record of the same key at the same time, in a table that has at most one row for
a key. Each of them updates the row first, and gives the lock back before it inserts the record that
had no row. If the table has the row, or if one party has its first two turns before the other one
has any, then saving together is saving one after the other. Otherwise both find no row and both
insert, and the second insertion fails. So saving together is safe exactly in the first cases, if a
row can be updated by its key at all (`together_serial_iff`).
-/

namespace RowMap

open RowMap.Action
open RowMap.Program (inOrder interleave opening)

variable {σ : Type} {t : RecordType}

namespace Engine

variable (e : Engine)

/-- The store keeps the rows of a table, of which `rows` have the key: an update by the key tells
how many they are, and an insertion adds one, unless the key is taken. -/
structure KeyedTable (t : RecordType) (id : Value) (store : Store σ) (rows : σ → Nat) : Prop where
  update : ∀ (state : σ) (r : Record t) (statement : Statement),
    Update.compile ⟨t.table, assignments r, some (hasKey t id)⟩ e.dialect = .ok statement →
      ∃ state', store.respond state (.execute statement) = (.answer (rows state), state') ∧
        rows state' = rows state
  insert : ∀ (state : σ) (r : Record t), r.key = id → rows state = 0 →
    ∃ key state', store.respond state (.insert (e.insertStatement r)) = (.answer key, state') ∧
      rows state' = 1
  taken : ∀ (state : σ) (r : Record t), r.key = id → 0 < rows state →
    ∃ err state', store.respond state (.insert (e.insertStatement r)) = (.failure err, state') ∧
      rows state' = rows state

/-- The record has the key and something to update, and nothing speaks against saving it. -/
structure Savable (id : Value) (skip : Bool) (r : Record t) : Prop where
  key : r.key = id
  set : assignments r ≠ []
  valid : skip = true ∨ r.violations = []

/-- A record that can be saved has no violations that count. -/
theorem Savable.violations {id : Value} {skip : Bool} {r : Record t} (h : Savable id skip r) :
    violationsUnless skip r = [] := by
  rcases h.valid with rfl | hvalid
  · rfl
  · rw [violationsUnless, hvalid, ite_self]

/-- A row is updated by its key exactly if the key is the name of a column. -/
theorem exists_compile_update_iff {r : Record t} {id : Value} (hr : assignments r ≠ [])
    (hid : id.isNull = false) :
    (∃ statement, Update.compile ⟨t.table, assignments r, some (hasKey t id)⟩ e.dialect =
      .ok statement) ↔ (Column.named t.key).Fits .nested := by
  have hset : (assignments r).isEmpty = false := by simpa using hr
  constructor
  · rintro ⟨statement, h⟩
    rw [Update.compile, map_eq_ok] at h
    obtain ⟨fragment, hrender, -⟩ := h
    cases hcondition : (hasKey t id).render e.dialect with
    | ok condition =>
      obtain ⟨_, column, hname, hcolumn, -⟩ := render_comparison_eq_ok.mp hcondition
      cases hname
      exact (Column.exists_render _).mp ⟨column, hcolumn⟩
    | error fault =>
      simp [Update.render, hset, whereClause, hcondition, Except.map, bind, Except.bind] at hrender
  · intro hkey
    obtain ⟨column, hcolumn⟩ := (Column.exists_render _).mpr hkey
    have htest : nullTest? .eq (some (.single (.literal id))) = none := by
      simp [nullTest?, Column.isNullLiteral, hid]
    have hcondition : (hasKey t id).render e.dialect = .ok _ :=
      render_comparison_eq_ok.mpr ⟨_, column, rfl, hcolumn, .inr (.inr ⟨htest, rfl, _, _, rfl,
        render_single_eq_ok.mpr ⟨rfl, render_literal_eq_ok.mpr rfl⟩, rfl⟩)⟩
    simp [Update.compile, Update.render, hset, whereClause, hcondition, Except.map, bind,
      Except.bind, pure, Except.pure]

/-! ## Turns of a save -/

section Turns

variable {e} {store : Store σ} {rows : σ → Nat} {id : Value} {r : Record t} {skip : Bool}
  {state : σ}

/-- A save goes on with the number of rows that it has updated. -/
def afterUpdate (r : Record t) : Except Error Nat → Program (Except Error (Outcome (Record t)))
  | .ok 0 => (e.create r true).run
  | .ok (_ + 1) => .done (.ok (.committed r))
  | .error err => .done (.error err)

/-- The save of a record with its key is an update and what follows it. -/
theorem run_save (hid : id.isNull = false) (hr : Savable id skip r) :
    (e.save r skip).run =
      (affect (Update.compile ⟨t.table, assignments r, some (hasKey t id)⟩ e.dialect)).run.bind
        (e.afterUpdate r) := by
  have hkey : r.key.isNull = false := by rw [hr.key, hid]
  rw [save, if_neg (by simp [hkey]), if_neg (by simpa using hr.set), hr.key, update,
    if_neg (by simp [hid]), hr.violations]
  show Program.bind (Program.bind _ _) _ = _
  rw [Program.bind_assoc]
  refine congrArg (Program.bind _) (funext fun result => ?_)
  rcases result with err | count
  · rfl
  · cases count <;> rfl

/-- A creation without validation is one insertion under the lock. -/
theorem run_create (r : Record t) :
    (e.create r true).run = (locked (e.insertRecord r)).run.bind fun result =>
      .done (result.map .committed) := by
  refine congrArg (Program.bind _) (funext fun result => ?_)
  cases result <;> rfl

/-- An insertion is work under the lock. -/
theorem keeps_insertRecord (r : Record t) : (e.insertRecord r).run.Keeps := by
  refine keeps_bind (keeps_ask _) fun id => ?_
  split
  · exact keeps_ofExcept _
  · exact trivial

/-- A record that has its key is inserted as it is. -/
theorem insertRecord_of_key (hkey : r.key.isNull = false) :
    e.insertRecord r = ask (.insert (e.insertStatement r)) >>= fun _ => pure r := by
  obtain ⟨f, hf, hname, hvalue⟩ := Record.key_mem_fields hkey
  have hwants : wantsKey r = false :=
    wantsKey_eq_false_iff.mpr ⟨f, hf, hname, by rw [hvalue, hkey]⟩
  simp only [insertRecord, hwants]
  rfl

/-- A key that is not the name of a column is an error, and the store is not asked. -/
theorem ends_turn_save_unfit (hid : id.isNull = false)
    (hkey : ¬(Column.named t.key).Fits .nested) (hr : Savable id skip r) (store : Store σ)
    (state : σ) : ∃ err, (e.save r skip).run.turn.Ends store state (.done (.error err)) state := by
  rw [← e.exists_compile_update_iff hr.set hid] at hkey
  rw [run_save hid hr]
  cases hcompile : Update.compile ⟨t.table, assignments r, some (hasKey t id)⟩ e.dialect with
  | ok statement => exact absurd ⟨statement, hcompile⟩ hkey
  | error fault =>
    have hwork :
        (compiled (.error fault) >>= fun statement => ask (.execute statement)).run.Keeps :=
      keeps_bind (keeps_ofExcept _) fun statement => keeps_ask (.execute statement)
    exact ⟨_, ends_turn_locked hwork rfl _⟩

section Table

variable (htable : e.KeyedTable t id store rows) (hid : id.isNull = false)

include htable hid

omit htable in
/-- Creating a record that has its key is one turn, and the store decides its result. -/
theorem ends_turn_create (hr : r.key = id) {state' : σ} (answer : Except Error Value)
    (h : store.respond state (.insert (e.insertStatement r)) = (replyOf answer, state')) :
    (e.create r true).run.turn.Ends store state
      (.done (answer.map fun _ => .committed r)) state' := by
  have hwork := keeps_insertRecord (e := e) r
  rw [run_create]
  rw [insertRecord_of_key (by rw [hr, hid])] at hwork ⊢
  have hend := ends_turn_locked hwork
    (run_ask_pure (c := .insert (e.insertStatement r)) answer h r) fun result =>
      Program.done (result.map Outcome.committed)
  cases answer <;> exact hend

/-- A row that is absent is inserted in one turn. -/
theorem ends_turn_create_absent (hr : r.key = id) (hrows : rows state = 0) :
    ∃ state', (e.create r true).run.turn.Ends store state (.done (.ok (.committed r))) state' ∧
      rows state' = 1 := by
  obtain ⟨key, state', hrespond, hrows'⟩ := htable.insert state r hr hrows
  exact ⟨state', ends_turn_create hid hr (.ok key) hrespond, hrows'⟩

/-- A row that is there is not inserted again. -/
theorem ends_turn_create_taken (hr : r.key = id) (hrows : 0 < rows state) :
    ∃ err state', (e.create r true).run.turn.Ends store state (.done (.error err)) state' ∧
      rows state' = rows state := by
  obtain ⟨err, state', hrespond, hrows'⟩ := htable.taken state r hr hrows
  exact ⟨err, state', ends_turn_create hid hr (.error err) hrespond, hrows'⟩

variable (hkey : (Column.named t.key).Fits .nested) (hr : Savable id skip r)

include hkey hr

/-- The first turn of a save is its update. -/
theorem ends_turn_save (state : σ) :
    ∃ state',
      (e.save r skip).run.turn.Ends store state (e.afterUpdate r (.ok (rows state))) state' ∧
      rows state' = rows state := by
  obtain ⟨statement, hstatement⟩ := (e.exists_compile_update_iff hr.set hid).mpr hkey
  obtain ⟨state', hrespond, hrows⟩ := htable.update state r statement hstatement
  refine ⟨state', ?_, hrows⟩
  rw [run_save hid hr, hstatement]
  exact ends_turn_locked (keeps_ask _) (run_ask (c := .execute statement) (.ok _) hrespond) _

/-- A row that is there is updated in one turn, and the save is done. -/
theorem ends_turn_save_present (hrows : 0 < rows state) :
    ∃ state', (e.save r skip).run.turn.Ends store state (.done (.ok (.committed r))) state' ∧
      rows state' = rows state := by
  obtain ⟨n, hn⟩ := Nat.exists_eq_add_one.mpr hrows
  obtain ⟨state', hsave, hrows'⟩ := ends_turn_save htable hid hkey hr state
  rw [hn] at hsave
  exact ⟨state', hsave, hrows'⟩

/-- A row that is absent leaves a creation to do. -/
theorem ends_turn_save_absent (hrows : rows state = 0) :
    ∃ state', (e.save r skip).run.turn.Ends store state (e.create r true).run state' ∧
      rows state' = 0 := by
  obtain ⟨state', hsave, hrows'⟩ := ends_turn_save htable hid hkey hr state
  rw [hrows] at hsave hrows'
  exact ⟨state', hsave, hrows'⟩

/-- A save alone is committed, and then the table has a row of the key. -/
theorem ends_save (state : σ) :
    ∃ state', (e.save r skip).run.Ends store state (.ok (.committed r)) state' ∧
      rows state' = max 1 (rows state) := by
  rcases Nat.eq_zero_or_pos (rows state) with hrows | hrows
  · obtain ⟨updated, hupdate, hnone⟩ := ends_turn_save_absent htable hid hkey hr hrows
    obtain ⟨state', hcreate, hone⟩ := ends_turn_create_absent htable hid hr.key hnone
    exact ⟨state', .of_turn hupdate (.of_turn hcreate Program.ends_done), by omega⟩
  · obtain ⟨state', hsave, hrows'⟩ := ends_turn_save_present htable hid hkey hr hrows
    exact ⟨state', .of_turn hsave Program.ends_done, by omega⟩

end Table

end Turns

/-! ## Saving together -/

section Together

variable {e} {store : Store σ} {rows : σ → Nat} {id : Value} {r : Party → Record t}
  {skip : Party → Bool} {state : σ}

variable (e) in
/-- Each party saves its record. -/
def saves (r : Party → Record t) (skip : Party → Bool) (x : Party) :
    Program (Except Error (Outcome (Record t))) :=
  (e.save (r x) (skip x)).run

/-- Each party creates its record, which had no row. -/
def creates (e : Engine) (r : Party → Record t) (x : Party) :
    Program (Except Error (Outcome (Record t))) :=
  (e.create (r x) true).run

/-- Both saves are committed, and the store is as one save after the other leaves it. -/
structure Serial (e : Engine) (store : Store σ) (r : Party → Record t) (skip : Party → Bool)
    (state : σ) (results : Party → Except Error (Outcome (Record t))) (state' : σ) : Prop where
  committed : ∀ x, results x = .ok (.committed (r x))
  ordered : ∃ x others, (inOrder x (e.saves r skip)).Ends store state others state'

variable (htable : e.KeyedTable t id store rows) (hid : id.isNull = false)
  (hkey : (Column.named t.key).Fits .nested) (hr : ∀ x, Savable id (skip x) (r x))

include htable hid hkey hr

/-- A save that is committed before the other one begins. -/
theorem exists_serial {x : Party} {saved : σ}
    (hx : (e.saves r skip x).Ends store state (.ok (.committed (r x))) saved)
    (hrows : rows saved = 1) :
    ∃ state', (e.saves r skip x.other).Ends store saved (.ok (.committed (r x.other))) state' ∧
      rows state' = 1 ∧ e.Serial store r skip state (fun y => .ok (.committed (r y))) state' := by
  obtain ⟨state', hother, hrows'⟩ := ends_save htable hid hkey (hr x.other) saved
  exact ⟨state', hother, by omega, fun _ => rfl, x, _, Program.ends_inOrder hx hother⟩

/-- If the table has the row, the first turn completes a save. -/
theorem serial_of_present (x : Party) (schedule : List Party) (hrows : rows state = 1) :
    ∃ results state',
      (interleave (x :: schedule) (e.saves r skip)).Ends store state results state' ∧
      rows state' = 1 ∧ e.Serial store r skip state results state' := by
  obtain ⟨saved, hturn, hsaved⟩ :=
    ends_turn_save_present htable hid hkey (hr x) (hrows ▸ Nat.one_pos)
  obtain ⟨state', hother, hrows', hserial⟩ :=
    exists_serial htable hid hkey hr (.of_turn hturn Program.ends_done) (hsaved.trans hrows)
  refine ⟨_, state', ?_, hrows', hserial⟩
  rw [← x.pair_apply fun y => Except.ok (Outcome.committed (r y))]
  exact Program.ends_interleave_of_done schedule hturn hother

/-- If it does not have the row, the first two turns do. -/
theorem serial_of_same (x : Party) (schedule : List Party) (hrows : rows state = 0) :
    ∃ results state',
      (interleave (x :: x :: schedule) (e.saves r skip)).Ends store state results state' ∧
      rows state' = 1 ∧ e.Serial store r skip state results state' := by
  obtain ⟨updated, hupdate, hnone⟩ := ends_turn_save_absent htable hid hkey (hr x) hrows
  obtain ⟨saved, hcreate, hsaved⟩ := ends_turn_create_absent htable hid (hr x).key hnone
  obtain ⟨state', hother, hrows', hserial⟩ := exists_serial htable hid hkey hr
    (.of_turn hupdate (.of_turn hcreate Program.ends_done)) hsaved
  refine ⟨_, state', hupdate.bind ?_, hrows', hserial⟩
  rw [← x.pair_apply fun y => Except.ok (Outcome.committed (r y))]
  exact Program.ends_interleave_of_done schedule (by rwa [Party.pair_self])
    (by rwa [Party.pair_other])

/-- If both parties find that it does not have the row, only one of them can insert it. -/
theorem refused_of_crossed (x : Party) (schedule : List Party) (hrows : rows state = 0) :
    ∃ results state',
      (interleave (x :: x.other :: schedule) (e.saves r skip)).Ends store state results state' ∧
      rows state' = 1 ∧ ∃ y err, results y = .error err := by
  obtain ⟨once, hmine, hnone⟩ := ends_turn_save_absent htable hid hkey (hr x) hrows
  obtain ⟨twice, htheirs, hnone⟩ := ends_turn_save_absent htable hid hkey (hr x.other) hnone
  obtain ⟨rest, hopening⟩ := Program.exists_interleave_opening
    (α := Except Error (Outcome (Record t))) schedule
  obtain ⟨z, later, hz⟩ : ∃ z later, ∀ p : Party → Program _,
    interleave schedule p = interleave (z :: later) p := ⟨_, _, hopening⟩
  obtain ⟨saved, hcreate, hsaved⟩ := ends_turn_create_absent htable hid (hr z).key hnone
  obtain ⟨err, state', hrefuse, hrows'⟩ :=
    ends_turn_create_taken htable hid (hr z.other).key (by omega : 0 < rows saved)
  have hend : (interleave schedule (e.creates r)).Ends store twice
      (z.pair (.ok (.committed (r z))) (.error err)) state' := by
    rw [hz]
    exact Program.ends_interleave_of_done later hcreate (.of_turn hrefuse Program.ends_done)
  exact ⟨_, state', Program.ends_interleave_crossed (q := e.creates r) hmine htheirs hend, by omega,
    z.other, err, Party.pair_other ..⟩

omit htable hkey in
/-- If the key is not the name of a column, nothing is saved. -/
theorem refused_of_unfit (hkey : ¬(Column.named t.key).Fits .nested) (x : Party)
    (schedule : List Party) (store : Store σ) (state : σ) :
    ∃ results, (interleave (x :: schedule) (e.saves r skip)).Ends store state results state ∧
      ∃ y err, results y = .error err := by
  obtain ⟨err, hturn⟩ := ends_turn_save_unfit hid hkey (hr x) store state
  obtain ⟨late, hother⟩ := ends_turn_save_unfit hid hkey (hr x.other) store state
  exact ⟨_, Program.ends_interleave_of_done schedule hturn (.of_turn hother Program.ends_done), x,
    err, Party.pair_self ..⟩

omit hkey in
/-- Saving together always comes to an end. It is saving one after the other, in some order, and
leaves one row of the key, exactly if the key is the name of a column and the table has had that row
or one party has the first two turns. -/
theorem together_serial_iff (schedule : List Party) (hrows : rows state ≤ 1) :
    ∃ results state', (interleave schedule (e.saves r skip)).Ends store state results state' ∧
      (e.Serial store r skip state results state' ∧ rows state' = 1 ↔
        (Column.named t.key).Fits .nested ∧
          (rows state = 1 ∨ (opening schedule).1 = (opening schedule).2)) := by
  obtain ⟨rest, hopening⟩ := Program.exists_interleave_opening
    (α := Except Error (Outcome (Record t))) schedule
  rw [hopening]
  generalize (opening schedule).1 = x, (opening schedule).2 = y
  have hrefused {results : Party → Except Error (Outcome (Record t))} {state' : σ}
      (h : ∃ y err, results y = .error err) : ¬e.Serial store r skip state results state' := by
    rintro ⟨hcommitted, -⟩
    obtain ⟨z, err, herr⟩ := h
    rw [hcommitted z] at herr
    cases herr
  -- What is behind the first two turns matters in none of the cases.
  by_cases hkey : (Column.named t.key).Fits .nested
  · rcases Nat.le_one_iff_eq_zero_or_eq_one.mp hrows with hzero | hone
    · rcases x.eq_or_eq_other y with rfl | rfl
      · obtain ⟨results, state', hend, hrows', hserial⟩ :=
          serial_of_same htable hid hkey hr y rest hzero
        exact ⟨results, state', hend, by simp [hserial, hrows', hkey]⟩
      · obtain ⟨results, state', hend, hrows', herr⟩ :=
          refused_of_crossed htable hid hkey hr x rest hzero
        exact ⟨results, state', hend, by simp [hrefused herr, hzero, x.other_ne.symm]⟩
    · obtain ⟨results, state', hend, hrows', hserial⟩ :=
        serial_of_present htable hid hkey hr x (y :: rest) hone
      exact ⟨results, state', hend, by simp [hserial, hrows', hkey, hone]⟩
  · obtain ⟨results, hend, herr⟩ := refused_of_unfit hid hr hkey x (y :: rest) store state
    exact ⟨results, state, hend, by simp [hrefused herr, hkey]⟩

end Together

/-- Orders with a number. -/
def orders : RecordType :=
  ⟨"orders", "id", [⟨"id", .integer⟩, ⟨"no", .text⟩], []⟩

/-- A table of orders by their keys. The key is the last parameter of an update and the first one of
an insertion. -/
def orderTable : Store (List (Int64 × List Value)) where
  respond rows
    | .execute statement =>
      match statement.params.reverse with
      | .integer id :: cells =>
        (.answer (rows.countP (·.1 = id)),
          rows.map fun row => if row.1 = id then (id, cells) else row)
      | _ => (.failure (.reported .persistence "no key"), rows)
    | .insert statement =>
      match statement.params with
      | .integer id :: cells =>
        if rows.any (·.1 = id) then
          (.failure (.reported .persistence "UNIQUE constraint failed: orders.id"), rows)
        else (.answer (.integer id), (id, cells) :: rows)
      | _ => (.failure (.reported .persistence "no key"), rows)
    | .query _ => (.answer [], rows)
    | .start | .commit | .rollback => (.answer (), rows)

/-- An insertion binds the values that are set. -/
theorem params_insertStatement (e : Engine) {t : RecordType} (r : Record t) :
    (e.insertStatement r).params = (insertion r).values.map Prod.snd := by
  rw [insertStatement, Insertion.compile, Fragment.finish, Insertion.render]
  cases (insertion r).values with
  | nil => rfl
  | cons v vs =>
    have hvalues : Fragment.joined ", " ((v :: vs).map fun v => Fragment.bound v.2) =
        ⟨_, (v :: vs).map Prod.snd⟩ := Fragment.joined_parameters ..
    rw [hvalues]
    exact List.append_nil _

/-- The key is the first parameter of an insertion. -/
theorem exists_params_insertStatement {r : Record orders} {id : Int64} (hr : r.key = .integer id) :
    ∃ cells, (plain.insertStatement r).params = .integer id :: cells := by
  rw [params_insertStatement, insertion]
  have hhead : r.fields.head? = some (⟨"id", .integer⟩, .integer id) := by
    rw [← hr, List.head?_eq_getElem?, Record.fields, List.getElem?_zip_eq_some]
    exact ⟨rfl, by rw [Vector.getElem?_toList]; exact Vector.getElem?_eq_getElem (by decide)⟩
  obtain ⟨fields, hfields⟩ := List.head?_eq_some_iff.mp hhead
  rw [hfields]
  exact ⟨_, rfl⟩

theorem keyedTable_orderTable (id : Int64) :
    plain.KeyedTable orders (.integer id) orderTable fun rows => rows.countP (·.1 = id) where
  update rows r statement h := by
    have hr : assignments r ≠ [] := by
      intro hr
      rw [hr] at h
      cases h
    rw [plain.compile_keyedUpdate hr (by decide) (by decide) rfl] at h
    obtain rfl := Except.ok.inj h
    have hparams : (plain.keyedUpdate r (.integer id)).params.reverse =
        .integer id :: ((assignments r).map Prod.snd).reverse := List.reverse_concat ..
    refine ⟨_, by simp only [orderTable, hparams]; rfl, ?_⟩
    rw [List.countP_map]
    refine List.countP_congr fun row _ => ?_
    by_cases hrow : row.1 = id <;> simp [hrow]
  insert rows r hr hrows := by
    obtain ⟨cells, hparams⟩ := exists_params_insertStatement hr
    have hany : rows.any (·.1 = id) = false := by
      rw [List.any_eq_false]
      exact List.countP_eq_zero.mp hrows
    refine ⟨_, _, by simp only [orderTable, hparams, hany]; rfl, ?_⟩
    simp [hrows]
  taken rows r hr hrows := by
    obtain ⟨cells, hparams⟩ := exists_params_insertStatement hr
    have hany : rows.any (·.1 = id) = true := by
      rw [List.any_eq_true]
      exact List.countP_pos_iff.mp hrows
    exact ⟨_, _, by simp only [orderTable, hparams, hany]; rfl, rfl⟩

/-- Two orders of one key. -/
def rivals : Party → Record orders
  | .first => ⟨#v[.integer 7, .text "A-1"]⟩
  | .second => ⟨#v[.integer 7, .text "A-2"]⟩

theorem savable_rivals (x : Party) : Savable (.integer 7) false (rivals x) := by
  cases x <;> exact ⟨rfl, List.cons_ne_nil _ _, .inr rfl⟩

/-- The second one comes last, and the table is still empty at first. -/
theorem together_serial_iff_rivals :
    ∃ results state', (interleave [.first, .first, .second]
        (plain.saves rivals fun _ => false)).Ends orderTable [] results state' ∧
      plain.Serial orderTable rivals (fun _ => false) [] results state' ∧
      state'.countP (·.1 = 7) = 1 := by
  have hkey : (Column.named orders.key).Fits .nested := .reference (by decide)
  obtain ⟨results, state', hend, hserial⟩ :=
    together_serial_iff (keyedTable_orderTable 7) rfl savable_rivals [.first, .first, .second]
      (show ([] : List (Int64 × List Value)).countP _ ≤ 1 from Nat.zero_le 1)
  obtain ⟨hserial, hrows⟩ := hserial.mpr ⟨hkey, .inr rfl⟩
  exact ⟨results, state', hend, hserial, hrows⟩

/-- The second one comes before the first one is done, and is refused. -/
theorem together_rivals_refused :
    plain.KeyedTable orders (.integer 7) orderTable (fun rows => rows.countP (·.1 = 7)) ∧
      (∀ x, Savable (.integer 7) false (rivals x)) ∧
      ∃ results, (interleave [.first, .second] (plain.saves rivals fun _ => false)).Ends orderTable
          [] results [(7, [.text "A-1"])] ∧
        results .second =
          .error (.reported .persistence "UNIQUE constraint failed: orders.id") ∧
        ¬plain.Serial orderTable rivals (fun _ => false) [] results [(7, [.text "A-1"])] := by
  refine ⟨keyedTable_orderTable 7, savable_rivals, _, ⟨_, rfl⟩, rfl, fun hserial => ?_⟩
  cases hserial.committed .second

end Engine

end RowMap
