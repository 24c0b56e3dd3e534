import RowMap.Proofs.Engine.Clauses

/-!
# What is written of a record

The insertion of a record and the update of its row name the same columns, those of the attributes
that are set, in order of declaration; only the key is left out of the update, for it says which row
is meant (`written_attributes`). The texts of the three statements about a row are given for every
dialect by `insertText`, `updateRowText` and `deleteRowText`. No null is among their parameters, so
a row is always chosen by a comparison with its key.
-/

namespace RowMap

open RowMap.Action
open Sql (Plain Unmarked Finishes)

namespace Dialect

/-- What stands before the values of an insertion. -/
def insertHead (table : String) (columns : List String) : String :=
  "INSERT INTO " ++ table ++ " (" ++ ", ".intercalate columns ++ ") VALUES ("

/-- An insertion into the given columns. -/
def insertText (dialect : Dialect) (table : String) (columns : List String) : String :=
  if columns = [] then "INSERT INTO " ++ table ++ " DEFAULT VALUES"
  else insertHead table columns ++ ", ".intercalate (dialect.slots 0 columns.length) ++ ")"

/-- The assignments of an update, in the given columns. -/
def setText (dialect : Dialect) (columns : List String) : String :=
  ", ".intercalate (List.zipWith (fun column slot => column ++ " = " ++ slot) columns
    (dialect.slots 0 columns.length))

/-- An update of the given columns in the row with a certain key. -/
def updateRowText (dialect : Dialect) (table key : String) (columns : List String) : String :=
  "UPDATE " ++ table ++ " SET " ++ dialect.setText columns ++ " WHERE " ++ key ++ " = "
    ++ dialect.slot (columns.length + 1)

/-- The removal of the row with a certain key. -/
def deleteRowText (dialect : Dialect) (table key : String) : String :=
  "DELETE FROM " ++ table ++ " WHERE " ++ key ++ " = " ++ dialect.slot 1

end Dialect

namespace Engine

variable (e : Engine) {t : RecordType} {dialect : Dialect} {r : Record t} {a : String × Value}

/-- The names of set attributes are plain if all names are. -/
theorem plain_of_mem_assigned (hnames : ∀ a ∈ t.attributes, Plain a.name) (h : a ∈ r.assigned) :
    Plain a.1 := by
  obtain ⟨i, -, rfl⟩ := Record.mem_assigned.mp h
  exact hnames _ (List.get_mem _ i)

/-! ## Insertions -/

section Insertions

variable {table : String} {values : List (String × Value)}

/-- An insertion has a placeholder for each of its values. -/
theorem render_insertion (h : values ≠ []) :
    (Insertion.mk table values).render =
      ⟨Dialect.insertHead table (values.map Prod.fst)
          ++ ", ".intercalate (List.replicate values.length "?") ++ ")",
        values.map Prod.snd⟩ := by
  have hvalues : Fragment.joined ", " (values.map fun v => Fragment.bound v.2) =
      ⟨", ".intercalate (List.replicate values.length "?"), values.map Prod.snd⟩ := by
    have hall := Fragment.joined_parameters ", " values (fun _ => "?") Prod.snd
    rwa [List.map_const'] at hall
  have hsome : values.isEmpty = false := by simpa using h
  have hopening (rest : String) : ") VALUES " ++ ("(" ++ rest) = ") VALUES (" ++ rest :=
    (String.append_assoc ..).symm
  rw [Insertion.render, hsome, hvalues]
  refine Fragment.eq_mk ?_ (List.append_nil _)
  unfold Dialect.insertHead
  simp [Fragment.parenthesized, String.append_assoc, hopening]

/-- An insertion is compiled to the text of its columns. -/
theorem compile_insertion (htable : Plain table) (hcolumns : ∀ a ∈ values, Plain a.1) :
    Insertion.compile ⟨table, values⟩ dialect =
      ⟨dialect.insertText table (values.map Prod.fst), values.map Prod.snd⟩ := by
  have hinsert : Plain ("INSERT INTO " ++ table) :=
    Plain.append (by decide) htable
  by_cases hnone : values = []
  · subst hnone
    have hall : Plain ("INSERT INTO " ++ table ++ " DEFAULT VALUES") := hinsert.append (by decide)
    exact congrArg (Statement.mk · []) (Finishes.of_plain hall).finalize
  · have hcolumn : ∀ column ∈ values.map Prod.fst, Plain column :=
      List.forall_mem_map.mpr hcolumns
    have hcomma : Plain ", " := by decide
    have hhead : Plain (Dialect.insertHead table (values.map Prod.fst)) :=
      ((hinsert.append (b := " (") (by decide)).append
        (.intercalate hcomma _ hcolumn)).append (by decide)
    have hslots : Finishes dialect 0 values.length _ _ := .slots hcomma 0 values.length
    have hall := (hslots.plain_append hhead).append_plain (b := ")") (by decide)
    unfold Dialect.insertText
    rw [Insertion.compile, render_insertion hnone, Fragment.finish, hall.finalize,
      if_neg (by simpa using hnone), List.length_map]

end Insertions

/-! ## Statements about one row -/

section Rows

variable {id : Value}

/-- Each assignment takes one slot. -/
theorem finishes_set {values : List (String × Value)} (hcolumns : ∀ a ∈ values, Plain a.1) :
    Finishes dialect 0 values.length (", ".intercalate (values.map fun a => a.1 ++ " = ?"))
      (dialect.setText (values.map Prod.fst)) := by
  have hcolumn : ∀ a ∈ values, Plain (a.1 ++ " = ") :=
    fun a ha => (hcolumns a ha).append (by decide)
  have hcomma : Plain ", " := by decide
  have hall : Finishes dialect 0 values.length _ _ := .intercalate hcomma 0 values hcolumn
  simp only [← equals_placeholder]
  rwa [Dialect.setText, List.zipWith_map_left, List.length_map]

variable (htable : Plain t.table) (hplain : Plain t.key)
include htable hplain

/-- The update of a row has its text and its values, the key last. -/
theorem keyedUpdate_eq (hnames : ∀ a ∈ t.attributes, Plain a.name) (r : Record t) (id : Value) :
    e.keyedUpdate r id =
      ⟨e.dialect.updateRowText t.table t.key ((others r).map Prod.fst),
        (others r).map Prod.snd ++ [id]⟩ := by
  have hset : Finishes e.dialect 0 (others r).length _ _ := finishes_set fun a ha =>
    plain_of_mem_assigned hnames (mem_assigned_of_mem_others ha)
  have hwhere := ((hset.plain_append (plain_updateHead htable)).append_plain (b := " WHERE ")
    (by decide)).append_plain hplain
  have hall := (hwhere.append_plain (b := " = ") (by decide)).append .slot
  unfold keyedUpdate Dialect.updateRowText
  rw [assignments_eq, ← equals_placeholder, List.length_map]
  exact congrArg (Statement.mk · _) (hall.finalize.trans (by rw [Nat.zero_add]; rfl))

/-- The update of a row, unless there is nothing to set. -/
theorem compile_rowUpdate (hnames : ∀ a ∈ t.attributes, Plain a.name) (r : Record t)
    (hkey : t.key ≠ "") (hpoint : '.' ∉ t.key.toList) (hid : id.isNull = false) :
    Update.compile ⟨t.table, assignments r, some (hasKey t id)⟩ e.dialect =
      if others r = [] then .error (.noAssignments t.table)
      else .ok ⟨e.dialect.updateRowText t.table t.key ((others r).map Prod.fst),
        (others r).map Prod.snd ++ [id]⟩ := by
  split
  · next hnone =>
    rw [Update.compile, Update.render, assignments_eq, hnone]
    rfl
  · next hset =>
    rw [← assignments_eq] at hset
    rw [e.compile_keyedUpdate hset hkey hpoint hid, e.keyedUpdate_eq htable hplain hnames]

/-- The deletion of a row has its text and the key. -/
theorem compile_deletion (hkey : t.key ≠ "") (hpoint : '.' ∉ t.key.toList)
    (hid : id.isNull = false) :
    Deletion.compile ⟨t.table, some (hasKey t id)⟩ dialect =
      .ok ⟨dialect.deleteRowText t.table t.key, [id]⟩ := by
  have hfrom : Plain ("DELETE FROM " ++ t.table ++ " WHERE " ++ t.key ++ " = ") :=
    (((Plain.append (by decide) htable).append (b := " WHERE ") (by decide)).append hplain).append
      (by decide)
  have hall : Finishes dialect 0 1 (_ ++ "?") _ := Finishes.slot.plain_append hfrom
  have hfragment : (Deletion.mk t.table (some (hasKey t id))).render dialect =
      .ok ⟨"DELETE FROM " ++ t.table ++ " WHERE " ++ t.key ++ " = " ++ "?", [id]⟩ := by
    rw [Deletion.render, whereClause, render_hasKey hkey hpoint hid]
    refine congrArg Except.ok (Fragment.eq_mk ?_ rfl)
    simp [clause, String.append_assoc]
  rw [Deletion.compile, hfragment]
  exact congrArg (fun sql => Except.ok (Statement.mk sql [id])) hall.finalize

end Rows

section Calls

variable {σ : Type} (store : Store σ) (s : Session σ) {id : Value} {skip : Bool}

/-- An insertion makes one call. -/
theorem log_insertRecord (r : Record t) :
    ((e.insertRecord r).run.run store s).log =
      [store.exchange s (.insert (e.insertStatement r))] := by
  unfold insertRecord
  rw [log_bind fun id => ?_, log_ask, insertStatement]
  split
  · exact puts_ofExcept _
  · exact puts_pure _

/-- A statement is put to the store once, if it compiles and the lock is free. -/
theorem log_affect (statement : Except CompilationFault Statement) :
    ((affect statement).run.run store s).log =
      match statement with
      | .ok compiled => if s.lock = .free then [store.exchange s (.execute compiled)] else []
      | .error _ => [] := by
  cases statement with
  | ok compiled => exact log_locked_ask store s _
  | error fault =>
    exact (puts_locked (puts_throw (Error.compilation fault))).log_eq_nil store s

/-- An update makes one call, unless the record is invalid. -/
theorem log_update (hid : id.isNull = false) (r : Record t) :
    ((e.update id r skip).run.run store s).log =
      if violationsUnless skip r = [] then
        ((affect (Update.compile ⟨t.table, assignments r, some (hasKey t id)⟩
          e.dialect)).run.run store s).log
      else [] := by
  split
  · next hvalid =>
    rw [update, if_neg (by simp [hid]), hvalid]
    exact log_bind fun _ => puts_pure _
  · next hinvalid =>
    rw [e.update_of_invalid hid hinvalid]
    rfl

/-- A deletion makes one call. -/
theorem log_destroy (hid : id.isNull = false) :
    ((e.destroy t id).run.run store s).log =
      ((affect (Deletion.compile ⟨t.table, some (hasKey t id)⟩ e.dialect)).run.run store
        s).log := by
  rw [destroy, if_neg (by simp [hid]), destroyWhere]

end Calls

/-! ## Both paths -/

/-- An insertion gives the attributes that are set in order of declaration, an update the same ones
without the key, which instead is compared with the last parameter; a deletion has nothing but this
comparison. An update is only sent if it sets something. No parameter is null, and the key is among
the inserted columns if and only if it is set. -/
theorem written_attributes {σ : Type} (store : Store σ) (s : Session σ) (hd : t.Distinct)
    (htable : Unmarked t.table) (hnames : ∀ a ∈ t.attributes, Unmarked a.name)
    (hdeclared : (t.find? t.key).isSome) (hkey : t.key ≠ "") (hpoint : '.' ∉ t.key.toList)
    (r : Record t) {id : Value} (hid : id.isNull = false) (skip : Bool) :
    let insertion : Statement :=
      ⟨e.dialect.insertText t.table (r.assigned.map Prod.fst), r.assigned.map Prod.snd⟩
    let update : Statement :=
      ⟨e.dialect.updateRowText t.table t.key ((others r).map Prod.fst),
        (others r).map Prod.snd ++ [id]⟩
    let deletion : Statement := ⟨e.dialect.deleteRowText t.table t.key, [id]⟩
    ((e.insertRecord r).run.run store s).log = [store.exchange s (.insert insertion)] ∧
    ((e.update id r skip).run.run store s).log =
      (if violationsUnless skip r = [] ∧ others r ≠ [] ∧ s.lock = .free then
        [store.exchange s (.execute update)]
      else []) ∧
    ((e.destroy t id).run.run store s).log =
      (if s.lock = .free then [store.exchange s (.execute deletion)] else []) ∧
    ((∃ v, (t.key, v) ∈ r.assigned) ↔ r.key.isNull = false) ∧
    t.key ∉ (others r).map Prod.fst ∧
    ∀ v ∈ insertion.params ++ update.params ++ deletion.params, v.isNull = false := by
  intro insertion update deletion
  have hplain : ∀ a ∈ t.attributes, Plain a.name := fun a ha => (hnames a ha).plain
  have hkeyPlain : Plain t.key := by
    obtain ⟨i, hi⟩ := Option.isSome_iff_exists.mp hdeclared
    exact RecordType.name_of_find? hi ▸ hplain _ (List.get_mem _ i)
  have hinsertion : e.insertStatement r = insertion := by
    rw [insertStatement, Engine.insertion, r.map_filter_fields]
    exact compile_insertion htable.plain fun a => plain_of_mem_assigned hplain
  have hdeletion : Deletion.compile ⟨t.table, some (hasKey t id)⟩ e.dialect = .ok deletion :=
    compile_deletion htable.plain hkeyPlain hkey hpoint hid
  refine ⟨?_, ?_, ?_, Record.exists_key_assigned_iff hd, ?_, ?_⟩
  · rw [log_insertRecord, hinsertion]
  · rw [e.log_update store s hid r, log_affect,
      e.compile_rowUpdate htable.plain hkeyPlain hplain r hkey hpoint hid]
    by_cases hset : others r = [] <;> simp [hset, ite_and, update]
  · rw [e.log_destroy store s hid, log_affect, hdeletion]
  · intro hassigned
    obtain ⟨a, ha, hname⟩ := List.mem_map.mp hassigned
    exact absurd hname (by simpa using (List.mem_filter.mp ha).2)
  · have hassigned : ∀ v ∈ r.assigned.map Prod.snd, v.isNull = false :=
      List.forall_mem_map.mpr fun a => Record.isNull_of_mem_assigned
    have hothers : ∀ v ∈ (others r).map Prod.snd, v.isNull = false :=
      List.forall_mem_map.mpr fun a ha =>
        Record.isNull_of_mem_assigned (mem_assigned_of_mem_others ha)
    simp only [List.forall_mem_append, List.forall_mem_singleton, insertion, update, deletion]
    exact ⟨⟨hassigned, hothers, hid⟩, hid⟩

/-- A type whose key is not its first attribute. -/
def accounts : RecordType :=
  ⟨"accounts", "no", [⟨"owner", .text⟩, ⟨"no", .integer⟩, ⟨"closed_on", .timestamp⟩,
    ⟨"credit", .integer⟩], []⟩

/-- An account that is not closed. -/
def openAccount : Record accounts :=
  ⟨#v[.text "Ann", .integer 7, .null, .integer 250]⟩

theorem written_attributes_openAccount :
    let s : Session Script := .fresh .empty
    accounts.Distinct ∧ Unmarked accounts.table ∧
      (∀ a ∈ accounts.attributes, Unmarked a.name) ∧
      (accounts.find? accounts.key).isSome ∧ accounts.key ≠ "" ∧ '.' ∉ accounts.key.toList ∧
      ((numbering.insertRecord openAccount).run.run Script.store s).log =
        [Script.store.exchange s (.insert
          ⟨"INSERT INTO accounts (owner, no, credit) VALUES ($1, $2, $3)",
            [.text "Ann", .integer 7, .integer 250]⟩)] ∧
      ((numbering.update (.integer 7) openAccount false).run.run Script.store s).log =
        [Script.store.exchange s (.execute
          ⟨"UPDATE accounts SET owner = $1, credit = $2 WHERE no = $3",
            [.text "Ann", .integer 250, .integer 7]⟩)] ∧
      ((numbering.destroy accounts (.integer 7)).run.run Script.store s).log =
        [Script.store.exchange s (.execute
          ⟨"DELETE FROM accounts WHERE no = $1", [.integer 7]⟩)] := by
  intro s
  have htype : accounts.Distinct ∧ Unmarked accounts.table ∧
      (∀ a ∈ accounts.attributes, Unmarked a.name) ∧
      (accounts.find? accounts.key).isSome ∧ accounts.key ≠ "" ∧
      '.' ∉ accounts.key.toList := by decide
  obtain ⟨hd, htable, hnames, hdeclared, hkey, hpoint⟩ := htype
  have hid : (Value.integer 7).isNull = false := rfl
  obtain ⟨hinsert, hupdate, hdestroy, -⟩ := numbering.written_attributes Script.store s hd htable
    hnames hdeclared hkey hpoint openAccount hid false
  have hinsertText : numbering.dialect.insertText accounts.table (openAccount.assigned.map Prod.fst)
      = "INSERT INTO accounts (owner, no, credit) VALUES ($1, $2, $3)" := by decide +kernel
  have hupdateText : numbering.dialect.updateRowText accounts.table accounts.key
      ((others openAccount).map Prod.fst) =
      "UPDATE accounts SET owner = $1, credit = $2 WHERE no = $3" := by decide +kernel
  have hdeleteText : numbering.dialect.deleteRowText accounts.table accounts.key =
      "DELETE FROM accounts WHERE no = $1" := by decide +kernel
  rw [hinsertText] at hinsert
  rw [hupdateText] at hupdate
  rw [hdeleteText] at hdestroy
  exact ⟨hd, htable, hnames, hdeclared, hkey, hpoint, hinsert, hupdate, hdestroy⟩

end Engine

end RowMap
