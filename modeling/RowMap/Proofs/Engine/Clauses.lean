import RowMap.Proofs.Engine.Refusal
import RowMap.Proofs.Sql.Finished

/-!
# Updates by condition

An update by condition is given as two texts, its assignments and its condition, and one list of
parameters for both. The list is split where the placeholders of the assignments end, so each text
gets as many parameters as it has placeholders, and it is joined again in the statement
(`updateWhere_of_placeholders`). As long as no quotation is left open in front of it, the condition
has its placeholders behind those of the assignments, and its numbers too (`updateWhere_splits`).
-/

namespace RowMap

open RowMap.Action
open Sql (Closed Plain Finishes placeholders places filled finished)

namespace Engine

variable (e : Engine) {t : RecordType} {assignments condition : String} {params : List Value}

/-- What stands before the assignments. -/
def updateHead (t : RecordType) : String :=
  "UPDATE " ++ t.table ++ " SET "

/-- The text of an update with raw texts. -/
def updateText (t : RecordType) (assignments condition : String) : String :=
  updateHead t ++ assignments ++ " WHERE " ++ condition

section Split

variable (h : placeholders assignments + placeholders condition = params.length)
include h

/-- The first parameters belong to the assignments. -/
theorem render_assignments (dialect : Dialect) :
    (Expression.raw assignments (params.take (placeholders assignments))).render dialect =
      .ok ⟨assignments, params.take (placeholders assignments)⟩ := by
  have hlength : placeholders assignments =
      (params.take (placeholders assignments)).length := by
    rw [List.length_take]
    omega
  exact render_raw_eq_ok.mpr ⟨hlength, rfl⟩

/-- The other parameters belong to the condition. -/
theorem render_condition (dialect : Dialect) :
    (Expression.raw condition (params.drop (placeholders assignments))).render dialect =
      .ok ⟨condition, params.drop (placeholders assignments)⟩ := by
  have hlength : placeholders condition =
      (params.drop (placeholders assignments)).length := by
    rw [List.length_drop]
    omega
  exact render_raw_eq_ok.mpr ⟨hlength, rfl⟩

/-- The parameters that were split are put together again. -/
theorem updateWhere_of_placeholders :
    e.updateWhere t assignments condition params =
      locked (ask (.execute
        ⟨e.dialect.finalize (updateText t assignments condition), params⟩)) := by
  have hwhole : Fragment.text (updateHead t)
        ++ ⟨assignments, params.take (placeholders assignments)⟩ ++ Fragment.text " WHERE "
        ++ ⟨condition, params.drop (placeholders assignments)⟩ =
      ⟨updateText t assignments condition, params⟩ :=
    Fragment.eq_mk rfl (by simp)
  rw [updateWhere, if_neg (not_not_intro h), List.splitAt_eq]
  dsimp only
  rw [render_assignments h, render_condition h]
  show affect (.ok (Fragment.finish (Fragment.text (updateHead t) ++ _ ++ _ ++ _) e.dialect)) = _
  rw [hwhole]
  rfl

end Split

section Placeholders

variable (htable : Plain t.table) (hclosed : Closed assignments)
include htable

/-- The head of the statement has no placeholder. -/
theorem plain_updateHead : Plain (updateHead t) := by
  have hupdate : Plain "UPDATE " := by decide
  have hset : Plain " SET " := by decide
  exact (hupdate.append htable).append hset

include hclosed

/-- What stands before the condition. -/
theorem finishes_opening (dialect : Dialect) :
    Finishes dialect 0 (placeholders assignments) (updateHead t ++ assignments ++ " WHERE ")
      (updateHead t ++ finished dialect 0 assignments ++ " WHERE ") := by
  have hassignments : Finishes dialect 0 (placeholders assignments) assignments
      (finished dialect 0 assignments) := ⟨hclosed, rfl, rfl⟩
  exact (hassignments.plain_append (plain_updateHead htable)).append_plain (by decide)

/-- The placeholders are those of both texts. -/
theorem placeholders_updateText :
    placeholders (updateText t assignments condition) =
      placeholders assignments + placeholders condition := by
  have hopening := finishes_opening htable hclosed .neutral
  unfold updateText
  rw [Sql.placeholders_append hopening.closed, hopening.count]

/-- The condition goes on numbering where the assignments end. -/
theorem finalize_updateText (dialect : Dialect) :
    dialect.finalize (updateText t assignments condition) =
      updateHead t ++ finished dialect 0 assignments ++ " WHERE " ++
        finished dialect (placeholders assignments) condition := by
  have hopening := finishes_opening htable hclosed dialect
  unfold updateText
  rw [Sql.finalize_eq_finished, Sql.finished_append hopening.closed, hopening.finished,
    hopening.count, Nat.zero_add]

/-- The places of the assignments come first. -/
theorem places_updateText :
    places (updateText t assignments condition) =
      (places assignments).map (· + (updateHead t).length) ++
        (places condition).map (· + (updateHead t ++ assignments ++ " WHERE ").length) := by
  have hhead := plain_updateHead htable
  have hbefore := hhead.1.append hclosed
  unfold updateText
  rw [Sql.places_append (finishes_opening htable hclosed .neutral).closed,
    Sql.places_append hbefore, Sql.places_append hhead.1, Sql.places_of_plain hhead,
    Sql.places_of_plain (a := " WHERE ") (by decide), List.map_nil, List.append_nil,
    List.nil_append]

/-- The first placeholders are those of the assignments. -/
theorem take_places :
    (places (updateText t assignments condition)).take (placeholders assignments) =
      (places assignments).map (· + (updateHead t).length) := by
  rw [places_updateText htable hclosed]
  exact List.take_left' (by rw [List.length_map, Sql.length_places])

theorem drop_places :
    (places (updateText t assignments condition)).drop (placeholders assignments) =
      (places condition).map (· + (updateHead t ++ assignments ++ " WHERE ").length) := by
  rw [places_updateText htable hclosed]
  exact List.drop_left' (by rw [List.length_map, Sql.length_places])

end Placeholders

/-- An update whose parameters are not as many as its placeholders is refused without a call. Any
other makes one call, with the parameters in their order: they are split so that both texts render,
and the first of them belong to the assignments. If no quotation is left open before the condition,
the statement has a placeholder for each parameter, those of the assignments stand in the
assignments, and the numbers of the condition come after theirs. -/
theorem updateWhere_splits {σ : Type} (store : Store σ) (s : Session σ) (hlock : s.lock = .free)
    (t : RecordType) (assignments condition : String) (params : List Value) :
    let n := placeholders assignments
    let sql := updateText t assignments condition
    let update := Call.execute ⟨e.dialect.finalize sql, params⟩
    let run := (e.updateWhere t assignments condition params).run.run store s
    (n + placeholders condition ≠ params.length →
      run = ⟨.returned (.error (.compilation (.updateParameterCount t.table
        (n + placeholders condition) params.length))), s, []⟩) ∧
    (n + placeholders condition = params.length →
      n ≤ params.length ∧
      (Expression.raw assignments (params.take n)).render .neutral =
        .ok ⟨assignments, params.take n⟩ ∧
      (Expression.raw condition (params.drop n)).render .neutral =
        .ok ⟨condition, params.drop n⟩ ∧
      (∃ s', run =
        ⟨(store.respond s.store update).1.ending, s', [store.exchange s update]⟩) ∧
      (Plain t.table → Closed assignments →
        placeholders sql = params.length ∧
        (∀ p ∈ (places sql).take n,
          (updateHead t).length ≤ p ∧ p < (updateHead t ++ assignments).length) ∧
        (∀ p ∈ (places sql).drop n, (updateHead t ++ assignments ++ " WHERE ").length ≤ p) ∧
        Dialect.postgres.finalize sql =
          updateHead t ++ filled ((List.range' 1 n).map fun k => "$" ++ Decimal.text k) assignments
            ++ " WHERE " ++ filled ((List.range' (n + 1) (placeholders condition)).map
              fun k => "$" ++ Decimal.text k) condition)) := by
  intro n sql update run
  refine ⟨fun hne => e.decided_updateWhere t hne σ store s hlock, fun h => ?_⟩
  have hrun : ∃ s', run =
      ⟨(store.respond s.store update).1.ending, s', [store.exchange s update]⟩ := by
    obtain ⟨s', hask⟩ := run_locked_ask store hlock update
    exact ⟨s', by rw [← hask, ← e.updateWhere_of_placeholders h]⟩
  refine ⟨by omega, render_assignments h _, render_condition h _, hrun,
    fun htable hclosed => ⟨?_, ?_, ?_, finalize_updateText htable hclosed .postgres⟩⟩
  · exact (placeholders_updateText htable hclosed).trans h
  · intro p hp
    rw [take_places htable hclosed] at hp
    obtain ⟨q, hq, rfl⟩ := List.mem_map.mp hp
    have hlt := Sql.lt_of_mem_places hq
    rw [String.length_append]
    omega
  · intro p hp
    rw [drop_places htable hclosed] at hp
    obtain ⟨q, -, rfl⟩ := List.mem_map.mp hp
    exact Nat.le_add_left _ _

/-- An engine for a store that numbers its parameters. -/
def numbering : Engine :=
  ⟨.postgres, .default⟩

/-- The question mark in the quotation is none of the placeholders. -/
theorem updateWhere_splits_quoted :
    let assignments := "note = 'why?', name = ?"
    let condition := "age > ? AND name != ?"
    let params : List Value := [.text "Ann", .integer 18, .text "Bob"]
    placeholders assignments + placeholders condition = params.length ∧ Plain people.table ∧
      Closed assignments ∧
      ∃ s', (numbering.updateWhere people assignments condition params).run.run Script.store
          (.fresh ⟨[.affected 2], 0, none, none⟩) =
        ⟨.returned (.ok 2), s',
          [⟨.execute ⟨"UPDATE people SET note = 'why?', name = $1 WHERE age > $2 AND name != $3",
            params⟩, .answer (2 : Nat)⟩]⟩ := by
  intro assignments condition params
  have hcount : placeholders assignments + placeholders condition = params.length := by decide
  have htable : Plain people.table := by decide
  have hclosed : Closed assignments := by decide
  obtain ⟨-, hsplit⟩ := numbering.updateWhere_splits Script.store
    (.fresh ⟨[.affected 2], 0, none, none⟩) rfl people assignments condition params
  obtain ⟨-, -, -, ⟨s', hrun⟩, hparts⟩ := hsplit hcount
  obtain ⟨-, -, -, hsql⟩ := hparts htable hclosed
  have htext : numbering.dialect.finalize (updateText people assignments condition) =
      "UPDATE people SET note = 'why?', name = $1 WHERE age > $2 AND name != $3" :=
    hsql.trans (by decide +kernel)
  refine ⟨hcount, htable, hclosed, s', hrun.trans ?_⟩
  rw [htext]
  rfl

end Engine

end RowMap
