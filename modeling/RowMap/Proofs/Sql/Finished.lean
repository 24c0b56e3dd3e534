import Mathlib.Data.List.Basic
import RowMap.Proofs.Sql.Filling
import RowMap.Sql.Dialect

/-!
# Finished texts

Every dialect has a slot for each parameter: its number for PostgreSQL, a question mark for the
others. A statement is finished by filling the slots in for its placeholders
(`finalize_eq_finished`). Since closed parts do not influence each other, a text is finished part by
part, and the numbers of a part go on from those before it (`finished_append`). `Finishes` puts this
together for the parts that statements consist of.

`places` tells where in a text its placeholders stand.
-/

namespace RowMap

namespace Dialect

/-- What a finished statement has for its `k`-th parameter, counted from one. -/
def slot : Dialect → Nat → String
  | .postgres, k => "$" ++ Decimal.text k
  | _, _ => "?"

/-- The slots of `n` parameters that come after `k` others. -/
def slots (dialect : Dialect) (k n : Nat) : List String :=
  (List.range' (k + 1) n).map dialect.slot

variable (dialect : Dialect) (k n : Nat)

/-- There are as many slots as were asked for. -/
theorem length_slots : (dialect.slots k n).length = n := by
  rw [slots, List.length_map, List.length_range']

theorem slots_succ :
    dialect.slots k (n + 1) = dialect.slot (k + 1) :: dialect.slots (k + 1) n := rfl

/-- Slots are numbered on through the second part. -/
theorem slots_add (m : Nat) :
    dialect.slots k (n + m) = dialect.slots k n ++ dialect.slots (k + n) m := by
  have hstart : k + n + 1 = k + 1 + n := by omega
  rw [slots, slots, slots, hstart, ← List.map_append, List.range'_append_1]

end Dialect

namespace Sql

variable {dialect : Dialect} {k n m : Nat} {a b a' b' : String}

/-- The text as it stands in a finished statement behind `k` placeholders. -/
def finished (dialect : Dialect) (k : Nat) (text : String) : String :=
  filled (dialect.slots k (placeholders text)) text

/-- Numbering fills the placeholders with numbered slots. -/
theorem numberedFrom_eq_fill (k : Nat) (ms : List (Char × Bool)) :
    numberedFrom k ms = fill (Dialect.postgres.slots k (ms.countP isPlaceholder)) ms := by
  induction ms generalizing k with
  | nil => rfl
  | cons m ms ih =>
    cases hm : isPlaceholder m with
    | true =>
      have hslot : (Dialect.postgres.slot (k + 1)).toList = '$' :: Decimal.digits (k + 1) := by
        rw [Dialect.slot, String.toList_append, Decimal.text]
        exact congrArg ('$' :: ·) String.toList_ofList
      rw [numberedFrom, if_pos hm, List.countP_cons_of_pos hm, Dialect.slots_succ, fill, if_pos hm,
        hslot, ih]
    | false =>
      have hrest := ih k
      rw [numberedFrom, List.countP_cons_of_neg (by simp [hm]), if_neg (by simp [hm]), hrest]
      cases Dialect.postgres.slots k (ms.countP isPlaceholder) with
      | nil => rfl
      | cons slot slots => rw [fill, if_neg (by simp [hm])]

/-- A finalized text is one finished from its first slot. -/
theorem finalize_eq_finished (dialect : Dialect) (text : String) :
    dialect.finalize text = finished dialect 0 text := by
  cases dialect with
  | postgres => exact congrArg String.ofList (numberedFrom_eq_fill 0 _)
  | neutral | sqlite | mysql =>
    exact (filled_questionMarks (fun s hs => by simp_all [Dialect.slots, Dialect.slot]) text).symm

/-- Behind a closed text the slots are numbered on. -/
theorem finished_append (ha : Closed a) :
    finished dialect k (a ++ b) =
      finished dialect k a ++ finished dialect (k + placeholders a) b := by
  rw [finished, placeholders_append ha, Dialect.slots_add,
    filled_append _ ha (Dialect.length_slots ..)]
  rfl

/-- A plain text is finished as it is. -/
theorem finished_of_plain (h : Plain a) : finished dialect k a = a := by
  rw [finished, h.2]
  exact filled_nil a

/-! ## Finishing part by part -/

/-- A closed text with `n` placeholders that becomes the given one behind `k` others. -/
structure Finishes (dialect : Dialect) (k n : Nat) (text result : String) : Prop where
  closed : Closed text
  count : placeholders text = n
  finished : finished dialect k text = result

namespace Finishes

/-- A text that is finished from the first slot is finalized. -/
theorem finalize (h : Finishes dialect 0 n a a') : dialect.finalize a = a' :=
  (finalize_eq_finished dialect a).trans h.finished

/-- A plain text takes no slot. -/
theorem of_plain (h : Plain a) : Finishes dialect k 0 a a :=
  ⟨h.1, h.2, finished_of_plain h⟩

theorem slot : Finishes dialect k 1 "?" (dialect.slot (k + 1)) := by
  have hcount : placeholders "?" = 1 := by decide
  refine ⟨by decide, hcount, ?_⟩
  rw [Sql.finished, hcount]
  exact filled_placeholder _

/-- Two texts take the slots of both, numbered on. -/
theorem append (ha : Finishes dialect k n a a') (hb : Finishes dialect (k + n) m b b') :
    Finishes dialect k (n + m) (a ++ b) (a' ++ b') := by
  refine ⟨ha.closed.append hb.closed, ?_, ?_⟩
  · rw [placeholders_append ha.closed, ha.count, hb.count]
  · rw [finished_append ha.closed, ha.count, ha.finished, hb.finished]

/-- A plain text in front takes no slot. -/
theorem plain_append (ha : Plain a) (hb : Finishes dialect k n b b') :
    Finishes dialect k n (a ++ b) (a ++ b') := by
  have hall := (of_plain (k := k) ha).append hb
  rwa [Nat.zero_add] at hall

/-- A plain text behind takes no slot. -/
theorem append_plain (ha : Finishes dialect k n a a') (hb : Plain b) :
    Finishes dialect k n (a ++ b) (a' ++ b) :=
  ha.append (of_plain hb)

/-- A list of placeholders, each behind a text of its own. -/
theorem intercalate {α : Type} {f : α → String} {separator : String} (hs : Plain separator) :
    (k : Nat) → (as : List α) → (∀ a ∈ as, Plain (f a)) →
      Finishes dialect k as.length (separator.intercalate (as.map fun a => f a ++ "?"))
        (separator.intercalate
          (List.zipWith (fun a slot => f a ++ slot) as (dialect.slots k as.length)))
  | _, [], _ => of_plain ⟨rfl, rfl⟩
  | k, [a], h => by
    have hone : Finishes dialect k 1 (f a ++ "?") _ := slot.plain_append (h a List.mem_cons_self)
    simpa [Dialect.slots_succ, Dialect.slots] using hone
  | k, a :: b :: rest, h => by
    obtain ⟨ha, hrest⟩ := List.forall_mem_cons.mp h
    have hfirst : Finishes dialect k 1 (f a ++ "?" ++ separator) _ :=
      (slot.plain_append ha).append_plain hs
    have hall := hfirst.append (intercalate hs (k + 1) (b :: rest) hrest)
    rw [Nat.add_comm] at hall
    simpa only [List.map_cons, String.intercalate_cons_cons, Dialect.slots_succ,
      List.zipWith_cons_cons, List.length_cons] using hall

theorem slots {separator : String} (hs : Plain separator) (k n : Nat) :
    Finishes dialect k n (separator.intercalate (List.replicate n "?"))
      (separator.intercalate (dialect.slots k n)) := by
  have hall : Finishes dialect k _ _ _ :=
    intercalate (f := fun _ : Unit => "") hs k (List.replicate n ()) fun _ _ => ⟨rfl, rfl⟩
  have hslots : List.zipWith (fun (_ : Unit) slot => "" ++ slot) (List.replicate n ())
      (dialect.slots k n) = dialect.slots k n := by
    refine List.ext_getElem (by simp [Dialect.length_slots]) fun i _ _ => ?_
    rw [List.getElem_zipWith, String.empty_append]
  rw [List.length_replicate, hslots] at hall
  simpa using hall

end Finishes

/-- The positions of the placeholders of a text, counted from zero. -/
def places (text : String) : List Nat :=
  (mark none text.toList).findIdxs isPlaceholder

/-- There are as many places as placeholders. -/
theorem length_places (text : String) : (places text).length = placeholders text :=
  List.length_findIdxs

/-- Marking keeps the number of characters. -/
theorem length_mark (state : QuoteState) (cs : List Char) : (mark state cs).length = cs.length := by
  rw [← List.length_map Prod.fst, map_fst_mark]

/-- Places are inside the text. -/
theorem lt_of_mem_places {text : String} {p : Nat} (h : p ∈ places text) : p < text.length := by
  have hlt := List.lt_add_of_mem_findIdxs p h
  rwa [length_mark, String.length_toList] at hlt

/-- A plain text has no places. -/
theorem places_of_plain (h : Plain a) : places a = [] := by
  rw [← List.length_eq_zero_iff, length_places, h.2]

/-- Behind a closed text the places move on by its length. -/
theorem places_append (ha : Closed a) :
    places (a ++ b) = places a ++ (places b).map (· + a.length) := by
  rw [places, String.toList_append, mark_append, ha, List.findIdxs_append, length_mark,
    String.length_toList, Nat.zero_add, List.findIdxs_start (s := a.length)]
  rfl

end Sql

end RowMap
