import RowMap.Proofs.Binary64.Whole
import RowMap.Proofs.Record.Fields
import RowMap.Proofs.Value.Text
import RowMap.Record.Validation

/-!
# What rules ask for

`Meets` says which values a check accepts, in terms of the values themselves: numbers are compared
as rationals, blank text consists of blanks. A check finds no fault with a value exactly if the
value meets it (`failure?_eq_none_iff`), and so a record has one violation for each rule that its
value does not meet, in the order of the rules (`violations_exact`).

A range has doubles as bounds and compares doubles. An integer that is none is judged by the nearest
one, so it may be taken for a bound that it misses (`violations_bulkOrder`); up to `2 ^ 53` this
does not happen, and at no size is an integer refused that lies within the bounds.
-/

namespace RowMap

/-- Only a text of blanks is trimmed to nothing. -/
theorem Text.trim_eq_nil_iff {cs : List Char} : trim cs = [] ↔ ∀ c ∈ cs, isBlank c = true := by
  constructor
  · intro h
    have hrest : trimLeft cs = [] := by
      by_contra hne
      obtain ⟨c, hc⟩ := Option.isSome_iff_exists.mp (List.isSome_head?.mpr hne)
      -- The first character that is left is no blank, so it stops the trimming from the right.
      have hblank : isBlank c = false := by
        have hfirst := List.head?_dropWhile_not isBlank cs
        rw [show cs.dropWhile isBlank = trimLeft cs from rfl, hc] at hfirst
        simpa using hfirst
      have hlast : trimLeft (trimLeft cs).reverse = [] := List.reverse_eq_nil_iff.mp h
      have hall := List.dropWhile_eq_nil_iff.mp hlast c
        (List.mem_reverse.mpr (List.mem_of_head? hc))
      rw [hblank] at hall
      cases hall
    exact List.dropWhile_eq_nil_iff.mp hrest
  · intro h
    have hrest : trimLeft cs = [] := List.dropWhile_eq_nil_iff.mpr h
    rw [trim, hrest]
    rfl

/-- Text of which nothing can be seen. -/
def Value.IsBlank : Value → Prop
  | .text s => Text.Blank s
  | _ => False

/-! ## Meeting a check -/

open Binary64 (Extended)
open Binary64.Extended (number)

/-- The double nearest to a number stands for `x`. -/
def Binary64.RoundedTo (q : ℚ) (x : Extended) : Prop :=
  ∃ r, Nearest q r ∧ r.extended? = some x

/-- The values that a check accepts. One that is not set is refused only where one is required. The
bounds of a range are numbers or infinities; NaN is no bound, and no real within any. -/
inductive Meets : Check → Value → Prop
  | unset {check : Check} (h : check ≠ .required) : Meets check .null
  | present {v : Value} (hset : v ≠ .null) (h : ¬v.IsBlank) : Meets .required v
  | length {min max : Nat} {v : Value} (hset : v ≠ .null)
    (h : min ≤ v.display.length ∧ v.display.length ≤ max) : Meets (.length min max) v
  | real {min max r : Binary64} {x y z : Extended} (hmin : min.extended? = some x)
    (hmax : max.extended? = some z) (hr : r.extended? = some y) (h : x ≤ y ∧ y ≤ z) :
    Meets (.range min max) (.real r)
  | integer {min max : Binary64} {i : Int64} {x z : Extended} (hmin : min.extended? = some x)
    (hmax : max.extended? = some z) (hlower : x ≤ number i.toInt ∨ Binary64.RoundedTo i.toInt x)
    (hupper : number i.toInt ≤ z ∨ Binary64.RoundedTo i.toInt z) :
    Meets (.range min max) (.integer i)
  | listed {allowed : List String} {v : Value} (hset : v ≠ .null) (h : v.display ∈ allowed) :
    Meets (.oneOf allowed) v

section Inversion

variable {v : Value}

/-- What is not set meets all checks but one. -/
theorem meets_null_iff {check : Check} : Meets check .null ↔ check ≠ .required := by
  constructor
  · intro h
    cases h with
    | unset h => exact h
    | present hset | length hset | listed hset => exact absurd rfl hset
  · exact .unset

/-- The length of a value is that of its display. -/
theorem meets_length_iff (hv : v ≠ .null) {min max : Nat} :
    Meets (.length min max) v ↔ min ≤ v.display.length ∧ v.display.length ≤ max := by
  constructor
  · intro h
    cases h with
    | unset => exact absurd rfl hv
    | length _ h => exact h
  · exact .length hv

/-- A value is allowed if its display is. -/
theorem meets_oneOf_iff (hv : v ≠ .null) {allowed : List String} :
    Meets (.oneOf allowed) v ↔ v.display ∈ allowed := by
  constructor
  · intro h
    cases h with
    | unset => exact absurd rfl hv
    | listed _ h => exact h
  · exact .listed hv

variable {min max : Binary64} {x z : ℚ} (hmin : min.toRat? = some x) (hmax : max.toRat? = some z)

include hmin hmax

/-- Between finite bounds only numbers are accepted, and all of them. -/
theorem meets_real_iff {r : Binary64} :
    Meets (.range min max) (.real r) ↔ ∃ y, r.toRat? = some y ∧ x ≤ y ∧ y ≤ z := by
  have hlower := Binary64.extended?_of_toRat? hmin
  have hupper := Binary64.extended?_of_toRat? hmax
  constructor
  · intro h
    cases h with
    | real hmin' hmax' hr hin =>
      obtain rfl := Option.some.inj (hlower.symm.trans hmin')
      obtain rfl := Option.some.inj (hupper.symm.trans hmax')
      obtain ⟨y, rfl, hy⟩ := Binary64.exists_toRat?_of_between hr hin
      exact ⟨y, hy, Binary64.number_le_number_iff.mp hin.1, Binary64.number_le_number_iff.mp hin.2⟩
  · rintro ⟨y, hy, hx, hz⟩
    exact .real hlower hupper (Binary64.extended?_of_toRat? hy)
      ⟨Binary64.number_le_number_iff.mpr hx, Binary64.number_le_number_iff.mpr hz⟩

/-- An integer may miss a bound that it is rounded to. -/
theorem meets_integer_iff {i : Int64} : Meets (.range min max) (.integer i) ↔
    (x ≤ i.toInt ∨ Binary64.RoundedTo i.toInt (number x)) ∧
      (i.toInt ≤ z ∨ Binary64.RoundedTo i.toInt (number z)) := by
  have hlower := Binary64.extended?_of_toRat? hmin
  have hupper := Binary64.extended?_of_toRat? hmax
  rw [← Binary64.number_le_number_iff (x := x), ← Binary64.number_le_number_iff (y := z)]
  constructor
  · intro h
    cases h with
    | integer hmin' hmax' hx hz =>
      obtain rfl := Option.some.inj (hlower.symm.trans hmin')
      obtain rfl := Option.some.inj (hupper.symm.trans hmax')
      exact ⟨hx, hz⟩
  · rintro ⟨hx, hz⟩
    exact .integer hlower hupper hx hz

/-- An integer within the bounds is always accepted, and a small one in no other case. -/
theorem meets_integer_of_exact (i : Int64) :
    (x ≤ i.toInt ∧ i.toInt ≤ z → Meets (.range min max) (.integer i)) ∧
      (i.toInt.natAbs ≤ 2 ^ 53 →
        (Meets (.range min max) (.integer i) ↔ x ≤ i.toInt ∧ i.toInt ≤ z)) := by
  rw [meets_integer_iff hmin hmax]
  refine ⟨fun h => ⟨.inl h.1, .inl h.2⟩, fun hsmall => ?_⟩
  have hself {b : ℚ} (h : Binary64.RoundedTo i.toInt (number b)) : (i.toInt : ℚ) = b := by
    obtain ⟨r, hr, hvalue⟩ := h
    have hexact := (hr.unique (Binary64.nearest_ofInt _)).trans (Binary64.toRat?_ofInt hsmall)
    rw [Binary64.extended?_of_toRat? hexact] at hvalue
    exact Binary64.number_inj.mp (Option.some.inj hvalue)
  exact and_congr (or_iff_left_of_imp fun h => (hself h).ge)
    (or_iff_left_of_imp fun h => (hself h).le)

end Inversion

namespace Check

variable {v : Value}

/-- Of all checks only the one for presence fails without a value. -/
theorem failure?_null {check : Check} (h : check ≠ .required) : check.failure? .null = none := by
  cases check with
  | required => exact absurd rfl h
  | _ => rfl

section Set

variable (hset : v.isNull = false)

include hset

theorem failure?_length (min max : Nat) :
    (length min max).failure? v = lengthFailure? min max v.display :=
  if_neg (Bool.eq_false_iff.mp hset)

theorem failure?_range (min max : Binary64) :
    (range min max).failure? v = rangeFailure? min max v :=
  if_neg (Bool.eq_false_iff.mp hset)

theorem failure?_oneOf (allowed : List String) : (oneOf allowed).failure? v =
    if v.display ∈ allowed then none else some (.notListed allowed) :=
  if_neg (Bool.eq_false_iff.mp hset)

end Set

/-- The check for presence passes the values that are present. -/
theorem failure?_required : required.failure? v = none ↔ Meets .required v := by
  constructor
  · intro h
    cases v with
    | null => cases h
    | text s =>
      refine .present nofun fun hblank => ?_
      have hfailure : required.failure? (.text s) = some .blank :=
        if_pos (Text.trim_eq_nil_iff.mpr hblank)
      rw [hfailure] at h
      cases h
    | _ => exact .present nofun id
  · rintro (_ | ⟨hset, hblank⟩)
    · contradiction
    · cases v with
      | null => exact absurd rfl hset
      | text s => exact if_neg (mt Text.trim_eq_nil_iff.mp hblank)
      | _ => rfl

section Ranges

variable {min max : Binary64}

/-- A real is compared with the bounds as what it stands for. -/
theorem rangeFailure?_real {r : Binary64} :
    rangeFailure? min max (.real r) = none ↔ Meets (.range min max) (.real r) := by
  have hwithin : rangeFailure? min max (.real r) = none ↔ min.le r = true ∧ r.le max = true := by
    simp [rangeFailure?, Value.asReal?]
  rw [hwithin, Binary64.le_iff_extended, Binary64.le_iff_extended]
  constructor
  · rintro ⟨⟨x, y, hmin, hr, hx⟩, y', z, hr', hmax, hz⟩
    obtain rfl := Option.some.inj (hr.symm.trans hr')
    exact .real hmin hmax hr ⟨hx, hz⟩
  · rintro (_ | _ | _ | ⟨hmin, hmax, hr, hx, hz⟩)
    exact ⟨⟨_, _, hmin, hr, hx⟩, _, _, hr, hmax, hz⟩

/-- An integer is compared with the bounds as the double nearest to it. -/
theorem rangeFailure?_integer {i : Int64} :
    rangeFailure? min max (.integer i) = none ↔ Meets (.range min max) (.integer i) := by
  have hnearest := Binary64.nearest_ofInt i.toInt
  obtain ⟨y, hy⟩ : ∃ y, (Binary64.ofInt i.toInt).toRat? = some y := by
    have hlower := Int64.le_toInt i
    have hupper := Int64.toInt_lt i
    obtain ⟨j, hj⟩ := Binary64.exists_whole_ofInt (i := i.toInt) (by omega)
    exact ⟨j, hj⟩
  have hextended := Binary64.extended?_of_toRat? hy
  have hrounded (b : Extended) : Binary64.RoundedTo i.toInt b ↔ number y = b := by
    constructor
    · rintro ⟨r, hr, hvalue⟩
      rw [Binary64.extended?_of_toRat? ((hr.unique hnearest).trans hy)] at hvalue
      exact Option.some.inj hvalue
    · rintro rfl
      exact ⟨_, hnearest, hextended⟩
  have hsame : rangeFailure? min max (.integer i) =
    rangeFailure? min max (.real (Binary64.ofInt i.toInt)) := rfl
  rw [hsame, rangeFailure?_real]
  constructor
  · rintro (_ | _ | _ | ⟨hmin, hmax, hr, hx, hz⟩)
    obtain rfl := Option.some.inj (hextended.symm.trans hr)
    rw [hnearest.lower_iff_extended hmin hy, ← hrounded] at hx
    rw [hnearest.upper_iff_extended hmax hy, ← hrounded] at hz
    exact .integer hmin hmax hx hz
  · rintro (_ | _ | _ | _ | ⟨hmin, hmax, hx, hz⟩)
    rw [hrounded, ← hnearest.lower_iff_extended hmin hy] at hx
    rw [hrounded, ← hnearest.upper_iff_extended hmax hy] at hz
    exact .real hmin hmax hextended ⟨hx, hz⟩

end Ranges

/-- A check finds no fault exactly with the values that meet it. -/
theorem failure?_eq_none_iff {check : Check} (h : ∀ pattern, check ≠ .pattern pattern) :
    check.failure? v = none ↔ Meets check v := by
  by_cases hv : v = .null
  · subst hv
    by_cases hrequired : check = .required
    · subst hrequired
      exact failure?_required
    · exact iff_of_true (failure?_null hrequired) (.unset hrequired)
  · have hset : v.isNull = false := Value.isNull_eq_false_iff.mpr hv
    cases check with
    | required => exact failure?_required
    | pattern p => exact absurd rfl (h p)
    | length min max =>
      rw [meets_length_iff hv, failure?_length hset]
      simp [lengthFailure?]
    | range min max =>
      rw [failure?_range hset]
      cases v with
      | real r => exact rangeFailure?_real
      | integer i => exact rangeFailure?_integer
      | null => exact absurd rfl hv
      | _ => exact iff_of_false nofun nofun
    | oneOf allowed =>
      rw [meets_oneOf_iff hv, failure?_oneOf hset]
      simp

end Check

/-! ## The violations of a record -/

/-- What is kept of a list is what its other members are turned into, one by one. -/
theorem forall₂_filterMap {α β : Type} {f : α → Option β} {p : α → Prop} [DecidablePred p]
    {l : List α} (h : ∀ a ∈ l, (f a = none ↔ p a)) :
    List.Forall₂ (fun a b => f a = some b) (l.filter fun a => ¬p a) (l.filterMap f) := by
  induction l with
  | nil => exact .nil
  | cons a l ih =>
    obtain ⟨ha, hl⟩ := List.forall_mem_cons.mp h
    cases hfa : f a with
    | none =>
      have hp : p a := ha.mp hfa
      rw [List.filterMap_cons_none hfa, List.filter_cons_of_neg (by simpa using hp)]
      exact ih hl
    | some b =>
      have hp : ¬p a := fun hp => by
        rw [ha.mpr hp] at hfa
        cases hfa
      rw [List.filterMap_cons_some hfa, List.filter_cons_of_pos (by simpa using hp)]
      exact .cons hfa (ih hl)

namespace Record

variable {t : RecordType}

/-- An attribute that is not declared has no value. -/
theorem value_of_undeclared (r : Record t) {name : String}
    (h : ∀ a ∈ t.attributes, a.name ≠ name) : r.value name = .null := by
  have hnone : t.find? name = none :=
    RecordType.find?_eq_none_iff.mpr fun i => h _ (List.get_mem _ i)
  rw [value, hnone]

open Classical in
/-- A record has one violation for each rule that it does not meet, in the order of the rules. What
is not declared or not set fails a rule only if it is required. A range with finite bounds accepts
the reals that are numbers between them; it accepts the integers between them, and besides these
only large ones that are rounded to a bound. -/
theorem violations_exact
    (hrules : ∀ rule ∈ t.rules, ∀ pattern, rule.check ≠ .pattern pattern) (r : Record t) :
    List.Forall₂ (fun rule v => v.field = rule.field ∧ v.rule = rule.check.identifier ∧
        rule.check.failure? (r.value rule.field) = some v.failure)
      (t.rules.filter fun rule => ¬Meets rule.check (r.value rule.field)) r.violations ∧
    (∀ rule ∈ t.rules, (∀ a ∈ t.attributes, a.name ≠ rule.field) ∨ r.value rule.field = .null →
      (Meets rule.check (r.value rule.field) ↔ rule.check ≠ .required)) ∧
    ∀ (min max : Binary64) (x z : ℚ), min.toRat? = some x → max.toRat? = some z →
      (∀ y : Binary64, Meets (.range min max) (.real y) ↔
        ∃ q, y.toRat? = some q ∧ x ≤ q ∧ q ≤ z) ∧
      ∀ i : Int64,
        (Meets (.range min max) (.integer i) ↔
          (x ≤ i.toInt ∨ Binary64.RoundedTo i.toInt (number x)) ∧
            (i.toInt ≤ z ∨ Binary64.RoundedTo i.toInt (number z))) ∧
        (x ≤ i.toInt ∧ i.toInt ≤ z → Meets (.range min max) (.integer i)) ∧
        (i.toInt.natAbs ≤ 2 ^ 53 →
          (Meets (.range min max) (.integer i) ↔ x ≤ i.toInt ∧ i.toInt ≤ z)) := by
  refine ⟨?_, ?_, fun _ _ _ _ hmin hmax => ⟨fun _ => meets_real_iff hmin hmax, fun i =>
    ⟨meets_integer_iff hmin hmax, meets_integer_of_exact hmin hmax i⟩⟩⟩
  · have hnone (rule : Rule) (hrule : rule ∈ t.rules) :
        r.violation? rule = none ↔ Meets rule.check (r.value rule.field) := by
      rw [violation?, Option.map_eq_none_iff, Check.failure?_eq_none_iff (hrules rule hrule)]
    refine (forall₂_filterMap hnone).imp fun rule v hv => ?_
    obtain ⟨failure, hfailure, rfl⟩ := Option.map_eq_some_iff.mp hv
    exact ⟨rfl, rfl, hfailure⟩
  · intro rule _ hunset
    have hnull : r.value rule.field = .null := hunset.elim r.value_of_undeclared id
    rw [hnull, meets_null_iff]

/-- Ballots are weighted by a real that is not negative, with no upper bound. -/
def ballots : RecordType :=
  ⟨"ballots", "id", [⟨"voter", .text⟩, ⟨"choice", .text⟩, ⟨"weight", .real⟩, ⟨"booth", .integer⟩],
    [⟨"voter", .required⟩, ⟨"voter", .length 1 4⟩, ⟨"choice", .oneOf ["yes", "no"]⟩,
      ⟨"weight", .range (.ofInt 0) (.infinity false)⟩, ⟨"booth", .range (.ofInt 1) (.ofInt 9)⟩,
      ⟨"stamp", .required⟩]⟩

/-- A vote without a name, whose weight is no number. -/
def ballot : Record ballots :=
  ⟨#v[.text "  ", .text "yes", .real .nan, .null]⟩

open Classical in
/-- Three of its rules are not met: those on the name, on the weight and on a missing attribute. -/
theorem violations_exact_ballot :
    (∀ rule ∈ ballots.rules, ∀ pattern, rule.check ≠ .pattern pattern) ∧
      ballot.violations.map (fun v => (v.field, v.rule)) =
        [("voter", "required"), ("weight", "range"), ("stamp", "required")] ∧
      (ballots.rules.filter fun rule =>
        ¬Meets rule.check (ballot.value rule.field)).length = 3 := by
  have hrules : ∀ rule ∈ ballots.rules, ∀ pattern, rule.check ≠ .pattern pattern := by
    simp [ballots]
  have hviolations : ballot.violations.map (fun v => (v.field, v.rule)) =
      [("voter", "required"), ("weight", "range"), ("stamp", "required")] := by decide +kernel
  obtain ⟨hmatch, -, -⟩ := violations_exact hrules ballot
  refine ⟨hrules, hviolations, hmatch.length_eq.trans ?_⟩
  exact (List.length_map _).symm.trans (congrArg List.length hviolations)

/-- Orders of at most `2 ^ 53` pieces. -/
def bulkOrders : RecordType :=
  ⟨"orders", "id", [⟨"id", .integer⟩, ⟨"count", .integer⟩],
    [⟨"count", .range (.ofInt 0) (.ofInt 9007199254740992)⟩]⟩

/-- An order of one piece too many. -/
def bulkOrder : Record bulkOrders :=
  ⟨#v[.null, .integer 9007199254740993]⟩

/-- The count is beyond the bound, but the double nearest to it is the bound. -/
theorem violations_bulkOrder :
    (Binary64.ofInt 9007199254740992).toRat? = some 9007199254740992 ∧
      bulkOrder.value "count" = .integer 9007199254740993 ∧
      (9007199254740992 : ℚ) < (9007199254740993 : Int64).toInt ∧ bulkOrder.violations = [] := by
  have hbound : (Binary64.ofInt 9007199254740992).toRat? = some ((9007199254740992 : Int) : ℚ) :=
    Binary64.toRat?_ofInt (by decide)
  have hcount : (9007199254740993 : Int64).toInt = 9007199254740993 := by decide
  refine ⟨by exact_mod_cast hbound, rfl, ?_, by decide +kernel⟩
  rw [hcount]
  norm_num

end Record

end RowMap
