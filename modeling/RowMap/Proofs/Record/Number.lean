import RowMap.Proofs.Binary64.Roundest
import RowMap.Proofs.Record.Reference
import RowMap.Proofs.Value.Integer

/-!
# Numbers of JSON objects as attributes

The fields of a JSON object become the entries of a map, one for one and in their order, and an
attribute is given by the only field whose key means it (`get_of_only`).

An integer of 64 bits with a sign arrives unchanged. A greater one becomes a double on the way,
which no attribute of integers takes; an attribute of texts takes the digits of the double, and
these are those of the number only if it is the roundest one that has this double
(`fromMapOn_number_iff`).
-/

namespace RowMap

open KeyStyle (toUnderscore)
open Binary64 (Roundest ofInt)

namespace Value

/-- The value of an attribute is the number itself: as an integer, or in its decimal digits. -/
inductive Keeps (n : Int) : Kind → Value → Prop
  | integer {i : Int64} (h : i.toInt = n) : Keeps n .integer (.integer i)
  | text : Keeps n .text (.text (Decimal.signedText n))

variable {n : Int} {kind : Kind} {w : Value}

/-- A text keeps a number if it is its digits. -/
theorem keeps_text_iff {s : String} : Keeps n .text (.text s) ↔ s = Decimal.signedText n := by
  constructor
  · intro h
    cases h
    rfl
  · rintro rfl
    exact .text

/-- A number that fits is an integer. -/
theorem ofNumber_of_fits (h : FitsSigned n) (hword : FitsWord n) :
    ∃ i : Int64, i.toInt = n ∧ ofNumber (.integer n hword) = .integer i := by
  refine ⟨Int64.ofInt n, Int64.toInt_ofInt_of_le h.1 h.2, ?_⟩
  simp only [ofNumber, int64?, if_pos h]

theorem ofNumber_of_not_fits (h : ¬FitsSigned n) (hword : FitsWord n) :
    ofNumber (.integer n hword) = .real (ofInt n) := by
  simp only [ofNumber, int64?, if_neg h]

/-- A double that is the nearest one to a number beyond the signed ones is none of these. -/
theorem toInt64?_ofInt (h : 0x8000000000000000 ≤ n) (hword : FitsWord n) :
    (ofInt n).toInt64? = none := by
  obtain ⟨q, hq, hle, -⟩ := Binary64.exists_toRat?_ofInt (i := n) (a := 2 ^ 63) (b := 2 ^ 64)
    (k := 63) (l := 64) (by decide) (by decide) (by decide) le_rfl
    ⟨by omega, by have := hword.2; omega⟩
  refine Option.eq_none_iff_forall_ne_some.mpr fun i hi => ?_
  have hvalue := Binary64.toInt64?_eq_some_iff.mp hi
  obtain rfl := Option.some.inj (hq.symm.trans hvalue)
  have hlt := Int64.toInt_lt i
  have hge : (2 ^ 63 : Int) ≤ i.toInt := by exact_mod_cast hle
  omega

/-- An integer that is taken is kept; a text keeps a number that fits or is the roundest one of its
double. -/
theorem keeps_iff (hword : FitsWord n) (hkind : kind = .integer ∨ kind = .text)
    (h : (ofNumber (.integer n hword)).coerce kind = .ok w) :
    Keeps n kind w ↔ kind = .integer ∨ FitsSigned n ∨ Roundest (ofInt n) n.toNat := by
  by_cases hfits : FitsSigned n
  · refine iff_of_true ?_ (.inr (.inl hfits))
    obtain ⟨i, rfl, hvalue⟩ := ofNumber_of_fits hfits hword
    rw [hvalue] at h
    rcases hkind with rfl | rfl
    · cases h
      exact .integer rfl
    · cases h
      exact .text
  · have hlarge : 0x8000000000000000 ≤ n := by
      have := hword.1
      unfold FitsSigned at hfits
      omega
    rw [ofNumber_of_not_fits hfits] at h
    rcases hkind with rfl | rfl
    · simp only [coerce, toInt64?_ofInt hlarge hword] at h
      cases h
    · obtain ⟨k, rfl⟩ := Int.eq_ofNat_of_zero_le (show 0 ≤ n by omega)
      have hk : 0 < k ∧ k ≤ 2 ^ 64 := by
        have := hword.2
        omega
      obtain rfl : Value.text (ofInt k).text = w := Except.ok.inj h
      rw [Int.toNat_natCast, ← Binary64.text_ofInt_eq_iff hk.1 hk.2, ← Decimal.signedText_natCast,
        keeps_text_iff]
      exact (or_iff_right hfits).symm.trans (or_iff_right (by decide)).symm

end Value

/-! ## The only key of an attribute -/

namespace Mapper

variable {t : RecordType} {m : Mapper} {default r : Record t} {map : AttributeMap}
  {underscoreKeys : Bool}

/-- An attribute that only one key of a map means gets the value under this key. -/
theorem get_of_only {e : String × Value} (he : e ∈ map.entries) {i : Fin t.attributes.length}
    (hi : t.find? (toUnderscore e.1) = some i)
    (honly : ∀ e' ∈ map.entries, t.find? (toUnderscore e'.1) = some i → e'.1 = e.1)
    (h : m.fromMapOn default map underscoreKeys = .ok r) :
    e.2.coerce (t.attributes.get i).kind = .ok (r.get i) := by
  obtain ⟨key, value⟩ := e
  have hname : toUnderscore key = (t.attributes.get i).name := (RecordType.name_of_find? hi).symm
  have hfind : t.find? (t.attributes.get i).name = some i := hname ▸ hi
  have howns : Owns t (t.attributes.get i).name key := ⟨hname, Option.isSome_of_eq_some hfind⟩
  have hother (e' : String × Value) (he' : e' ∈ map.entries)
      (howns' : Owns t (t.attributes.get i).name e'.1) : e'.1 = key :=
    honly e' he' (by rw [howns'.1, hfind])
  have href := reference_fromMapOn m default map underscoreKeys
  rw [h] at href
  generalize (if underscoreKeys then KeyStyle.underscore else .camel) = declared at href
  cases href with
  | built hknown hset hkept =>
    by_cases hkey : key = declared.apply (t.attributes.get i).name
    · exact hset i ⟨true, value⟩ hfind (.declared (hkey ▸ howns) (hkey ▸ he))
    · refine hset i ⟨false, value⟩ hfind (.greatest howns he (fun e' he' howns' => ?_)
        fun e' he' howns' => ?_)
      · rw [hother e' he' howns']
        exact hkey
      · rw [hother e' he' howns']
        exact List.le_refl _

end Mapper

namespace Document

variable {fields : List (String × Json)}

/-- The trees of canonical fields are the fields. -/
theorem map_tree_fieldsOf (h : Json.CanonicalFields fields) :
    (fieldsOf fields h).map (fun f => (f.1, f.2.tree)) = fields := by
  induction fields with
  | nil => rfl
  | cons field rest ih => exact congrArg (field :: ·) (ih h.2)

/-- The entries of the attribute map of an object are its fields, for no key is there twice. -/
theorem mem_toAttributes_iff {h : (Json.object fields).Canonical} {map : AttributeMap}
    (hmap : toAttributes ⟨.object fields, h⟩ = .ok map) {e : String × Value} :
    e ∈ map.entries ↔ ∃ d : Document, (e.1, d.tree) ∈ fields ∧ e.2 = Value.ofDocument d := by
  have htrees := map_tree_fieldsOf h.2
  have hkeys : ((fieldsOf fields h.2).map fun f => (f.1, Value.ofDocument f.2)).map Prod.fst =
      fields.map Prod.fst := by
    conv_rhs => rw [← htrees]
    simp only [List.map_map, Function.comp_def]
  have hnodup : (fields.map Prod.fst).Nodup := by
    refine List.pairwise_map.mpr (h.1.imp fun hlt heq => ?_)
    rw [heq] at hlt
    exact String.lt_irrefl _ hlt
  cases hmap
  rw [(KeyMap.perm_ofList (hkeys ▸ hnodup)).mem_iff, List.mem_map]
  constructor
  · rintro ⟨f, hf, rfl⟩
    exact ⟨f.2, htrees ▸ List.mem_map.mpr ⟨f, hf, rfl⟩, rfl⟩
  · rintro ⟨d, hd, hvalue⟩
    rw [← htrees] at hd
    obtain ⟨⟨key, d', _⟩, hf, heq⟩ := List.mem_map.mp hd
    cases heq
    exact ⟨_, hf, Prod.ext rfl hvalue.symm⟩

end Document

section Objects

variable {t : RecordType} {fields : List (String × Json)} {key : String} {n : Int}
  {hword : FitsWord n} {i : Fin t.attributes.length}

/-- A number of a JSON object whose key is the only one to mean an attribute of integers or texts.
The object is refused, or the attribute is the number itself if and only if it is one of integers,
or the number fits 64 bits with a sign, or it is the roundest number that has its double. -/
theorem fromMapOn_number_iff (hobject : (Json.object fields).Canonical)
    (hfield : (key, Json.number (.integer n hword)) ∈ fields)
    (hi : t.find? (toUnderscore key) = some i)
    (hkind : (t.attributes.get i).kind = .integer ∨ (t.attributes.get i).kind = .text)
    (honly : ∀ f ∈ fields, t.find? (toUnderscore f.1) = some i → f.1 = key)
    (m : Mapper) (default : Record t) (underscoreKeys : Bool) :
    let mapped := Document.toAttributes ⟨.object fields, hobject⟩ >>= fun map =>
      m.fromMapOn default map underscoreKeys
    (∃ fault, mapped = .error fault) ∨ ∃ r, mapped = .ok r ∧
      (Value.Keeps n (t.attributes.get i).kind (r.get i) ↔ (t.attributes.get i).kind = .integer ∨
        FitsSigned n ∨ Roundest (ofInt n) n.toNat) := by
  intro mapped
  cases hmapped : mapped with
  | error fault => exact .inl ⟨fault, rfl⟩
  | ok r =>
    obtain ⟨map, hmap, hrecord⟩ := bind_eq_ok.mp hmapped
    have hentry : (key, Value.ofNumber (.integer n hword)) ∈ map.entries :=
      (Document.mem_toAttributes_iff hmap).mpr ⟨⟨.number (.integer n hword), trivial⟩, hfield, rfl⟩
    have hcoerce := Mapper.get_of_only hentry hi (fun e he hmeans => ?_) hrecord
    · exact .inr ⟨r, rfl, Value.keeps_iff hword hkind hcoerce⟩
    · obtain ⟨d, hd, -⟩ := (Document.mem_toAttributes_iff hmap).mp he
      exact honly _ hd hmeans

end Objects

/-! ## Numbers that are too great for a sign -/

/-- Orders with a number that is kept as text. -/
def serialOrders : RecordType :=
  ⟨"orders", "id", [⟨"id", .integer⟩, ⟨"serial_number", .text⟩], []⟩

/-- The record of an object with such a number. -/
def serialOrder (n : Int) (hword : FitsWord n) : Except MappingFault (Record serialOrders) :=
  Document.toAttributes ⟨.object [("serialNumber", .number (.integer n hword))],
      List.pairwise_singleton .., trivial, trivial⟩ >>= fun map =>
    Mapper.default.fromMapOn (Record.unset serialOrders) map false

/-- A number with nineteen zeros comes through its double unchanged. -/
theorem fromMapOn_number_iff_zeros :
    ∃ r, serialOrder 10000000000000000000 (by decide) = .ok r ∧
      Value.Keeps 10000000000000000000 .text (r.get ⟨1, by decide⟩) := by
  have hroundest : Roundest (ofInt 10000000000000000000) 10000000000000000000 :=
    (Binary64.text_ofInt_eq_iff (by decide) (by decide)).mp (by decide +kernel)
  have hi : serialOrders.find? (toUnderscore "serialNumber") = some ⟨1, by decide⟩ := by decide
  have hmapped : serialOrder 10000000000000000000 (by decide) =
      .ok ⟨⟨#[.null, .text (ofInt 10000000000000000000).text], rfl⟩⟩ := rfl
  rcases fromMapOn_number_iff _ (List.mem_singleton.mpr rfl) hi (.inr rfl)
      (List.forall_mem_singleton.mpr fun _ => rfl) Mapper.default (Record.unset serialOrders)
      false with ⟨fault, hfault⟩ | ⟨r, hr, hiff⟩
  · cases hmapped.symm.trans hfault
  · exact ⟨r, hr, hiff.mpr (.inr (.inr hroundest))⟩

/-- The greatest number of 64 bits is replaced by another one. -/
theorem serialOrder_replaced : ∃ r, serialOrder 18446744073709551615 (by decide) = .ok r ∧
    r.get ⟨1, by decide⟩ = .text "18446744073709552000" ∧
    ¬Value.Keeps 18446744073709551615 .text (r.get ⟨1, by decide⟩) := by
  have htext : (ofInt 18446744073709551615).text = "18446744073709552000" := by decide +kernel
  have hdigits : "18446744073709552000" ≠ Decimal.signedText 18446744073709551615 := by
    decide +kernel
  refine ⟨⟨⟨#[.null, .text (ofInt 18446744073709551615).text], rfl⟩⟩, rfl,
    congrArg Value.text htext, ?_⟩
  intro hkeeps
  exact hdigits (htext ▸ Value.keeps_text_iff.mp hkeeps)

end RowMap
