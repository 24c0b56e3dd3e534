import RowMap.Proofs.Condition.Truth
import RowMap.Proofs.Sql.Token

/-!
# Reading conditions

A list of tokens is read as a condition in the way of SQL: it is cut at every OR, the clauses are
cut at every AND, a leading NOT negates the rest of its clause, and parentheses around a whole
clause group. What remains is a predicate, and its truth is up to the row.

Only connectives outside of all parentheses cut. The AND of `x BETWEEN a AND b` belongs to the
BETWEEN, and those between CASE and END belong to the CASE. `Nesting` keeps track of the three.

A list of tokens is calm if it is read without meeting a connective and without leaving anything
open. Calm lists with a connective between each two are cut at that connective and nowhere else
(`read_intercalate`).
-/

namespace RowMap

open Sql (Token Paired)

/-! ## Keywords -/

/-- Keywords are the same in upper and lower case. -/
def Sql.Token.spells (keyword : String) : Token → Bool
  | .word letters => letters.map Char.toUpper = keyword.toList
  | _ => false

/-- The words that reading a condition depends on. -/
def Sql.Token.isKeyword (t : Token) : Bool :=
  ["AND", "OR", "NOT", "BETWEEN", "CASE", "END"].any t.spells

/-! ## Nesting -/

/-- What surrounds a token. -/
structure Nesting where
  parens : Nat
  cases : Nat
  /-- Whether a BETWEEN still waits for its AND. -/
  range : Bool
  deriving DecidableEq

namespace Nesting

/-- Outside parentheses, with no range begun. -/
def start : Nesting :=
  ⟨0, 0, false⟩

/-- Within parentheses nothing but parentheses counts. -/
def next (n : Nesting) (t : Token) : Nesting :=
  if t = .opening then { n with parens := n.parens + 1 }
  else if t = .closing then { n with parens := n.parens - 1 }
  else if n.parens ≠ 0 then n
  else if t.spells "CASE" then { n with cases := n.cases + 1 }
  else if t.spells "END" then { n with cases := n.cases - 1 }
  else if n.cases ≠ 0 then n
  else if t.spells "BETWEEN" then { n with range := true }
  else if t.spells "AND" || t.spells "OR" then { n with range := false }
  else n

/-- The connective that a token is. -/
def connective? (n : Nesting) (t : Token) : Option Connective :=
  if n.parens ≠ 0 ∨ n.cases ≠ 0 then none
  else if t.spells "OR" then some .disjunction
  else if t.spells "AND" && !n.range then some .conjunction
  else none

/-- Cuts the tokens wherever one is the given connective. -/
def split (k : Connective) (n : Nesting) : List Token → List (List Token)
  | [] => [[]]
  | t :: rest =>
    if n.connective? t = some k then [] :: split k (n.next t) rest
    else (split k (n.next t) rest).modifyHead (t :: ·)

/-- The nesting after tokens none of which is the given connective. -/
def pass? (k : Connective) (n : Nesting) : List Token → Option Nesting
  | [] => some n
  | t :: rest => if n.connective? t = some k then none else pass? k (n.next t) rest

end Nesting

/-- A condition as it is read off its tokens. -/
inductive Condition where
  | predicate (tokens : List Token)
  | negation (operand : Condition)
  | group (connective : Connective) (operands : List Condition)

namespace Condition

/-- Several conditions with a connective; one alone is itself. -/
def join (k : Connective) : List Condition → Condition
  | [only] => only
  | operands => .group k operands

end Condition

/-- The tokens within parentheses around all of them. -/
def unwrap? : List Token → Option (List Token)
  | .opening :: rest =>
    if rest.getLast? = some .closing ∧ Paired rest.dropLast then some rest.dropLast else none
  | _ => none

/-- A piece is no longer than the tokens that are split. -/
theorem length_of_mem_split {k : Connective} {n : Nesting} {ts c : List Token}
    (h : c ∈ n.split k ts) : c.length ≤ ts.length := by
  induction ts generalizing n c with
  | nil => simp_all [Nesting.split]
  | cons t ts ih =>
    rw [Nesting.split] at h
    split at h
    · rcases List.mem_cons.mp h with rfl | h
      · simp
      · exact Nat.le_succ_of_le (ih h)
    · cases hs : (n.next t).split k ts with
      | nil => simp [hs] at h
      | cons d ds =>
        rw [hs, List.modifyHead_cons] at h
        rcases List.mem_cons.mp h with rfl | h
        · simpa using ih (n := n.next t) (hs ▸ List.mem_cons_self)
        · exact Nat.le_succ_of_le (ih (hs ▸ List.mem_cons_of_mem _ h))

/-- What is inside parentheses is shorter. -/
theorem length_of_unwrap? {ts inner : List Token} (h : unwrap? ts = some inner) :
    inner.length < ts.length := by
  unfold unwrap? at h
  split at h
  · split at h
    · obtain rfl := Option.some.inj h
      simp only [List.length_dropLast, List.length_cons]
      omega
    · cases h
  · cases h

mutual

/-- Clauses of clauses, the loosest connective first. -/
def Condition.read (ts : List Token) : Condition :=
  .join .disjunction <| (Nesting.start.split .disjunction ts).attach.map fun ⟨clause, _⟩ =>
    .join .conjunction <| (Nesting.start.split .conjunction clause).attach.map fun ⟨factor, _⟩ =>
      Condition.readFactor factor
termination_by (ts.length, 1)
decreasing_by
  have hclause := length_of_mem_split ‹clause ∈ _›
  have hfactor := length_of_mem_split ‹factor ∈ _›
  simp [Prod.lex_def]
  omega

/-- What stands between connectives. -/
def Condition.readFactor : List Token → Condition
  | [] => .predicate []
  | t :: rest =>
    if t.spells "NOT" then .negation (Condition.readFactor rest)
    else match _ : unwrap? (t :: rest) with
      | some inner => Condition.read inner
      | none => .predicate (t :: rest)
termination_by ts => (ts.length, 0)
decreasing_by
  · simp [Prod.lex_def]
  · have := length_of_unwrap? ‹_ = some inner›
    simp [Prod.lex_def] at this ⊢
    omega

end

namespace Nesting

variable {k : Connective} {n m : Nesting}

/-- Passing two lists of tokens is passing one after the other. -/
theorem pass?_append {ts us : List Token} (h : n.pass? k ts = some m) :
    n.pass? k (ts ++ us) = m.pass? k us := by
  induction ts generalizing n with
  | nil =>
    obtain rfl := Option.some.inj h
    rfl
  | cons t ts ih =>
    rw [pass?] at h
    split at h
    · cases h
    · rw [List.cons_append, pass?, if_neg ‹_›]
      exact ih h

/-- Tokens that are passed join the first piece of what is behind them. -/
theorem split_append {ts us : List Token} (h : n.pass? k ts = some m) :
    n.split k (ts ++ us) = (m.split k us).modifyHead (ts ++ ·) := by
  induction ts generalizing n with
  | nil =>
    obtain rfl := Option.some.inj h
    rw [List.nil_append]
    cases n.split k us <;> rfl
  | cons t ts ih =>
    rw [pass?] at h
    split at h
    · cases h
    · rw [List.cons_append, split, if_neg ‹_›, ih h, List.modifyHead_modifyHead]
      rfl

/-- Tokens that are passed are one piece. -/
theorem split_eq_singleton {ts : List Token} (h : n.pass? k ts = some m) :
    n.split k ts = [ts] := by
  have hall : n.split k (ts ++ []) = _ := split_append h
  simpa [split] using hall

/-- Within parentheses nothing is a connective, and everything returns to the nesting before. -/
theorem pass?_within {d e : Nat} {ts : List Token} (h : Sql.depth? d ts = some e) (n : Nesting) :
    pass? k { n with parens := d + 1 } ts = some { n with parens := e + 1 } := by
  induction ts generalizing d with
  | nil =>
    obtain rfl := Option.some.inj h
    rfl
  | cons t ts ih =>
    obtain ⟨d', ht, hts⟩ := Option.bind_eq_some_iff.mp h
    have hnext : next { n with parens := d + 1 } t = { n with parens := d' + 1 } := by
      cases t with
      | opening =>
        obtain rfl := Option.some.inj ht
        simp [next]
      | closing =>
        have hd : d - 1 = d' ∧ d ≠ 0 := by
          simp only [Token.depth?] at ht
          split at ht
          · cases ht
          · exact ⟨Option.some.inj ht, ‹_›⟩
        have : d = d' + 1 := by omega
        simp [next, this]
      | _ =>
        obtain rfl := Option.some.inj ht
        simp [next]
    have hno : connective? { n with parens := d + 1 } t = none := by simp [connective?]
    rw [pass?, hno, if_neg (by simp), hnext]
    exact ih hts

/-- Paired tokens in parentheses are passed without a change. -/
theorem pass?_parenthesized {ts : List Token} (h : Paired ts) (hn : n.parens = 0) :
    n.pass? k (.opening :: (ts ++ [.closing])) = some n := by
  obtain ⟨parens, cases, range⟩ := n
  obtain rfl : parens = 0 := hn
  have hopen : connective? ⟨0, cases, range⟩ .opening = none := by simp [connective?, Token.spells]
  have hin := pass?_within (k := k) h ⟨0, cases, range⟩
  have hclose : connective? ⟨1, cases, range⟩ .closing = none := by simp [connective?]
  rw [pass?, hopen, if_neg (by simp)]
  simp only [next, if_true]
  rw [pass?_append hin, pass?, hclose, if_neg (by simp)]
  simp [pass?, next]

/-- Tokens that are neither parentheses nor keywords are passed without a change. -/
theorem pass?_of_flat {ts : List Token} (h : ∀ t ∈ ts, t.isFlat = true ∧ t.isKeyword = false) :
    n.pass? k ts = some n := by
  induction ts with
  | nil => rfl
  | cons t ts ih =>
    obtain ⟨⟨hflat, hword⟩, hts⟩ := List.forall_mem_cons.mp h
    simp only [Token.isKeyword, List.any_cons, Bool.or_eq_false_iff] at hword
    obtain ⟨hand, hor, -, hbetween, hcase, hend, -⟩ := hword
    have hno : n.connective? t = none := by simp [connective?, hand, hor]
    have hnext : n.next t = n := by
      cases t <;> simp_all [next, Token.isFlat]
    rw [pass?, hno, hnext, if_neg (by simp)]
    exact ih hts

end Nesting

/-- The tokens have no connective and leave nothing open. -/
def Calm (ts : List Token) : Prop :=
  ∀ k, Nesting.start.pass? k ts = some Nesting.start

/-- Calm tokens, one behind the other, are calm. -/
theorem Calm.append {ts us : List Token} (ht : Calm ts) (hu : Calm us) : Calm (ts ++ us) := by
  intro k
  rw [Nesting.pass?_append (ht k)]
  exact hu k

theorem calm_parenthesized {ts : List Token} (h : Paired ts) :
    Calm (.opening :: (ts ++ [.closing])) :=
  fun _ => Nesting.pass?_parenthesized h rfl

theorem calm_of_flat {ts : List Token} (h : ∀ t ∈ ts, t.isFlat = true ∧ t.isKeyword = false) :
    Calm ts :=
  fun _ => Nesting.pass?_of_flat h

/-! ## Laws of reading -/

/-- A connective as a token. -/
def Connective.token (k : Connective) : Token :=
  .word k.sql.toList

section Cutting

variable {k : Connective}

/-- The token of the other connective is passed. -/
theorem pass?_token {ts : List Token} {k' : Connective} (h : k ≠ k') :
    Nesting.start.pass? k' (k.token :: ts) = Nesting.start.pass? k' ts := by
  have hother : Nesting.start.connective? k.token ≠ some k' := by
    cases k <;> cases k' <;> first | decide | exact absurd rfl h
  have hnext : Nesting.start.next k.token = Nesting.start := by cases k <;> decide
  rw [Nesting.pass?, if_neg hother, hnext]

/-- The token of the connective begins a new piece. -/
theorem split_token {ts : List Token} :
    Nesting.start.split k (k.token :: ts) = [] :: Nesting.start.split k ts := by
  have hcut : Nesting.start.connective? k.token = some k := by cases k <;> decide
  have hnext : Nesting.start.next k.token = Nesting.start := by cases k <;> decide
  rw [Nesting.split, if_pos hcut, hnext]

/-- Calm pieces with the connective between them are split again. -/
theorem split_intercalate : {pieces : List (List Token)} → pieces ≠ [] → (∀ p ∈ pieces, Calm p) →
    Nesting.start.split k ([k.token].intercalate pieces) = pieces
  | [], h, _ => absurd rfl h
  | [p], _, h => by
    rw [List.intercalate_singleton]
    exact Nesting.split_eq_singleton (h p (by simp) k)
  | p :: q :: rest, _, h => by
    obtain ⟨hp, hr⟩ := List.forall_mem_cons.mp h
    rw [List.intercalate_cons_cons, List.append_assoc, Nesting.split_append (hp k),
      List.singleton_append, split_token, split_intercalate (by simp) hr, List.modifyHead_cons,
      List.append_nil]

/-- The other connective does not cut. -/
theorem pass?_intercalate {k' : Connective} (hk : k ≠ k') :
    {pieces : List (List Token)} → (∀ p ∈ pieces, Calm p) →
    Nesting.start.pass? k' ([k.token].intercalate pieces) = some Nesting.start
  | [], _ => rfl
  | [p], h => by
    rw [List.intercalate_singleton]
    exact h p (by simp) k'
  | p :: q :: rest, h => by
    obtain ⟨hp, hr⟩ := List.forall_mem_cons.mp h
    rw [List.intercalate_cons_cons, List.append_assoc, Nesting.pass?_append (hp k'),
      List.singleton_append, pass?_token hk]
    exact pass?_intercalate hk hr

end Cutting

namespace Condition

/-- Disjunctions are split first, conjunctions inside them, factors last. -/
theorem read_eq (ts : List Token) :
    read ts = join .disjunction ((Nesting.start.split .disjunction ts).map fun clause =>
      join .conjunction ((Nesting.start.split .conjunction clause).map readFactor)) := by
  rw [read]
  simp

/-- Calm tokens are one factor. -/
theorem read_calm {ts : List Token} (h : Calm ts) : read ts = readFactor ts := by
  rw [read_eq, Nesting.split_eq_singleton (h _)]
  simp only [List.map_cons, List.map_nil, join]
  rw [Nesting.split_eq_singleton (h _)]
  rfl

/-- Calm pieces with the connective between them are read as joined factors. -/
theorem read_intercalate (k : Connective) {pieces : List (List Token)} (hne : pieces ≠ [])
    (h : ∀ p ∈ pieces, Calm p) :
    read ([k.token].intercalate pieces) = join k (pieces.map readFactor) := by
  have hcut := split_intercalate (k := k) hne h
  rw [read_eq]
  cases k with
  | conjunction =>
    rw [Nesting.split_eq_singleton (pass?_intercalate (by decide) h), List.map_singleton, join,
      hcut]
  | disjunction =>
    rw [hcut]
    congr 1
    refine List.map_congr_left fun p hp => ?_
    rw [Nesting.split_eq_singleton (h p hp .conjunction)]
    rfl

theorem readFactor_not (ts : List Token) :
    readFactor (.word "NOT".toList :: ts) = negation (readFactor ts) := by
  rw [readFactor, if_pos (by decide)]

/-- Parentheses are read as the condition inside. -/
theorem readFactor_parenthesized {ts : List Token} (h : Paired ts) :
    readFactor (.opening :: (ts ++ [.closing])) = read ts := by
  have hunwrap : unwrap? (.opening :: (ts ++ [.closing])) = some ts := by simp [unwrap?, h]
  rw [readFactor, if_neg (by decide)]
  split
  · rename_i inner hinner
    obtain rfl := Option.some.inj (hunwrap.symm.trans hinner)
    rfl
  · rename_i hnone
    cases hunwrap.symm.trans hnone

/-- Tokens that begin with neither a negation nor a parenthesis are a predicate. -/
theorem readFactor_predicate {t : Token} (ts : List Token) (hnot : t.spells "NOT" = false)
    (hopen : t ≠ .opening) : readFactor (t :: ts) = predicate (t :: ts) := by
  have hunwrap : unwrap? (t :: ts) = none := by
    cases t <;> first | rfl | exact absurd rfl hopen
  rw [readFactor, if_neg (by simp [hnot])]
  split
  · rename_i inner hinner
    cases hunwrap.symm.trans hinner
  · rfl

end Condition

end RowMap
