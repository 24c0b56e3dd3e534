import RowMap.Store.Program

/-!
# Scripted stores

A store that answers from a script. Each statement takes the next line of the script; a line that
does not fit the statement, or none, means the default answer: one affected row, no rows, or the
next number as the key of an insertion. Numbers count the insertions that were accepted.
-/

namespace RowMap

/-- One line of a script. -/
inductive ScriptLine where
  | affected (rows : Nat)
  | key (value : Value)
  | rows (rows : List AttributeMap)
  | failure (error : Error)
  | panic
  | default

structure Script where
  lines : List ScriptLine
  /-- How many insertions were accepted. -/
  accepted : Nat
  /-- The error with which the next transaction does not start. -/
  startFailure : Option Error
  /-- The error with which the next transaction is not committed. -/
  commitFailure : Option Error

namespace Script

def empty : Script :=
  ⟨[], 0, none, none⟩

/-- The script with other lines ahead, the count of insertions kept. -/
def load (s : Script) (lines : List ScriptLine) (startFailure commitFailure : Option Error) :
    Script :=
  ⟨lines, s.accepted, startFailure, commitFailure⟩

/-- The next line, and the script after it. -/
def next (s : Script) : ScriptLine × Script :=
  match s.lines with
  | line :: lines => (line, { s with lines := lines })
  | [] => (.default, s)

def outcome (failure : Option Error) : Reply Unit :=
  match failure with
  | some e => .failure e
  | none => .answer ()

/-- The reply to a call. -/
def respond (s : Script) : (call : Call) → Reply call.Answer × Script
  | .execute _ =>
    let (line, s) := s.next
    match line with
    | .affected rows => (.answer rows, s)
    | .failure e => (.failure e, s)
    | .panic => (.panic, s)
    | _ => (.answer (1 : Nat), s)
  | .insert _ =>
    let (line, s) := s.next
    let counted := { s with accepted := s.accepted + 1 }
    match line with
    | .key value => (.answer value, counted)
    | .failure e => (.failure e, s)
    | .panic => (.panic, s)
    | _ => (.answer (.integer (Int64.ofNat counted.accepted)), counted)
  | .query _ =>
    let (line, s) := s.next
    match line with
    | .rows rows => (.answer rows, s)
    | .failure e => (.failure e, s)
    | .panic => (.panic, s)
    | _ => (.answer ([] : List AttributeMap), s)
  | .start => (outcome s.startFailure, s)
  | .commit => (outcome s.commitFailure, s)
  | .rollback => (.answer (), s)

/-- The store that follows its script. -/
def store : Store Script :=
  ⟨respond⟩

end Script

end RowMap
