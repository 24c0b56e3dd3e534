import RowMap.Error
import RowMap.Record.Mapper
import RowMap.Sql.Fragment

/-!
# Programs that use a store

A store is shared behind a lock and is known only by its answers. A `Program` is a tree: it takes or
gives back the lock, or puts a call to the store and goes on with the answer, or is done. What a
store does is a function of its own state, so `Program.run` determines the ending of a program, the
session that it leaves behind, and the log of all calls with their replies.

A store may fail in the middle of a call. The program then ends at once, and the lock it held is
poisoned for good: whoever asks for it later is refused.
-/

namespace RowMap

/-- What a store can be asked to do. -/
inductive Call where
  | execute (statement : Statement)
  | insert (statement : Statement)
  | query (statement : Statement)
  | start
  | commit
  | rollback

/-- What the store answers: affected rows, a generated key, rows, or that it is done. -/
abbrev Call.Answer : Call → Type
  | .execute _ => Nat
  | .insert _ => Value
  | .query _ => List AttributeMap
  | .start | .commit | .rollback => Unit

/-- How a call ends: with an answer, with an error that is reported, or not at all. -/
inductive Reply (α : Type) where
  | answer (value : α)
  | failure (error : Error)
  | panic

/-- The behaviour of a store with states in `σ`. -/
structure Store (σ : Type) where
  respond : σ → (call : Call) → Reply call.Answer × σ

/-- A call that was made, and its reply. -/
structure Exchange where
  call : Call
  reply : Reply call.Answer

/-- A program takes and gives back the lock and makes calls. -/
inductive Program (α : Type) where
  | done (result : α)
  /-- Asks for the lock; it is refused if it is poisoned. -/
  | acquire (next : Except Error Unit → Program α)
  | release (next : Program α)
  | call (call : Call) (next : Except Error call.Answer → Program α)

namespace Program

/-- What a program does with the result of another one. -/
def bind {α β : Type} (p : Program α) (f : α → Program β) : Program β :=
  match p with
  | .done result => f result
  | .acquire next => .acquire fun granted => (next granted).bind f
  | .release next => .release (next.bind f)
  | .call c next => .call c fun answer => (next answer).bind f

instance : Monad Program where
  pure := .done
  bind := bind

end Program

/-- A program that may end with an error. -/
abbrev Action := ExceptT Error Program

namespace Action

variable {α : Type}

/-- What is decided without a store. -/
def ofExcept (result : Except Error α) : Action α :=
  ExceptT.mk (.done result)

/-- Puts one call to the store. -/
def ask (c : Call) : Action c.Answer :=
  ExceptT.mk (.call c .done)

/-- Does some work while holding the lock, which is given back however the work ends. -/
def locked (work : Action α) : Action α :=
  ExceptT.mk <| .acquire fun
    | .ok () => work.run.bind fun result => .release (.done result)
    | .error e => .done (.error e)

/-- Rolls the transaction back and reports the error for which this is done. -/
def rollBack (e : Error) : Action α :=
  ExceptT.mk (.call .rollback fun _ => .done (.error e))

/-- Does some work in a transaction, which is committed if the work succeeds. If the work or the
commit fails, the transaction is rolled back, and the error remains. -/
def transaction (work : Action α) : Action α := do
  ask .start
  let result ← ExceptT.mk (work.run.bind fun result => .done (.ok result))
  match result with
  | .ok value =>
    tryCatch (ask .commit) rollBack
    return value
  | .error e => rollBack e

end Action

/-- The state of the lock. -/
inductive Lock where
  | free
  | held
  | poisoned
  deriving DecidableEq

/-- The state of a store and of its lock. -/
structure Session (σ : Type) where
  store : σ
  lock : Lock

namespace Session

variable {σ : Type}

/-- A store that nobody uses yet. -/
def fresh (store : σ) : Session σ :=
  ⟨store, .free⟩

end Session

/-- How a program ends. -/
inductive Ending (α : Type) where
  | returned (result : α)
  /-- The store failed in the middle of a call. -/
  | panicked
  /-- The program waits for the lock that it holds itself. -/
  | stuck

/-- How a program ends, the session it leaves and the calls it made. -/
structure Run (σ α : Type) where
  ending : Ending α
  session : Session σ
  log : List Exchange

/-- The run with an exchange in front. -/
def Run.after {σ α : Type} (exchange : Exchange) (run : Run σ α) : Run σ α :=
  { run with log := exchange :: run.log }

/-- Runs a program on a session. -/
def Program.run {σ α : Type} (store : Store σ) : Program α → Session σ → Run σ α
  | .done result, s => ⟨.returned result, s, []⟩
  | .acquire next, s =>
    match s.lock with
    | .free => (next (.ok ())).run store { s with lock := .held }
    | .poisoned => (next (.error .poisoned)).run store s
    | .held => ⟨.stuck, s, []⟩
  | .release next, s =>
    next.run store { s with lock := if s.lock = .held then .free else s.lock }
  | .call c next, s =>
    match store.respond s.store c with
    | (.answer value, state) =>
      ((next (.ok value)).run store { s with store := state }).after ⟨c, .answer value⟩
    | (.failure e, state) =>
      ((next (.error e)).run store { s with store := state }).after ⟨c, .failure e⟩
    | (.panic, state) =>
      ⟨.panicked, ⟨state, if s.lock = .held then .poisoned else s.lock⟩, [⟨c, .panic⟩]⟩

end RowMap
