import RowMap.Proofs.Store.Run

/-!
# The lock discipline

A program is `Guarded` if it asks for the lock only when it does not hold it, and gives it back and
calls the store only when it does. That can be read off the program, whatever a store answers. A
guarded program never waits for itself, and if the store fails in the middle of a call, then the
lock is held and poisoned from then on (`Guarded.run`).

An action is `Orderly` if it is guarded and finds no fault with the lock by itself. Each way to put
actions together keeps them orderly.

While the lock is poisoned an action is `Settled`: its result is known beforehand, and it does not
get to the store.
-/

namespace RowMap

variable {σ α β : Type}

/-! ## Disciplined runs -/

/-- The store failed in the middle of the call. -/
def Exchange.Panics (x : Exchange) : Prop :=
  x.reply = .panic

/-- A sound lock that is held or not. -/
def Lock.sound (held : Bool) : Lock :=
  if held then .held else .free

/-- Either the program has returned without a panic, and the lock is held or not, or the store has
failed in the middle of a call and the lock is poisoned. -/
inductive Run.Disciplined (held : Bool) : Run σ α → Prop
  | returned {a : α} {s : Session σ} {log : List Exchange} (hlock : s.lock = .sound held)
    (hlog : ∀ x ∈ log, ¬x.Panics) : Disciplined held ⟨.returned a, s, log⟩
  | panicked {s : Session σ} {log : List Exchange} (hlock : s.lock = .poisoned)
    (hlog : ∃ x ∈ log, x.Panics) : Disciplined held ⟨.panicked, s, log⟩

/-- A call in front that does not panic keeps a run disciplined. -/
theorem Run.Disciplined.after {held : Bool} {run : Run σ α} (h : run.Disciplined held)
    {x : Exchange} (hx : ¬x.Panics) : (run.after x).Disciplined held := by
  cases h with
  | returned hlock hlog => exact .returned hlock (List.forall_mem_cons.mpr ⟨hx, hlog⟩)
  | panicked hlock hlog =>
    obtain ⟨y, hy, hpanics⟩ := hlog
    exact .panicked hlock ⟨y, List.mem_cons_of_mem _ hy, hpanics⟩

theorem Run.Disciplined.ending_ne_stuck {held : Bool} {run : Run σ α}
    (h : run.Disciplined held) : run.ending ≠ .stuck := by
  cases h <;> nofun

/-- If a disciplined run panics, the store did. -/
theorem Run.Disciplined.panics {held : Bool} {run : Run σ α} (h : run.Disciplined held)
    (hpanicked : run.ending = .panicked) : ∃ x ∈ run.log, x.Panics := by
  cases h with
  | returned => cases hpanicked
  | panicked hlock hlog => exact hlog

/-- Keeps to the discipline, the lock being held at first or not and held in the end or not. -/
def Program.Guarded : Program α → (held after : Bool) → Prop
  | .done _, held, after => held = after
  | .acquire next, held, after =>
    held = false ∧ (next (.ok ())).Guarded true after ∧ ∀ e, (next (.error e)).Guarded false after
  | .release next, held, after => held = true ∧ next.Guarded false after
  | .call _ next, held, after => held = true ∧ ∀ answer, (next answer).Guarded true after

namespace Program.Guarded

variable {p : Program α} {f : α → Program β} {held middle after : Bool}

/-- What a program does after another one is guarded by what the first one leaves. -/
theorem bind (hp : p.Guarded held middle) (hf : ∀ a, (f a).Guarded middle after) :
    (p.bind f).Guarded held after := by
  induction p generalizing held with
  | done a =>
    obtain rfl : held = middle := hp
    exact hf a
  | acquire next ih =>
    obtain ⟨hfree, hok, herror⟩ := hp
    exact ⟨hfree, ih _ hok, fun e => ih _ (herror e)⟩
  | release next ih => exact ⟨hp.1, ih hp.2⟩
  | call c next ih => exact ⟨hp.1, fun answer => ih answer (hp.2 answer)⟩

/-- Run on a sound lock, a guarded program is disciplined. -/
theorem run (store : Store σ) (hp : p.Guarded held after) {s : Session σ}
    (hs : s.lock = .sound held) : (p.run store s).Disciplined after := by
  induction p generalizing held s with
  | done a =>
    obtain rfl : held = after := hp
    exact .returned hs (by simp)
  | acquire next ih =>
    obtain ⟨rfl, hok, -⟩ := hp
    have hfree : s.lock = .free := hs
    rw [Program.run, hfree]
    exact ih _ hok rfl
  | release next ih =>
    obtain ⟨rfl, hnext⟩ := hp
    have hheld : s.lock = .held := hs
    rw [Program.run, if_pos hheld]
    exact ih hnext rfl
  | call c next ih =>
    obtain ⟨rfl, hnext⟩ := hp
    have hheld : s.lock = .held := hs
    rw [Program.run]
    rcases store.respond s.store c with ⟨v | e | _, state⟩
    · have hx : ¬(⟨c, .answer v⟩ : Exchange).Panics := by intro h; cases h
      exact (ih (.ok v) (hnext _) (s := { s with store := state }) hs).after hx
    · have hx : ¬(⟨c, .failure e⟩ : Exchange).Panics := by intro h; cases h
      exact (ih (.error e) (hnext _) (s := { s with store := state }) hs).after hx
    · exact .panicked (if_pos hheld) ⟨_, List.mem_singleton_self _, rfl⟩

end Program.Guarded

/-! ## Errors about the lock -/

/-- The store reported the error. -/
def Exchange.Reports (x : Exchange) (e : Error) : Prop :=
  x.reply = .failure e

/-- If an error about the lock is returned, then the store has reported it. -/
def LockReported : Except Error α → List Exchange → Prop
  | .ok _, _ => True
  | .error e, log => e.kind = .lock → ∃ x ∈ log, x.Reports e

/-- More calls before and after do not undo a report. -/
theorem LockReported.append {result : Except Error α} {log : List Exchange}
    (h : LockReported result log) (earlier later : List Exchange) :
    LockReported result (earlier ++ log ++ later) := by
  cases result with
  | ok a => trivial
  | error e =>
    intro hkind
    obtain ⟨x, hx, hreports⟩ := h hkind
    exact ⟨x, by simp [hx], hreports⟩

/-- Keeps to the discipline, with the lock held throughout or not, and returns no error about the
lock but what the store reports. -/
structure Action.Orderly (held : Bool) (x : Action α) : Prop where
  guarded : x.run.Guarded held held
  reported : x.run.Yields (.sound held) LockReported

namespace Action

variable {held : Bool}

theorem orderly_pure (a : α) : (pure a : Action α).Orderly held :=
  ⟨rfl, yields_pure trivial⟩

/-- An error that is not about the lock is orderly. -/
theorem orderly_throw {e : Error} (h : e.kind ≠ .lock) : (throw e : Action α).Orderly held :=
  ⟨rfl, yields_ofExcept fun hkind => absurd hkind h⟩

/-- What fails for a cause of its own does not blame the lock. -/
theorem orderly_mapError {ε : Type} {cause : ε → Error} (h : ∀ x, (cause x).kind ≠ .lock)
    (result : Except ε α) : (ofExcept (result.mapError cause)).Orderly held := by
  cases result with
  | ok a => exact orderly_pure a
  | error x => exact orderly_throw (h x)

/-- A call is orderly under the guard. -/
theorem orderly_ask (c : Call) : (ask c).Orderly true := by
  refine ⟨⟨rfl, fun _ => rfl⟩, (yields_ask c).mono fun result log hlog => ?_⟩
  cases result with
  | ok a => trivial
  | error e =>
    obtain rfl : log = [⟨c, .failure e⟩] := hlog
    exact fun _ => ⟨_, List.mem_singleton_self _, rfl⟩

/-- Guarded actions, one after the other, are guarded. -/
theorem guarded_bind {x : Action α} {f : α → Action β} (hx : x.run.Guarded held held)
    (hf : ∀ a, (f a).run.Guarded held held) : (x >>= f).run.Guarded held held := by
  refine Program.Guarded.bind hx fun result => ?_
  cases result with
  | ok a => exact hf a
  | error e => rfl

/-- Orderly actions, one after the other, are orderly. -/
theorem orderly_bind {x : Action α} {f : α → Action β} (hx : x.Orderly held)
    (hf : ∀ a, (f a).Orderly held) : (x >>= f).Orderly held := by
  constructor
  · exact guarded_bind hx.guarded fun a => (hf a).guarded
  · refine yields_bind hx.reported (fun a log _ => ?_) (fun e log h => h)
    refine (hf a).reported.mono fun result later h => ?_
    simpa using h.append log []

/-- An orderly action under a guard of its own is orderly without one. -/
theorem orderly_locked {work : Action α} (h : work.Orderly true) : (locked work).Orderly false :=
  ⟨⟨rfl, h.guarded.bind fun _ => ⟨rfl, rfl⟩, fun _ => rfl⟩, yields_locked h.reported⟩

/-- Work that is done unless an argument is refused. -/
theorem orderly_unless {c : Prop} [Decidable c] {e : Error} {work : Unit → Action α}
    (he : e.kind ≠ .lock) (h : (work ()).Orderly held) :
    (if c then throw e >>= work else work ()).Orderly held := by
  split
  · exact orderly_bind (orderly_throw he) fun _ => h
  · exact h

/-- An orderly action for each member of a list. -/
theorem orderly_mapM {f : α → Action β} (h : ∀ a, (f a).Orderly held) :
    (as : List α) → (as.mapM f).Orderly held
  | [] => orderly_pure []
  | a :: rest => by
    rw [List.mapM_cons]
    exact orderly_bind (h a) fun b => orderly_bind (orderly_mapM h rest) fun bs => orderly_pure _

theorem guarded_commit : (tryCatch (ask .commit) rollBack).run.Guarded true true := by
  refine ⟨rfl, fun answer => ?_⟩
  cases answer with
  | ok _ => rfl
  | error e => exact ⟨rfl, fun _ => rfl⟩

/-- An orderly action inside a transaction is orderly. -/
theorem orderly_transaction {work : Action α} (h : work.Orderly true) :
    (transaction work).Orderly true := by
  constructor
  · unfold transaction
    refine guarded_bind (orderly_ask .start).guarded fun _ => ?_
    refine guarded_bind (Program.Guarded.bind h.guarded fun _ => rfl) fun result => ?_
    cases result with
    | ok a => exact guarded_bind guarded_commit fun _ => rfl
    | error e => exact ⟨rfl, fun _ => rfl⟩
  · refine (yields_transaction h.reported).mono fun result log hlog => ?_
    cases hlog with
    | unstarted e => exact fun _ => ⟨_, List.mem_singleton_self _, rfl⟩
    | committed hw => trivial
    | uncommitted hw e reply => exact fun _ => ⟨⟨.commit, .failure e⟩, by simp, rfl⟩
    | abandoned hw reply => exact hw.append [_] [_]

/-- What comes of an orderly action on a store whose lock is free. -/
theorem Orderly.run {x : Action α} (h : x.Orderly false) (store : Store σ) {s : Session σ}
    (hs : s.lock = .free) : (x.run.run store s).Disciplined false ∧
      ∀ e, (x.run.run store s).ending = .returned (.error e) → e.kind = .lock →
        ∃ y ∈ (x.run.run store s).log, y.Reports e := by
  refine ⟨h.guarded.run store hs, fun e he hkind => ?_⟩
  rcases h.reported σ store s hs with hpanic | ⟨result, s', log, hrun, -, hreported⟩
  · rw [hpanic] at he
    cases he
  · rw [hrun] at he ⊢
    cases he
    exact hreported hkind

end Action

/-! ## Actions on a poisoned lock -/

/-- On a poisoned lock the action has the given result, and the store is left alone. -/
def Action.Settled (x : Action α) (result : Except Error α) : Prop :=
  ∀ (σ : Type) (store : Store σ) (s : Session σ), s.lock = .poisoned →
    x.run.run store s = ⟨.returned result, s, []⟩

namespace Action

theorem settled_ofExcept (result : Except Error α) : (ofExcept result).Settled result :=
  fun _ _ _ _ => rfl

theorem settled_pure (a : α) : (pure a : Action α).Settled (.ok a) :=
  fun _ _ _ _ => rfl

theorem settled_throw (e : Error) : (throw e : Action α).Settled (.error e) :=
  fun _ _ _ _ => rfl

/-- The lock is refused. -/
theorem settled_locked (work : Action α) : (locked work).Settled (.error .poisoned) := by
  intro σ store s hs
  simp only [locked, ExceptT.run_mk, Program.run, hs]

/-- What follows a settled action is settled. -/
theorem settled_bind {x : Action α} {f : α → Action β} {a : α} {result : Except Error β}
    (hx : x.Settled (.ok a)) (hf : (f a).Settled result) : (x >>= f).Settled result := by
  intro σ store s hs
  show (x.run.bind (ExceptT.bindCont f)).run store s = _
  rw [run_bind, hx σ store s hs]
  exact hf σ store s hs

/-- After an action that is settled to an error nothing is done. -/
theorem settled_bind_error {x : Action α} {e : Error} (hx : x.Settled (.error e))
    (f : α → Action β) : (x >>= f).Settled (.error e) := by
  intro σ store s hs
  show (x.run.bind (ExceptT.bindCont f)).run store s = _
  rw [run_bind, hx σ store s hs]
  rfl

end Action

end RowMap
