import RowMap.Proofs.Store.Discipline

/-!
# The calls of a program

Which calls a program may make can be read off its tree, whatever the store answers and even if it
fails in the middle of a call: `Program.Puts P` says that every call meets `P`, and so then does
every call in the log of a run (`Puts.log`). An action that makes no calls adds nothing to the log
of what goes before it (`log_bind`). A guarded program yields its calls (`Puts.yields`). Of an
action that consists of one call under the lock the whole run is known (`run_locked_ask`).

An action in sequence that returns a value has got it from its second part, the first one having
returned a value, too (`exists_of_bind`); an error of the first part is the error of the whole
(`run_bind_error`). Some actions fail before their first call; these are `Decided`.
-/

namespace RowMap

variable {σ α β : Type} {P Q : Call → Prop}

/-- A call that is put to the store of a session, with its reply. -/
def Store.exchange (store : Store σ) (s : Session σ) (c : Call) : Exchange :=
  ⟨c, (store.respond s.store c).1⟩

/-- How an action ends that consists of a call with this reply. -/
def Reply.ending : Reply α → Ending (Except Error α)
  | .answer value => .returned (.ok value)
  | .failure e => .returned (.error e)
  | .panic => .panicked

namespace Program

/-- Every call that the program can make meets the condition. -/
def Puts (P : Call → Prop) : Program α → Prop
  | .done _ => True
  | .acquire next => ∀ granted, (next granted).Puts P
  | .release next => next.Puts P
  | .call c next => P c ∧ ∀ answer, (next answer).Puts P

namespace Puts

variable {p : Program α} {f : α → Program β}

/-- A weaker condition on the calls holds as well. -/
theorem mono (hp : p.Puts P) (h : ∀ c, P c → Q c) : p.Puts Q := by
  induction p with
  | done => trivial
  | acquire next ih => exact fun granted => ih granted (hp granted)
  | release next ih => exact ih hp
  | call c next ih => exact ⟨h c hp.1, fun answer => ih answer (hp.2 answer)⟩

/-- What follows a program puts calls of the same kind. -/
theorem bind (hp : p.Puts P) (hf : ∀ a, (f a).Puts P) : (p.bind f).Puts P := by
  induction p with
  | done a => exact hf a
  | acquire next ih => exact fun granted => ih granted (hp granted)
  | release next ih => exact ih hp
  | call c next ih => exact ⟨hp.1, fun answer => ih answer (hp.2 answer)⟩

/-- All calls that a program makes meet the condition. -/
theorem log (hp : p.Puts P) (store : Store σ) (s : Session σ) :
    ∀ x ∈ (p.run store s).log, P x.call := by
  induction p generalizing s with
  | done => simp [run]
  | acquire next ih =>
    rw [run]
    cases s.lock with
    | free => exact ih _ (hp _) _
    | poisoned => exact ih _ (hp _) _
    | held => simp
  | release next ih => exact ih hp _
  | call c next ih =>
    rw [run]
    rcases store.respond s.store c with ⟨v | e | _, state⟩
    · exact List.forall_mem_cons.mpr ⟨hp.1, ih _ (hp.2 _) _⟩
    · exact List.forall_mem_cons.mpr ⟨hp.1, ih _ (hp.2 _) _⟩
    · exact List.forall_mem_singleton.mpr hp.1

/-- Without calls the log is empty. -/
theorem log_eq_nil (hp : p.Puts fun _ => False) (store : Store σ) (s : Session σ) :
    (p.run store s).log = [] :=
  List.eq_nil_iff_forall_not_mem.mpr (hp.log store s)

/-- A guarded program ends, and its calls meet the condition. -/
theorem yields {held : Bool} (hp : p.Puts P) (hguarded : p.Guarded held held) :
    p.Yields (.sound held) fun _ log => ∀ x ∈ log, P x.call := by
  intro σ store s hs
  have hlog := hp.log store s
  have hrun := hguarded.run store hs
  generalize p.run store s = run at hlog hrun
  cases hrun with
  | returned hlock => exact .inr ⟨_, _, _, rfl, hlock, hlog⟩
  | panicked => exact .inl rfl

end Puts

end Program

namespace Action

variable {x : Action α} {f : α → Action β}

theorem puts_pure (a : α) : (pure a : Action α).run.Puts P :=
  trivial

theorem puts_ofExcept (result : Except Error α) : (ofExcept result).run.Puts P :=
  trivial

theorem puts_throw (e : Error) : (throw e : Action α).run.Puts P :=
  trivial

/-- A single call meets the condition if it does. -/
theorem puts_ask {c : Call} (h : P c) : (ask c).run.Puts P :=
  ⟨h, fun _ => trivial⟩

/-- Actions that put such calls do so one after the other. -/
theorem puts_bind (hx : x.run.Puts P) (hf : ∀ a, (f a).run.Puts P) : (x >>= f).run.Puts P := by
  refine Program.Puts.bind hx fun result => ?_
  cases result with
  | ok a => exact hf a
  | error e => trivial

/-- The lock adds no call. -/
theorem puts_locked {work : Action α} (h : work.run.Puts P) : (locked work).run.Puts P
  | .ok () => h.bind fun _ => trivial
  | .error _ => trivial

/-- Work that is done unless an argument is refused. -/
theorem puts_unless {c : Prop} [Decidable c] {e : Error} {work : Unit → Action α}
    (h : (work ()).run.Puts P) :
    (if c then throw e >>= work else work ()).run.Puts P := by
  split
  · exact puts_bind (puts_throw e) fun _ => h
  · exact h

/-- An action for each member of a list puts the calls of its members. -/
theorem puts_mapM {f : α → Action β} : {as : List α} → (∀ a ∈ as, (f a).run.Puts P) →
    (as.mapM f).run.Puts P
  | [], _ => puts_pure []
  | a :: rest, h => by
    obtain ⟨ha, hrest⟩ := List.forall_mem_cons.mp h
    rw [List.mapM_cons]
    exact puts_bind ha fun b => puts_bind (puts_mapM hrest) fun bs => puts_pure _

/-- A transaction adds its start and its end. -/
theorem puts_transaction {work : Action α} (h : work.run.Puts P) (hstart : P .start)
    (hcommit : P .commit) (hrollback : P .rollback) : (transaction work).run.Puts P := by
  unfold transaction
  refine puts_bind (puts_ask hstart) fun _ => ?_
  refine puts_bind (Program.Puts.bind h fun _ => trivial) fun result => ?_
  cases result with
  | ok a =>
    refine puts_bind ⟨hcommit, fun answer => ?_⟩ fun _ => puts_pure a
    cases answer with
    | ok _ => trivial
    | error e => exact ⟨hrollback, fun _ => trivial⟩
  | error e => exact ⟨hrollback, fun _ => trivial⟩

/-- A single call leaves one entry in the log. -/
theorem log_ask (store : Store σ) (s : Session σ) (c : Call) :
    ((ask c).run.run store s).log = [store.exchange s c] := by
  simp only [ask, ExceptT.run_mk, Program.run, Store.exchange]
  rcases store.respond s.store c with ⟨v | e | _, state⟩ <;> rfl

/-- A call under a free lock is made, and the action ends as the store replies. -/
theorem run_locked_ask (store : Store σ) {s : Session σ} (hs : s.lock = .free) (c : Call) :
    ∃ s', (locked (ask c)).run.run store s =
      ⟨(store.respond s.store c).1.ending, s', [store.exchange s c]⟩ := by
  simp only [locked, ask, ExceptT.run_mk, Program.run, Program.bind, Store.exchange, hs]
  rcases store.respond s.store c with ⟨v | e | _, state⟩
  · exact ⟨_, rfl⟩
  · exact ⟨_, rfl⟩
  · exact ⟨_, rfl⟩

/-- A call under the lock is made only if the lock is free. -/
theorem log_locked_ask (store : Store σ) (s : Session σ) (c : Call) :
    ((locked (ask c)).run.run store s).log =
      if s.lock = .free then [store.exchange s c] else [] := by
  by_cases hs : s.lock = .free
  · obtain ⟨s', hrun⟩ := run_locked_ask store hs c
    rw [hrun, if_pos hs]
  · rw [if_neg hs]
    simp only [locked, ExceptT.run_mk, Program.run]
    cases hlock : s.lock with
    | free => exact absurd hlock hs
    | held => rfl
    | poisoned => rfl

/-! ## Actions in sequence -/

variable {store : Store σ} {s : Session σ}

/-- An action behind another one goes on where that one has ended. -/
theorem run_sequence : (x >>= f).run.run store s =
    (x.run.run store s).andThen fun result s' => (ExceptT.bindCont f result).run store s' :=
  run_bind store x.run (ExceptT.bindCont f) s

/-- An error ends a sequence of actions. -/
theorem run_bind_error {e : Error} {s' : Session σ} {log : List Exchange}
    (h : x.run.run store s = ⟨.returned (.error e), s', log⟩) :
    (x >>= f).run.run store s = ⟨.returned (.error e), s', log⟩ := by
  rw [run_sequence, h]
  exact congrArg (Run.mk _ _) (List.append_nil log)

/-- What makes no calls leaves the log as it is. -/
theorem log_bind (hf : ∀ a, (f a).run.Puts fun _ => False) :
    ((x >>= f).run.run store s).log = (x.run.run store s).log := by
  rcases hx : x.run.run store s with ⟨(e | a) | _ | _, s', log⟩
  · rw [run_bind_error hx]
  · have hlater : ((f a).run.run store s').log = [] := (hf a).log_eq_nil store s'
    rw [run_sequence, hx]
    change log ++ ((f a).run.run store s').log = log
    rw [hlater, List.append_nil]
  · rw [run_sequence, hx]
    rfl
  · rw [run_sequence, hx]
    rfl

/-- If a sequence succeeds, both of its actions do. -/
theorem exists_of_bind {b : β} (h : ((x >>= f).run.run store s).ending = .returned (.ok b)) :
    ∃ a s', (x.run.run store s).ending = .returned (.ok a) ∧
      ((f a).run.run store s').ending = .returned (.ok b) := by
  rw [run_sequence] at h
  rcases hx : x.run.run store s with ⟨(e | a) | _ | _, s', log⟩
  · rw [hx] at h
    cases h
  · rw [hx] at h
    exact ⟨a, s', rfl, h⟩
  · rw [hx] at h
    cases h
  · rw [hx] at h
    cases h

end Action

/-! ## Actions that are decided without the store -/

/-- While the lock is free the action has the given result and leaves the session as it was. -/
def Action.Decided (x : Action α) (result : Except Error α) : Prop :=
  ∀ (σ : Type) (store : Store σ) (s : Session σ), s.lock = .free →
    x.run.run store s = ⟨.returned result, s, []⟩

namespace Action

variable {x : Action α} {f : α → Action β} {e : Error}

/-- A result without calls is decided. -/
theorem decided_pure (a : α) : (pure a : Action α).Decided (.ok a) :=
  fun _ _ _ _ => rfl

/-- After a decided error nothing is done. -/
theorem decided_bind_error (hx : x.Decided (.error e)) (f : α → Action β) :
    (x >>= f).Decided (.error e) :=
  fun σ store s hs => run_bind_error (hx σ store s hs)

theorem decided_throw (e : Error) (f : α → Action β) : (throw e >>= f).Decided (.error e) :=
  decided_bind_error (fun _ _ _ _ => rfl) f

/-- The lock is given back as it was taken if the work fails before its first call. -/
theorem decided_locked (e : Error) (f : α → Action β) :
    (locked (ofExcept (.error e) >>= f)).Decided (.error e) := by
  rintro σ store ⟨state, lock⟩ hs
  obtain rfl : lock = .free := hs
  rfl

end Action

end RowMap
