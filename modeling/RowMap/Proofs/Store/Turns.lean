import RowMap.Proofs.Store.Run

/-!
# Programs in turns

Two parties share a store and take turns, and a turn lasts until the lock is given back, so that
nothing comes between the calls that are made under one hold of it. `Program.turn` cuts the first
turn off a program, `Program.interleave` runs the programs of both parties as a schedule says.

A program comes to the same as its first turn with the rest behind it (`turn_bind`). So the schedule
does not matter any more once a party is done (`interleave_of_done`), and a party that is done
before the other one has begun has gone before it altogether. Work under the lock is one turn
(`ends_turn_locked`).
-/

namespace RowMap

variable {σ α β : Type}

/-- One of two that share a store. -/
inductive Party where
  | first
  | second
  deriving DecidableEq

namespace Party

/-- The other one of the two. -/
def other : Party → Party
  | .first => .second
  | .second => .first

theorem other_other (x : Party) : x.other.other = x := by
  cases x <;> rfl

theorem other_ne (x : Party) : x.other ≠ x := by
  cases x <;> decide

theorem eq_or_eq_other (x y : Party) : y = x ∨ y = x.other := by
  cases x <;> cases y <;> decide

/-- Something for a party and something for the other one. -/
def pair (x : Party) (mine theirs : α) (y : Party) : α :=
  if y = x then mine else theirs

@[simp] theorem pair_self (x : Party) (mine theirs : α) : x.pair mine theirs x = mine :=
  if_pos rfl

@[simp] theorem pair_other (x : Party) (mine theirs : α) : x.pair mine theirs x.other = theirs :=
  if_neg x.other_ne

/-- Both parties can list the same pair. -/
theorem pair_swap (x : Party) (mine theirs : α) :
    x.other.pair theirs mine = x.pair mine theirs := by
  funext y
  rcases x.eq_or_eq_other y with rfl | rfl
  · rw [pair_self, pair, if_neg y.other_ne.symm]
  · rw [pair_self, pair_other]

/-- Every pair is listed by either party. -/
theorem pair_apply (x : Party) (f : Party → α) : x.pair (f x) (f x.other) = f := by
  funext y
  rcases x.eq_or_eq_other y with rfl | rfl
  · exact pair_self ..
  · exact pair_other ..

end Party

namespace Program

/-- The first turn of a program, which ends where the lock is given back. It returns the rest. -/
def turn : Program α → Program (Program α)
  | .done a => .done (.done a)
  | .acquire next => .acquire fun granted => (next granted).turn
  | .release next => .release (.done next)
  | .call c next => .call c fun answer => (next answer).turn

/-- The rest behind a turn is what was left of the program. -/
theorem turn_bind (p : Program α) (f : α → Program β) :
    (p.turn.bind fun rest => rest.bind f) = p.bind f := by
  induction p with
  | done => rfl
  | acquire next ih => exact congrArg Program.acquire (funext ih)
  | release next => rfl
  | call c next ih => exact congrArg (Program.call c) (funext ih)

/-- The program never gives the lock back. -/
def Keeps : Program α → Prop
  | .done _ => True
  | .acquire next => ∀ granted, (next granted).Keeps
  | .release _ => False
  | .call _ next => ∀ answer, (next answer).Keeps

/-- What follows work under the lock is work under the lock. -/
theorem Keeps.bind {p : Program α} {f : α → Program β} (hp : p.Keeps) (hf : ∀ a, (f a).Keeps) :
    (p.bind f).Keeps := by
  induction p with
  | done a => exact hf a
  | acquire next ih => exact fun granted => ih granted (hp granted)
  | release next => exact hp.elim
  | call c next ih => exact fun answer => ih answer (hp answer)

/-- A turn goes on after a program that keeps the lock. -/
theorem Keeps.turn_bind {p : Program α} (hp : p.Keeps) (f : α → Program β) :
    (p.bind f).turn = p.bind fun a => (f a).turn := by
  induction p with
  | done a => rfl
  | acquire next ih =>
    exact congrArg Program.acquire (funext fun granted => ih granted (hp granted))
  | release next => exact hp.elim
  | call c next ih => exact congrArg (Program.call c) (funext fun answer => ih answer (hp answer))

/-- The program of a party and then that of the other one. -/
def inOrder (x : Party) (p : Party → Program α) : Program (Party → α) :=
  (p x).bind fun mine => (p x.other).bind fun theirs => .done (x.pair mine theirs)

/-- The programs of both parties, who take turns as scheduled. Behind the schedule the first party
comes to its end, and then the second. -/
def interleave : List Party → (Party → Program α) → Program (Party → α)
  | [], p => inOrder .first p
  | x :: schedule, p =>
    (p x).turn.bind fun rest => interleave schedule (x.pair rest (p x.other))

/-- Who has the first two turns. -/
def opening : List Party → Party × Party
  | [] => (.first, .first)
  | [x] => (x, .first)
  | x :: y :: _ => (x, y)

/-- Once a party is done, the other one runs alone. -/
theorem interleave_of_done (schedule : List Party) {p : Party → Program α} {x : Party} {a : α}
    (h : p x = .done a) :
    interleave schedule p = (p x.other).bind fun theirs => .done (x.pair a theirs) := by
  induction schedule generalizing p with
  | nil =>
    rw [interleave, inOrder]
    cases x with
    | first =>
      rw [h]
      rfl
    | second =>
      show (p .first).bind (fun mine => (p .second).bind _) = _
      rw [h]
      exact congrArg ((p .first).bind ·)
        (funext fun b => congrArg Program.done (Party.pair_swap .second a b))
  | cons y schedule ih =>
    rw [interleave]
    rcases x.eq_or_eq_other y with rfl | rfl
    · rw [h]
      exact (ih (Party.pair_self ..)).trans (by rw [Party.pair_other])
    · have hrest (rest : Program α) : x.other.pair rest (p x.other.other) = x.pair (p x) rest := by
        rw [Party.other_other, Party.pair_swap]
      simp only [hrest, ih ((Party.pair_self ..).trans h), Party.pair_other]
      exact (p x.other).turn_bind _

/-- Behind the schedule it is the turn of the first party. -/
theorem interleave_concat (schedule : List Party) (p : Party → Program α) :
    interleave (schedule ++ [.first]) p = interleave schedule p := by
  induction schedule generalizing p with
  | nil =>
    exact (p .first).turn_bind fun mine => (p .second).bind fun theirs =>
      .done (Party.first.pair mine theirs)
  | cons x schedule ih => simp only [List.cons_append, interleave, ih]

/-- The first two turns, and a schedule for the rest. -/
theorem exists_interleave_opening (schedule : List Party) : ∃ rest : List Party,
    ∀ p : Party → Program α, interleave schedule p =
      interleave ((opening schedule).1 :: (opening schedule).2 :: rest) p := by
  match schedule with
  | [] =>
    refine ⟨[], fun p => ?_⟩
    rw [← interleave_concat, ← interleave_concat]
    rfl
  | [_] =>
    refine ⟨[], fun p => ?_⟩
    rw [← interleave_concat]
    rfl
  | _ :: _ :: rest => exact ⟨rest, fun p => rfl⟩

/-- From a state of the store, whose lock is free, the program returns a result, and it leaves the
lock free and the store in another state. -/
def Ends (store : Store σ) (p : Program α) (state : σ) (a : α) (state' : σ) : Prop :=
  ∃ log, p.run store ⟨state, .free⟩ = ⟨.returned a, ⟨state', .free⟩, log⟩

section Ends

variable {store : Store σ} {p : Program α} {state state' state'' : σ} {a : α}

theorem ends_done : (Program.done a).Ends store state a state :=
  ⟨[], rfl⟩

/-- A program ends where what follows it ends. -/
theorem Ends.bind {f : α → Program β} {b : β} (hp : p.Ends store state a state')
    (hf : (f a).Ends store state' b state'') : (p.bind f).Ends store state b state'' := by
  obtain ⟨log, hrun⟩ := hp
  obtain ⟨later, hlater⟩ := hf
  refine ⟨log ++ later, ?_⟩
  rw [run_bind, hrun]
  simp only [Run.andThen, hlater]

/-- A first turn that leaves a rest, and the end of that rest. -/
theorem Ends.of_turn {rest : Program α} (hp : p.turn.Ends store state rest state')
    (hrest : rest.Ends store state' a state'') : p.Ends store state a state'' := by
  have hend := hp.bind (f := fun rest => rest.bind .done) (hrest.bind ends_done)
  rwa [turn_bind, bind_done] at hend

/-- One party to its end, and then the other one. -/
theorem ends_inOrder {p : Party → Program α} {x : Party} {b : α}
    (hx : (p x).Ends store state a state') (hother : (p x.other).Ends store state' b state'') :
    (inOrder x p).Ends store state (x.pair a b) state'' :=
  hx.bind (hother.bind ends_done)

/-- One turn of each party, and the end of what they leave. -/
theorem ends_interleave_crossed {schedule : List Party} {p q : Party → Program α} {x : Party}
    {results : Party → α} {once twice : σ} (hx : (p x).turn.Ends store state (q x) once)
    (hother : (p x.other).turn.Ends store once (q x.other) twice)
    (hrest : (interleave schedule q).Ends store twice results state') :
    (interleave (x :: x.other :: schedule) p).Ends store state results state' := by
  refine hx.bind ?_
  rw [interleave, Party.pair_other]
  refine hother.bind ?_
  rwa [Party.other_other, Party.pair_self, Party.pair_swap, Party.pair_apply]

/-- The turn of a party by which it is done, and the end of the other one. -/
theorem ends_interleave_of_done (schedule : List Party) {p : Party → Program α} {x : Party} {b : α}
    (hx : (p x).turn.Ends store state (.done a) state')
    (hother : (p x.other).Ends store state' b state'') :
    (interleave (x :: schedule) p).Ends store state (x.pair a b) state'' := by
  refine hx.bind ?_
  rw [interleave_of_done schedule (Party.pair_self ..), Party.pair_other]
  exact hother.bind ends_done

end Ends

end Program

namespace Action

theorem keeps_ofExcept (result : Except Error α) : (ofExcept result).run.Keeps :=
  trivial

theorem keeps_ask (c : Call) : (ask c).run.Keeps :=
  fun _ => trivial

/-- Two actions that do not touch the lock, one after the other. -/
theorem keeps_bind {x : Action α} {f : α → Action β} (hx : x.run.Keeps)
    (hf : ∀ a, (f a).run.Keeps) : (x >>= f).run.Keeps := by
  refine Program.Keeps.bind hx fun result => ?_
  cases result with
  | ok a => exact hf a
  | error e => trivial

variable {store : Store σ} {state state' : σ}

/-- The reply by which a call ends. -/
def replyOf : Except Error α → Reply α
  | .ok value => .answer value
  | .error err => .failure err

variable {lock : Lock} {c : Call} (answer : Except Error c.Answer)

/-- A call that the store answers leaves one entry in the log. -/
theorem run_ask (h : store.respond state c = (replyOf answer, state')) :
    (ask c).run.run store ⟨state, lock⟩ =
      ⟨.returned answer, ⟨state', lock⟩, [⟨c, replyOf answer⟩]⟩ := by
  cases answer <;> simp only [ask, ExceptT.run_mk, Program.run, h, replyOf, Run.after]

/-- A call whose answer is dropped leaves one entry in the log. -/
theorem run_ask_pure (h : store.respond state c = (replyOf answer, state')) (a : α) :
    (ask c >>= fun _ => pure a : Action α).run.run store ⟨state, lock⟩ =
      ⟨.returned (answer.map fun _ => a), ⟨state', lock⟩, [⟨c, replyOf answer⟩]⟩ := by
  show ((ask c).run.bind _).run store ⟨state, lock⟩ = _
  rw [run_bind, run_ask answer h]
  cases answer <;> rfl

/-- Work that keeps the lock it is given is one turn, and what follows on it is the rest. -/
theorem ends_turn_locked {work : Action α} (hwork : work.run.Keeps) {result : Except Error α}
    {log : List Exchange}
    (h : work.run.run store ⟨state, .held⟩ = ⟨.returned result, ⟨state', .held⟩, log⟩)
    (f : Except Error α → Program β) :
    ((locked work).run.bind f).turn.Ends store state (f result) state' := by
  have hturn : ((locked work).run.bind f).turn.run store ⟨state, .free⟩ =
      (work.run.bind fun result => .release (.done (f result))).run store ⟨state, .held⟩ := by
    have hrest := hwork.turn_bind fun result => (Program.release (.done result)).bind f
    rw [← Program.bind_assoc] at hrest
    exact congrArg (Program.run store · ⟨state, .held⟩) hrest
  refine ⟨log, ?_⟩
  rw [hturn, run_bind, h]
  simp [Run.andThen, Program.run]

end Action

end RowMap
