import RowMap.Proofs.Store.Run

/-!
# Stores that give the same replies

A store is known by what it replies, so two stores in certain states are `Alike` if they reply the
same to any calls that are put to them one after the other. Sessions are alike if their stores are
and their locks are the same. A program cannot tell alike sessions apart (`Program.like_run`): its
runs end the same way with the same log, and they leave alike sessions behind.
-/

namespace RowMap

variable {σ τ α : Type}

/-! ## Stores -/

/-- The calls with the replies to them, if they are put one after the other. -/
def Store.replies (store : Store σ) : σ → List Call → List Exchange
  | _, [] => []
  | state, c :: rest =>
    let (reply, next) := store.respond state c
    ⟨c, reply⟩ :: store.replies next rest

/-- In these states the stores give the same replies to any calls. -/
def Store.Alike (store : Store σ) (state : σ) (other : Store τ) (state' : τ) : Prop :=
  ∀ calls, store.replies state calls = other.replies state' calls

namespace Store.Alike

variable {store : Store σ} {other : Store τ} {state : σ} {state' : τ}

theorem reply (h : store.Alike state other state') (c : Call) :
    (store.respond state c).1 = (other.respond state' c).1 := by
  have hc := h [c]
  simp only [replies, List.cons.injEq, Exchange.mk.injEq, heq_eq_eq, true_and, and_true] at hc
  exact hc

theorem next (h : store.Alike state other state') (c : Call) :
    store.Alike (store.respond state c).2 other (other.respond state' c).2 :=
  fun calls => (List.cons.inj (h (c :: calls))).2

end Store.Alike

/-! ## Sessions and runs -/

/-- The stores are alike and the locks are the same. -/
structure Session.Alike (store : Store σ) (s : Session σ) (other : Store τ) (s' : Session τ) :
    Prop where
  store : store.Alike s.store other s'.store
  lock : s.lock = s'.lock

/-- The runs cannot be told apart, now or later. -/
structure Run.Like (store : Store σ) (run : Run σ α) (other : Store τ) (run' : Run τ α) :
    Prop where
  ending : run.ending = run'.ending
  log : run.log = run'.log
  session : run.session.Alike store other run'.session

variable {store : Store σ} {other : Store τ} {s : Session σ} {s' : Session τ}

theorem Run.Like.after {run : Run σ α} {run' : Run τ α} (h : run.Like store other run')
    (x : Exchange) : (run.after x).Like store other (run'.after x) :=
  ⟨h.ending, congrArg (x :: ·) h.log, h.session⟩

theorem Program.like_run (p : Program α) (h : s.Alike store other s') :
    (p.run store s).Like store other (p.run other s') := by
  induction p generalizing s s' with
  | done a => exact ⟨rfl, rfl, h⟩
  | acquire next ih =>
    simp only [run, ← h.lock]
    cases s.lock with
    | free => exact ih _ ⟨h.store, rfl⟩
    | poisoned => exact ih _ h
    | held => exact ⟨rfl, rfl, h⟩
  | release next ih =>
    simp only [run, ← h.lock]
    exact ih ⟨h.store, rfl⟩
  | call c next ih =>
    -- Both stores reply alike, and the states they go on with are alike again.
    have hreply := h.store.reply c
    have hnext := h.store.next c
    simp only [run, ← h.lock]
    generalize store.respond s.store c = first at hreply hnext
    generalize other.respond s'.store c = second at hreply hnext
    obtain ⟨reply, state⟩ := first
    obtain ⟨_, state'⟩ := second
    obtain rfl := hreply
    have hsession : Session.Alike store ⟨state, s.lock⟩ other ⟨state', s.lock⟩ := ⟨hnext, rfl⟩
    cases reply with
    | answer value => exact (ih (.ok value) hsession).after ⟨c, .answer value⟩
    | failure e => exact (ih (.error e) hsession).after ⟨c, .failure e⟩
    | panic => exact ⟨rfl, rfl, hnext, rfl⟩

end RowMap
