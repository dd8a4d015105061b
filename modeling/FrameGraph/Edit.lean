/-!
# Edits

An edit reads and changes a state as it goes, and may fail on the way. What it has changed by then stays
changed: an edit that is to leave the state alone when it fails has to ask all its questions first.

* `Edit.run`: the result of an edit, with the state after it.
* `Edit.ask`, `Edit.require`: a question that may have no answer, and a condition.
* `Edit.change`: a change of the state.
* `Edit.clearing`: an edit that puts the state in order when it fails, by what it fails of.
-/

namespace FrameGraph
set_option autoImplicit false

abbrev Edit (σ ε α : Type) := ExceptT ε (StateM σ) α

namespace Edit
variable {σ ε α β : Type}

def run (s : σ) (edit : Edit σ ε α) : Except ε α × σ :=
  (StateT.run (ExceptT.run edit) s).run

def ask (question : σ → Except ε α) : Edit σ ε α :=
  ExceptT.mk fun s => (question s, s)

def require (condition : σ → Bool) (otherwise : ε) : Edit σ ε Unit :=
  ask fun s => if condition s then .ok () else .error otherwise

def change (f : σ → σ) : Edit σ ε Unit :=
  modify f

def clearing (clear : ε → σ → σ) (edit : Edit σ ε α) : Edit σ ε α :=
  ExceptT.mk fun s => match run s edit with
    | (.ok a, t) => (.ok a, t)
    | (.error e, t) => (.error e, clear e t)

/-! ## Running an edit -/

@[simp] theorem run_pure (s : σ) (a : α) : run s (pure a : Edit σ ε α) = (.ok a, s) := rfl

@[simp] theorem run_throw (s : σ) (e : ε) : run s (throw e : Edit σ ε α) = (.error e, s) := rfl

@[simp] theorem run_ask (s : σ) (question : σ → Except ε α) : run s (ask question) = (question s, s) := rfl

theorem run_bind (s : σ) (edit : Edit σ ε α) (next : α → Edit σ ε β) :
    run s (edit >>= next) = match run s edit with
      | (.ok a, t) => run t (next a)
      | (.error e, t) => (.error e, t) := by
  cases h : run s edit with
  | mk result t => cases result <;> simp_all [run, ExceptT.run_bind]

theorem run_require_bind (s : σ) (condition : σ → Bool) (otherwise : ε) (next : Unit → Edit σ ε α) :
    run s (require condition otherwise >>= next) =
      if condition s then run s (next ()) else (.error otherwise, s) := by
  rw [require, run_bind, run_ask]
  cases condition s <;> rfl

@[simp] theorem run_clearing (s : σ) (clear : ε → σ → σ) (edit : Edit σ ε α) :
    run s (clearing clear edit) = match run s edit with
      | (.ok a, t) => (.ok a, t)
      | (.error e, t) => (.error e, clear e t) := rfl

@[simp] theorem run_get_bind (s : σ) (next : σ → Edit σ ε α) :
    run s (get >>= next) = run s (next s) := rfl

@[simp] theorem run_change_bind (s : σ) (f : σ → σ) (next : Unit → Edit σ ε α) :
    run s (change f >>= next) = run (f s) (next ()) := rfl

end Edit

end FrameGraph
