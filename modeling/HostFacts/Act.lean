import HostFacts.Fault

/-!
# Actions that may fail

An `Act σ α` changes a state `σ` and ends with an answer or with a fault. What it did to the state
before a fault stays done. `Act.bind_apply` and its companions say how actions run one after the
other; they are all that proofs need to know.
-/

namespace HostFacts

/-- An action on a state: an answer or a fault, and the state afterwards. -/
def Act (σ α : Type) : Type := σ → Except Fault α × σ

namespace Act

variable {σ τ α β : Type}

/-- Answers without doing anything. -/
protected def pure (a : α) : Act σ α := fun s => (.ok a, s)

/-- Runs an action, and then the one that its answer gives. -/
protected def bind (x : Act σ α) (f : α → Act σ β) : Act σ β := fun s =>
  match x s with
  | (.ok a, s) => f a s
  | (.error e, s) => (.error e, s)

instance : Monad (Act σ) where
  pure := Act.pure
  bind := Act.bind

/-- Ends with a fault. -/
def fail (e : Fault) : Act σ α := fun s => (.error e, s)

/-- The state. -/
def get : Act σ σ := fun s => (.ok s, s)

/-- Changes the state. -/
def modify (f : σ → σ) : Act σ Unit := fun s => (.ok (), f s)

/-- Ends as a result says. -/
def ofExcept (r : Except Fault α) : Act σ α := fun s => (r, s)

/-- Runs an action and answers with how it ended. -/
def attempt (x : Act σ α) : Act σ (Except Fault α) := fun s =>
  match x s with
  | (r, s) => (.ok r, s)

/-- Runs an action on a part of the state. -/
def zoom (part : τ → σ) (put : σ → τ → τ) (x : Act σ α) : Act τ α := fun t =>
  match x (part t) with
  | (r, s) => (r, put s t)

/-! ## How actions run -/

@[simp] theorem pure_apply (a : α) (s : σ) : (pure a : Act σ α) s = (.ok a, s) := rfl

@[simp] theorem fail_apply (e : Fault) (s : σ) : (fail e : Act σ α) s = (.error e, s) := rfl

@[simp] theorem get_apply (s : σ) : (get : Act σ σ) s = (.ok s, s) := rfl

@[simp] theorem modify_apply (f : σ → σ) (s : σ) : modify f s = (.ok (), f s) := rfl

@[simp] theorem ofExcept_apply (r : Except Fault α) (s : σ) : ofExcept r s = (r, s) := rfl

@[simp] theorem attempt_apply (x : Act σ α) (s : σ) : attempt x s = (.ok (x s).1, (x s).2) := rfl

theorem bind_apply (x : Act σ α) (f : α → Act σ β) (s : σ) :
    (x >>= f) s =
      match x s with
      | (.ok a, s) => f a s
      | (.error e, s) => (.error e, s) := rfl

theorem bind_of_ok {x : Act σ α} {f : α → Act σ β} {s s' : σ} {a : α} (h : x s = (.ok a, s')) :
    (x >>= f) s = f a s' := by rw [bind_apply, h]

theorem bind_of_error {x : Act σ α} {f : α → Act σ β} {s s' : σ} {e : Fault}
    (h : x s = (.error e, s')) : (x >>= f) s = (.error e, s') := by rw [bind_apply, h]

end Act

end HostFacts
