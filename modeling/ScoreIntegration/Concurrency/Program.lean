import Mathlib.Logic.Basic

/-!
# Sequential programs over atomic operations

A thread of a lock-free algorithm is a tree of atomic operations.  Between two of them
every other thread may run, so the tree is kept as data and is never collapsed to a
function on states.  The tree is well founded: a program ends with a result or with a
failure (a violated assertion or a call of `terminate`).
-/

namespace ScoreIntegration.Concurrency

/-- A sequential program whose steps are the atomic operations `Op`; an
operation `op` answers with a value of `Res op`. -/
inductive Program (Op : Type) (Res : Op → Type) (Failure : Type) (α : Type) : Type where
  | done (result : α)
  | abort (failure : Failure)
  | perform (op : Op) (next : Res op → Program Op Res Failure α)

namespace Program

variable {Op : Type} {Res : Op → Type} {Failure α β γ : Type} {prog : Program Op Res Failure α}

def bind (program : Program Op Res Failure α)
    (next : α → Program Op Res Failure β) : Program Op Res Failure β :=
  match program with
  | .done result => next result
  | .abort failure => .abort failure
  | .perform op continuation => .perform op fun answer => (continuation answer).bind next

instance : Monad (Program Op Res Failure) where
  pure := .done
  bind := .bind

@[simp]
theorem pure_eq_done (res : α) : (pure res : Program Op Res Failure α) = .done res := rfl

@[simp]
theorem perform_bind (op : Op) (continuation : Res op → Program Op Res Failure α)
    (next : α → Program Op Res Failure β) :
    (Program.perform op continuation >>= next) = .perform op fun ans => continuation ans >>= next :=
  rfl

theorem bind_assoc (prog : Program Op Res Failure α) (first : α → Program Op Res Failure β)
    (second : β → Program Op Res Failure γ) :
    (prog >>= first) >>= second = prog >>= fun res => first res >>= second := by
  induction prog with
  | done res | abort err => rfl
  | perform op continuation ih =>
    simp only [perform_bind]
    congr 1
    funext ans
    exact ih ans

def atomic (op : Op) : Program Op Res Failure (Res op) := .perform op .done

def require (condition : Bool) (failure : Failure) : Program Op Res Failure Unit :=
  if condition then .done () else .abort failure

def failure? : Program Op Res Failure α → Option Failure
  | .done _ => none
  | .abort failure => some failure
  | .perform _ _ => none

def result? : Program Op Res Failure α → Option α
  | .done result => some result
  | .abort _ => none
  | .perform _ _ => none

theorem eq_done_of_result? {res} (ended : prog.result? = some res) : prog = .done res := by
  cases prog with
  | done value =>
    cases ended
    rfl
  | _ => cases ended

theorem eq_abort_of_failure? {err} (failed : prog.failure? = some err) : prog = .abort err := by
  cases prog with
  | abort value =>
    cases failed
    rfl
  | _ => cases failed

end Program

end ScoreIntegration.Concurrency
