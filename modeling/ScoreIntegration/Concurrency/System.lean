import Mathlib.Logic.Function.Basic
import ScoreIntegration.Concurrency.Program

/-!
# Interleavings of programs on a shared state

A configuration holds the shared state and, for every thread, the program it still
has to run; an idle thread keeps its local state in `done`.  Which programs a thread
may take up, and when, is a parameter: it covers calls of an idle thread as well as a
process that stops in the middle of a call and is started again.
-/

namespace ScoreIntegration.Concurrency

variable {Op : Type} {Res : Op → Type} {Failure Local State Thread : Type}

/-- How atomic operations act on the shared state.  `admissible` is what is
assumed of every operation and the states before and after it; it is `True`
where nothing is assumed. -/
structure Machine (Op : Type) (Res : Op → Type) (State : Type) where
  exec : (op : Op) → Bool → State → Res op × State
  admissible : Op → State → State → Prop

structure Config (Op : Type) (Res : Op → Type) (Failure Local State Thread : Type) where
  shared : State
  threads : Thread → Program Op Res Failure Local

structure System (machine : Machine Op Res State) (Failure Local Thread : Type) where
  initial : Config Op Res Failure Local State Thread → Prop
  launch : Thread → Program Op Res Failure Local → State → Program Op Res Failure Local → Prop

namespace System

variable [DecidableEq Thread] {machine : Machine Op Res State}

inductive Step (system : System machine Failure Local Thread) :
    Config Op Res Failure Local State Thread → Thread →
      Config Op Res Failure Local State Thread → Prop
  | launch {config : Config Op Res Failure Local State Thread}
      {thread : Thread} {program : Program Op Res Failure Local} :
      system.launch thread (config.threads thread) config.shared program →
      Step system config thread
        { config with
          threads := Function.update config.threads thread program }
  | perform {config : Config Op Res Failure Local State Thread} {thread : Thread} {op : Op}
      {next : Res op → Program Op Res Failure Local} (fault : Bool) :
      config.threads thread = .perform op next →
      machine.admissible op config.shared (machine.exec op fault config.shared).2 →
      Step system config thread
        { shared := (machine.exec op fault config.shared).2
          threads :=
            Function.update config.threads thread (next (machine.exec op fault config.shared).1) }

inductive Reachable (system : System machine Failure Local Thread) :
    Config Op Res Failure Local State Thread → Prop
  | initial {config : Config Op Res Failure Local State Thread} :
      system.initial config → Reachable system config
  | step {config config' : Config Op Res Failure Local State Thread} {thread : Thread} :
      Reachable system config →
      Step system config thread config' →
      Reachable system config'

end System

/-! ## Replaying concrete runs -/

namespace Config

variable [DecidableEq Thread]

def advance (exec : (op : Op) → Bool → State → Res op × State) (thread : Thread) (fault : Bool)
    (config : Config Op Res Failure Local State Thread) :
    Config Op Res Failure Local State Thread :=
  match config.threads thread with
  | .done _ => config
  | .abort _ => config
  | .perform op next =>
    { shared := (exec op fault config.shared).2
      threads := Function.update config.threads thread (next (exec op fault config.shared).1) }

def advanceN (exec : (op : Op) → Bool → State → Res op × State) (thread : Thread) :
    Nat → Config Op Res Failure Local State Thread → Config Op Res Failure Local State Thread
  | 0, config => config
  | count + 1, config => advanceN exec thread count (config.advance exec thread false)

def start (thread : Thread) (program : Program Op Res Failure Local)
    (config : Config Op Res Failure Local State Thread) :
    Config Op Res Failure Local State Thread :=
  { config with threads := Function.update config.threads thread program }

def call (exec : (op : Op) → Bool → State → Res op × State)
    (thread : Thread) (program : Program Op Res Failure Local) (count : Nat)
    (config : Config Op Res Failure Local State Thread) :
    Config Op Res Failure Local State Thread :=
  (config.start thread program).advanceN exec thread count

end Config

namespace System

variable [DecidableEq Thread] {machine : Machine Op Res State}
  {sys : System machine Failure Local Thread} {cfg : Config Op Res Failure Local State Thread}
  {t : Thread}

theorem Reachable.advance_of_admissible (reach : sys.Reachable cfg) {fault}
    (admissible : ∀ op next, cfg.threads t = .perform op next →
      machine.admissible op cfg.shared (machine.exec op fault cfg.shared).2) :
    sys.Reachable (cfg.advance machine.exec t fault) := by
  unfold Config.advance
  split
  · exact reach
  · exact reach
  next op next programEq =>
    exact reach.step (Step.perform fault programEq (admissible op next programEq))

theorem Reachable.advance (always : ∀ op pre s', machine.admissible op pre s')
    (reach : sys.Reachable cfg) (t : Thread) (fault : Bool) :
    sys.Reachable (cfg.advance machine.exec t fault) :=
  reach.advance_of_admissible fun _ _ _ => always _ _ _

theorem Reachable.advanceN (always : ∀ op pre s', machine.admissible op pre s')
    (reach : sys.Reachable cfg) (t : Thread) (count : Nat) :
    sys.Reachable (cfg.advanceN machine.exec t count) := by
  induction count generalizing cfg with
  | zero => exact reach
  | succ count ih => exact ih (reach.advance always t false)

theorem Reachable.start (reach : sys.Reachable cfg) (t : Thread)
    (prog : Program Op Res Failure Local)
    (ok : sys.launch t (cfg.threads t) cfg.shared prog) :
    sys.Reachable (cfg.start t prog) :=
  reach.step (Step.launch ok)

theorem Reachable.call (always : ∀ op pre s', machine.admissible op pre s')
    (reach : sys.Reachable cfg) {res}
    {prog}
    (ok : sys.launch t (.done res) cfg.shared prog)
    (idle : (cfg.threads t).result? = some res) (count : Nat) :
    sys.Reachable (cfg.call machine.exec t prog count) := by
  rw [← Program.eq_done_of_result? idle] at ok
  exact (reach.start t prog ok).advanceN always t count

end System

end ScoreIntegration.Concurrency
