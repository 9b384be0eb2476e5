import ScoreIntegration.Concurrency.System

/-!
# Rely-guarantee reasoning

`Rules` fix an invariant of the shared state, what a thread may rely on while the
others run and what its own steps guarantee.  `Safe` is the resulting weakest
precondition of a program, and `System.Reachable.sound` puts the threads together:
if every program a thread may take up is safe, the invariant holds in every
reachable state, and so does the postcondition of every idle thread.
-/

namespace ScoreIntegration.Concurrency

open Function

variable {Op : Type} {Res : Op → Type} {Failure Local State Thread α β : Type}

/-- Invariant, rely and guarantee for the threads of a machine. -/
structure Rules (machine : Machine Op Res State) (Thread : Type) where
  invariant : State → Prop
  rely : Thread → State → State → Prop
  guarantee : Thread → State → State → Prop
  rely_refl : ∀ thread state, rely thread state state
  rely_trans : ∀ {thread first second third},
    rely thread first second → rely thread second third → rely thread first third
  rely_of_guarantee : ∀ {thread other before after},
    thread ≠ other → invariant before → guarantee thread before after → rely other before after

namespace Rules

variable {machine : Machine Op Res State} (rules : Rules machine Thread)

/-- Run by `thread` from a given state, the program keeps the invariant and
the guarantee at every operation, ends with a result only where `post` holds
and fails only where `fail` allows it. -/
def Safe (thread : Thread) (post : α → State → Prop) (fail : Failure → State → Prop) :
    Program Op Res Failure α → State → Prop
  | .done result, state =>
    ∀ later, rules.rely thread state later → rules.invariant later → post result later
  | .abort failure, state =>
    ∀ later, rules.rely thread state later → rules.invariant later → fail failure later
  | .perform op next, state =>
    ∀ later, rules.rely thread state later → rules.invariant later →
      ∀ fault, machine.admissible op later (machine.exec op fault later).2 →
        rules.invariant (machine.exec op fault later).2 ∧
        rules.guarantee thread later (machine.exec op fault later).2 ∧
        Safe thread post fail (next (machine.exec op fault later).1) (machine.exec op fault later).2

/-- Safe from every state of the invariant in which `pre` holds. -/
def Triple (thread : Thread) (pre : State → Prop)
    (program : Program Op Res Failure α) (post : α → State → Prop)
    (fail : Failure → State → Prop) : Prop :=
  ∀ state, rules.invariant state → pre state → rules.Safe thread post fail program state

def Stable (thread : Thread) (assertion : State → Prop) : Prop :=
  ∀ before after, rules.rely thread before after → rules.invariant after →
    assertion before → assertion after

variable {rules} {t : Thread}

variable {post : α → State → Prop} {fail : Failure → State → Prop}
  {prog : Program Op Res Failure α} {post' : α → State → Prop} {s : State}
  {fail' : Failure → State → Prop} {next : α → Program Op Res Failure β} {pre : State → Prop}

/-! ## Structural rules -/

theorem Safe.stable {pre s'} (moved : rules.rely t pre s')
    (safe : rules.Safe t post fail prog pre) :
    rules.Safe t post fail prog s' := by
  cases prog with
  | done res | abort err | perform op next =>
    intro later relied holds
    exact safe later (rules.rely_trans moved relied) holds

theorem Safe.weaken (safe : rules.Safe t post fail prog s)
    (postWeaker : ∀ res later, rules.invariant later → post res later → post' res later)
    (failWeaker : ∀ err later, rules.invariant later →
      fail err later → fail' err later) : rules.Safe t post' fail' prog s := by
  induction prog generalizing s with
  | done res =>
    intro later relied holds
    exact postWeaker res later holds (safe later relied holds)
  | abort err =>
    intro later relied holds
    exact failWeaker err later holds (safe later relied holds)
  | perform op next ih =>
    intro later relied holds fault admissible
    obtain ⟨kept, guaranteed, rest⟩ := safe later relied holds fault admissible
    exact ⟨kept, guaranteed, ih _ rest⟩

/-- The sequence rule: the first program establishes what makes the second
one safe. -/
theorem Safe.bind {post : β → State → Prop} (holds : rules.invariant s)
    (first : rules.Safe t (fun res => rules.Safe t post fail (next res)) fail
      prog s) : rules.Safe t post fail (prog >>= next) s := by
  induction prog generalizing s with
  | done res => exact first s (rules.rely_refl t s) holds
  | abort err => exact first
  | perform op continuation ih =>
    intro later relied holdsLater fault admissible
    obtain ⟨kept, guaranteed, rest⟩ := first later relied holdsLater fault admissible
    exact ⟨kept, guaranteed, ih _ kept rest⟩

theorem Triple.bind {post : β → State → Prop} {mid : α → State → Prop}
    (first : rules.Triple t pre prog mid fail)
    (rest : ∀ res, rules.Triple t (mid res) (next res) post fail) :
    rules.Triple t pre (prog >>= next) post fail := by
  intro s holds start
  apply Safe.bind holds
  exact (first s holds start).weaken
      (fun res later holdsLater reached => rest res later holdsLater reached)
      (fun _ _ _ failed => failed)

/-! ## Rules for the leaves -/

theorem Triple.done {res} (stable : rules.Stable t pre)
    (reached : ∀ s, rules.invariant s → pre s → post res s) :
    rules.Triple t pre (.done res) post fail := by
  intro s _ start later relied holds
  exact reached later holds (stable s later relied holds start)

theorem Triple.abort {err} (stable : rules.Stable t pre)
    (reached : ∀ s, rules.invariant s → pre s → fail err s) :
    rules.Triple t pre (.abort err) post fail := by
  intro s _ start later relied holds
  exact reached later holds (stable s later relied holds start)

end Rules

/-! ## Soundness for systems of threads -/

namespace System

variable [DecidableEq Thread] {machine : Machine Op Res State} {rules : Rules machine Thread}
  {sys : System machine Failure Local Thread} {post : Thread → Local → State → Prop}
  {fail : Thread → Failure → State → Prop} {cfg : Config Op Res Failure Local State Thread}
  {t : Thread}

def Sound (rules : Rules machine Thread) (post : Thread → Local → State → Prop)
    (fail : Thread → Failure → State → Prop)
    (config : Config Op Res Failure Local State Thread) : Prop :=
  rules.invariant config.shared ∧ ∀ thread, rules.Safe thread (post thread) (fail thread)
        (config.threads thread) config.shared

def LaunchesSafe (rules : Rules machine Thread) (system : System machine Failure Local Thread)
    (post : Thread → Local → State → Prop) (fail : Thread → Failure → State → Prop) : Prop :=
  ∀ thread current state program, system.launch thread current state program →
    rules.invariant state →
    rules.Safe thread (post thread) (fail thread) current state →
    rules.Safe thread (post thread) (fail thread) program state

omit [DecidableEq Thread] in
theorem Sound.perform (sound : Sound rules post fail cfg) {op}
    {next : Res op → Program Op Res Failure Local}
    (programEq : cfg.threads t = .perform op next) {fault}
    (admissible : machine.admissible op cfg.shared (machine.exec op fault cfg.shared).2) :
    rules.invariant (machine.exec op fault cfg.shared).2 ∧
      rules.guarantee t cfg.shared (machine.exec op fault cfg.shared).2 ∧
      rules.Safe t (post t) (fail t) (next (machine.exec op fault cfg.shared).1)
        (machine.exec op fault cfg.shared).2 := by
  have own := sound.2 t
  rw [programEq] at own
  exact own cfg.shared (rules.rely_refl t _) sound.1 fault admissible

/-- One step keeps all threads safe, and an operation keeps the guarantee of
the thread that performs it. -/
theorem Step.sound (launches : LaunchesSafe rules sys post fail)
    {config'} (step : sys.Step cfg t config') (sound : Sound rules post fail cfg) :
    Sound rules post fail config' ∧ (config'.shared = cfg.shared ∨
        rules.guarantee t cfg.shared config'.shared) := by
  have ⟨holds, safe⟩ := sound
  cases step with
  | launch ok =>
    refine ⟨⟨holds, fun o => ?_⟩, Or.inl rfl⟩
    by_cases same : o = t
    · subst o
      simpa only [update_self] using launches t _ _ _ ok holds (safe t)
    · simpa only [update_of_ne same] using safe o
  | perform fault programEq admissible =>
    obtain ⟨kept, guaranteed, rest⟩ := sound.perform programEq admissible
    refine ⟨⟨kept, fun o => ?_⟩, Or.inr guaranteed⟩
    by_cases same : o = t
    · subst o
      simpa only [update_self] using rest
    · simp only [update_of_ne same]
      exact Rules.Safe.stable (rules.rely_of_guarantee (Ne.symm same) holds guaranteed) (safe o)

theorem Reachable.sound (start : ∀ cfg, sys.initial cfg → Sound rules post fail cfg)
    (launches : LaunchesSafe rules sys post fail) (reach : sys.Reachable cfg) :
    Sound rules post fail cfg := by
  induction reach with
  | initial first => exact start _ first
  | step _ step ih => exact (step.sound launches ih).1

omit [DecidableEq Thread] in
theorem Sound.post_of_idle (sound : Sound rules post fail cfg) {res}
    (idle : cfg.threads t = .done res) : post t res cfg.shared := by
  have safe := sound.2 t
  rw [idle] at safe
  exact safe cfg.shared (rules.rely_refl t _) sound.1

omit [DecidableEq Thread] in
theorem Sound.fail_of_aborted (sound : Sound rules post fail cfg)
    {err} (aborted : cfg.threads t = .abort err) :
    fail t err cfg.shared := by
  have safe := sound.2 t
  rw [aborted] at safe
  exact safe cfg.shared (rules.rely_refl t _) sound.1

end System

end ScoreIntegration.Concurrency
