import ScoreIntegration.Concurrency.Program

/-!
# Execution without interference

A program that runs alone is sequential, up to operations that fail spuriously.  `Ends` is
total correctness: whatever the faults, the program ends in its postcondition.
-/

namespace ScoreIntegration.Concurrency

namespace Program

variable {Op : Type} {Res : Op → Type} {Failure α β State : Type}
  (exec : (op : Op) → Bool → State → Res op × State)

/-- Run alone, `program` leads from `before` to `after` and ends with `outcome`.  Every
operation is offered a bit which it may use to fail spuriously; `faults` is the number of
set bits. -/
inductive Solo : Program Op Res Failure α → State → Nat → Except Failure α → State → Prop
  | done (result : α) (state : State) : Solo (.done result) state 0 (.ok result) state
  | abort (failure : Failure) (state : State) : Solo (.abort failure) state 0 (.error failure) state
  | perform (op : Op) (next : Res op → Program Op Res Failure α)
      (fault : Bool) {before after : State} {faults : Nat}
      {outcome : Except Failure α} :
      Solo (next (exec op fault before).1) (exec op fault before).2 faults outcome after →
      Solo (.perform op next) before (fault.toNat + faults) outcome after

def runSolo : Program Op Res Failure α → (Nat → Bool) → State → Nat × Except Failure α × State
  | .done result, _, state => (0, .ok result, state)
  | .abort failure, _, state => (0, .error failure, state)
  | .perform op next, fault, state =>
    let (answer, after) := exec op (fault 0) state
    let (faults, outcome, final) := runSolo (next answer) (fun index => fault (index + 1)) after
    ((fault 0).toNat + faults, outcome, final)

variable {exec}

theorem solo_runSolo (prog : Program Op Res Failure α) (fault : Nat → Bool) (pre : State) :
    Solo exec prog pre (runSolo exec prog fault pre).1 (runSolo exec prog fault pre).2.1
      (runSolo exec prog fault pre).2.2 := by
  induction prog generalizing fault pre with
  | done res => exact Solo.done res pre
  | abort err => exact Solo.abort err pre
  | perform op next ih => exact Solo.perform op next (fault 0) (ih _ _ _)

variable {prog : Program Op Res Failure α} {faults : Nat} {out : Except Failure α}
  {res : α} {s' : State} {op : Op} {next : α → Program Op Res Failure β}

theorem exists_solo_of_runSolo {fault : Nat → Bool} {pre}
    (counted : (runSolo exec prog fault pre).1 = faults)
    (ended : (runSolo exec prog fault pre).2.1 = out) :
    ∃ s', Solo exec prog pre faults out s' := by
  rw [← counted, ← ended]
  exact ⟨_, solo_runSolo prog fault pre⟩

theorem solo_done_iff {pre} : Solo exec (.done res) pre faults out s' ↔
      faults = 0 ∧ out = .ok res ∧ s' = pre := by
  constructor
  · rintro ⟨⟩
    exact ⟨rfl, rfl, rfl⟩
  · rintro ⟨rfl, rfl, rfl⟩
    exact Solo.done res s'

theorem solo_perform_iff {next : Res op → Program Op Res Failure α} {pre} :
    Solo exec (.perform op next) pre faults out s' ↔
      ∃ fault rest, faults = Bool.toNat fault + rest ∧
        Solo exec (next (exec op fault pre).1) (exec op fault pre).2 rest out s' := by
  constructor
  · intro execution
    cases execution with
    | perform _ _ fault rest => exact ⟨fault, _, rfl, rest⟩
  · rintro ⟨fault, rest, rfl, execution⟩
    exact Solo.perform op next fault execution

theorem Solo.of_bind {pre out} (execution : Solo exec (prog >>= next) pre faults out s') :
    (∃ err, out = .error err ∧ Solo exec prog pre faults (.error err) s') ∨
    ∃ res mid first second, faults = first + second ∧ Solo exec prog pre first (.ok res) mid ∧
      Solo exec (next res) mid second out s' := by
  induction prog generalizing pre faults with
  | done res =>
    exact Or.inr ⟨res, pre, 0, faults, (Nat.zero_add faults).symm, done res pre, execution⟩
  | abort err =>
    cases execution with
    | abort => exact Or.inl ⟨err, rfl, abort err _⟩
  | perform op continuation ih =>
    obtain ⟨fault, rest, rfl, tail⟩ := solo_perform_iff.mp execution
    rcases ih _ tail with
      ⟨err, failed, first⟩ |
      ⟨res, mid, first, second, split, left, right⟩
    · exact Or.inl ⟨err, failed, perform op continuation fault first⟩
    · exact Or.inr
        ⟨res, mid, fault.toNat + first, second, by omega,
          perform op continuation fault left, right⟩

/-! ## Total correctness -/

variable (exec) in
/-- Run alone from `before`, the program ends with a result; the number of
faults, the result and the final state are in `post`. -/
def Ends (before : State) (program : Program Op Res Failure α)
    (post : Nat → α → State → Prop) : Prop :=
  ∀ faults outcome after, Solo exec program before faults outcome after →
    ∃ result, outcome = .ok result ∧ post faults result after

variable {pre : State}

theorem Ends.done {post : Nat → α → State → Prop} (reached : post 0 res pre) :
    Ends exec pre (.done res : Program Op Res Failure α) post := by
  intro faults out s' execution
  obtain ⟨rfl, rfl, rfl⟩ := solo_done_iff.mp execution
  exact ⟨res, rfl, reached⟩

theorem Ends.post {post post' : Nat → α → State → Prop} (ends : Ends exec pre prog post)
    (weaker : ∀ faults res s', post faults res s' → post' faults res s') :
    Ends exec pre prog post' := by
  intro faults out s' execution
  obtain ⟨res, ended, reached⟩ := ends faults out s' execution
  exact ⟨res, ended, weaker faults res s' reached⟩

/-- The sequence rule; the faults of both parts add up. -/
theorem Ends.bind {mid : Nat → α → State → Prop} {post : Nat → β → State → Prop}
    (first : Ends exec pre prog mid)
    (rest : ∀ faults res s, mid faults res s →
      Ends exec s (next res) fun more => post (faults + more)) :
    Ends exec pre (prog >>= next) post := by
  intro faults out s' execution
  rcases Solo.of_bind execution with
    ⟨failure, -, failed⟩ | ⟨res, s, early, late, rfl, left, right⟩
  · obtain ⟨res, bad, -⟩ := first _ _ _ failed
    cases bad
  · obtain ⟨_, same, reached⟩ := first _ _ _ left
    cases same
    exact rest early res s reached late out s' right

theorem Ends.atomic {next : Res op → Program Op Res Failure α} {post : Nat → α → State → Prop}
    (step : ∀ fault, Ends exec (exec op fault pre).2
      (next (exec op fault pre).1) fun more => post (Bool.toNat fault + more)) :
    Ends exec pre ((Program.atomic op : Program Op Res Failure (Res op)) >>= next) post := by
  intro faults out s' execution
  obtain ⟨fault, rest, rfl, ended⟩ := solo_perform_iff.mp execution
  exact step fault rest out s' ended

theorem Ends.require {condition err} (holds : condition = true) :
    Ends exec pre (Program.require condition err : Program Op Res Failure Unit)
      (fun _ _ s' => s' = pre) := by
  subst holds
  exact Ends.done rfl

end Program

end ScoreIntegration.Concurrency
