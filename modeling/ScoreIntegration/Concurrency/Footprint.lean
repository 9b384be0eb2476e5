import ScoreIntegration.Concurrency.RelyGuarantee

/-!
# Footprints

A `Footprint` names, by a projection `view`, a part of the shared state that the other
threads leave alone.  On it a program is reasoned about sequentially: `Runs view
program post` says that, started at `view`, it ends with a result and a value of the
part in `post`.
-/

namespace ScoreIntegration.Concurrency

variable {Op : Type} {Res : Op → Type} {Failure State Thread View : Type}
  {machine : Machine Op Res State}

/-- The part `view` of the state belongs to `thread` while `held`; it is
always `wellFormed`. -/
structure Footprint (rules : Rules machine Thread) (thread : Thread) (View : Type) where
  view : State → View
  held : State → Prop
  wellFormed : View → Prop
  stable : ∀ {before after}, rules.rely thread before after →
    rules.invariant after → held before → held after ∧ view after = view before
  sound : ∀ {state}, rules.invariant state → held state → wellFormed (view state)

namespace Footprint

variable {rules : Rules machine Thread} {thread : Thread} (footprint : Footprint rules thread View)
  {α β : Type} {fail : Failure → Prop} {v : View}

def Owns (P : View → Prop) (state : State) : Prop := footprint.held state ∧ P (footprint.view state)

/-- Started with exactly `view`, the program ends in `post` or with a failure
in `fail`. -/
def Runs (view : View) (program : Program Op Res Failure α)
    (post : α → View → Prop) (fail : Failure → Prop) : Prop :=
  rules.Triple thread (footprint.Owns fun current => current = view) program
    (fun result => footprint.Owns (post result)) (fun failure _ => fail failure)

theorem stable_owns {P : View → Prop} : rules.Stable thread (footprint.Owns P) := by
  intro pre s' moved holds owned
  obtain ⟨held, same⟩ := footprint.stable moved holds owned.1
  refine ⟨held, ?_⟩
  rw [same]
  exact owned.2

variable {footprint}

variable {prog : Program Op Res Failure α} {err : Failure} {s : State}

theorem Runs.bind {next : α → Program Op Res Failure β} {mid : α → View → Prop}
    {post : β → View → Prop} (first : footprint.Runs v prog mid fail)
    (rest : ∀ res cur, mid res cur → footprint.Runs cur (next res) post fail) :
    footprint.Runs v (prog >>= next) post fail := by
  apply Rules.Triple.bind first
  intro res s holds owned
  exact rest res _ owned.2 s holds ⟨owned.1, rfl⟩

theorem Runs.bind_read {next : α → Program Op Res Failure β} {answered : α → Prop}
    {post : β → View → Prop}
    (reads : footprint.Runs v prog (fun res cur => cur = v ∧ answered res) fail)
    (rest : ∀ res, answered res → footprint.Runs v (next res) post fail) :
    footprint.Runs v (prog >>= next) post fail := by
  refine reads.bind fun res cur ⟨same, answer⟩ => ?_
  rw [same]
  exact rest res answer

theorem Runs.of_wellFormed {post : α → View → Prop} (runs : footprint.wellFormed v →
      footprint.Runs v prog post fail) : footprint.Runs v prog post fail := by
  intro s holds owned
  have wellFormed := footprint.sound holds owned.1
  rw [owned.2] at wellFormed
  exact runs wellFormed s holds owned

theorem Runs.post {post post' : α → View → Prop} (runs : footprint.Runs v prog post fail)
    (weaker : ∀ res cur, post res cur → post' res cur) : footprint.Runs v prog post' fail :=
  fun s holds start => (runs s holds start).weaken
    (fun res _ _ owned => ⟨owned.1, weaker res _ owned.2⟩) fun _ _ _ failed => failed

theorem Runs.done {res} {post : α → View → Prop} (reached : post res v) :
    footprint.Runs v (Program.done res : Program Op Res Failure α) post fail := by
  refine Rules.Triple.done footprint.stable_owns fun s holds owned => ⟨owned.1, ?_⟩
  rw [owned.2]
  exact reached

theorem Runs.abort {post : α → View → Prop} (ok : fail err) :
    footprint.Runs v (Program.abort err : Program Op Res Failure α) post fail :=
  Rules.Triple.abort footprint.stable_owns fun _ _ _ => ok

theorem Runs.require {condition} (ok : condition = false → fail err) :
    footprint.Runs v (Program.require condition err : Program Op Res Failure Unit)
      (fun _ cur => cur = v ∧ condition = true) fail := by
  cases condition with
  | false => exact Runs.abort (ok rfl)
  | true => exact Runs.done ⟨rfl, rfl⟩

theorem Runs.atomic {op} {post : Res op → View → Prop}
    (step : ∀ s fault, rules.invariant s → footprint.held s → footprint.view s = v →
      machine.admissible op s (machine.exec op fault s).2 →
      rules.invariant (machine.exec op fault s).2 ∧
      rules.guarantee thread s (machine.exec op fault s).2 ∧
      footprint.held (machine.exec op fault s).2 ∧
      post (machine.exec op fault s).1 (footprint.view (machine.exec op fault s).2)) :
    footprint.Runs v (Program.atomic op : Program Op Res Failure (Res op)) post fail := by
  intro s _ start later relied holds fault admissible
  obtain ⟨held, same⟩ := footprint.stable_owns s later relied holds start
  obtain ⟨kept, guaranteed, owned⟩ := step later fault holds held same admissible
  refine ⟨kept, guaranteed, ?_⟩
  intro final relied holds
  exact footprint.stable_owns _ final relied holds owned

theorem Runs.safe {post : α → View → Prop} (runs : footprint.Runs (footprint.view s) prog post fail)
    (holds : rules.invariant s) (held : footprint.held s) :
    rules.Safe thread (fun res => footprint.Owns (post res)) (fun err _ => fail err) prog s :=
  runs s holds ⟨held, rfl⟩

theorem Runs.safe_wrap {Local : Type} {mid : α → View → Prop} {post : Local → State → Prop}
    {wrap : α → Local} (runs : footprint.Runs (footprint.view s) prog mid fail)
    (holds : rules.invariant s) (held : footprint.held s)
    (wraps : ∀ res later, mid res (footprint.view later) → post (wrap res) later) :
    rules.Safe thread post (fun err _ => fail err) (prog >>= fun res => pure (wrap res)) s := by
  refine Rules.Safe.bind holds ((runs.safe holds held).weaken ?_ fun _ _ _ failed => failed)
  intro res later _ owned final relied holdsFinal
  exact wraps res final (footprint.stable_owns later final relied holdsFinal owned).2

end Footprint

end ScoreIntegration.Concurrency
