import Mathlib.Logic.Function.Basic

/-!
# Maps with optional values

What holds of the entries of a map after one of them was replaced or erased, and of the
parts of a computation that succeeds.
-/

namespace ScoreIntegration.Containers

open Function

theorem exists_of_bind_eq_ok {ε α β : Type} {first}
    {next : α → Except ε β} {res} (ok : (first >>= next) = .ok res) :
    ∃ mid, first = .ok mid ∧ next mid = .ok res := by
  cases first with
  | error err => cases ok
  | ok mid => exact ⟨mid, rfl, ok⟩

variable {α β : Type} [DecidableEq α] {map : α → Option β} {k o : α}
  {value found : β} {P : β → Prop}

theorem exists_update_some : (∃ found, update map k (some value) o = some found ∧ P found) ↔
      if o = k then P value else ∃ found, map o = some found ∧ P found := by
  rw [update_apply]
  split
  · simp
  · rfl

theorem exists_update_some_iff {old} (st : map k = some old) (same : P value ↔ P old) :
    (∃ found, update map k (some value) o = some found ∧ P found) ↔
      ∃ found, map o = some found ∧ P found := by
  rw [exists_update_some]
  split
  next isKey => simp [isKey, st, same]
  next => rfl

theorem of_update_some (P : β → Prop) (own : P value) (others : map o = some found → P found)
    (st : update map k (some value) o = some found) : P found := by
  rw [update_apply] at st
  split at st
  · exact Option.some.inj st ▸ own
  · exact others st

theorem of_update_none (st : update map k none o = some found) : map o = some found := by
  rw [update_apply] at st
  split at st
  · cases st
  · exact st

end ScoreIntegration.Containers
