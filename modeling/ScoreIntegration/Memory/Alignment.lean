import Mathlib.Data.Nat.Basic
import Mathlib.Tactic.Ring

/-!
# Rounding up to a multiple

The least multiple of an alignment that is not below a number.
-/

namespace ScoreIntegration.Memory

open Nat

/-- The least multiple of `alignment` that is not below `address`. -/
def alignUp (address alignment : Nat) : Nat := (address + (alignment - 1)) / alignment * alignment

theorem dvd_alignUp (addr alignment : Nat) : alignment ∣ alignUp addr alignment :=
  Dvd.intro_left _ rfl

variable {alignment : Nat}

theorem le_alignUp (positive : 0 < alignment) (addr : Nat) : addr ≤ alignUp addr alignment := by
  have division := div_add_mod (addr + (alignment - 1)) alignment
  have remainder := mod_lt (addr + (alignment - 1)) positive
  rw [mul_comm] at division
  rw [alignUp]
  omega

theorem alignUp_mono {first second} (le : first ≤ second) (alignment : Nat) :
    alignUp first alignment ≤ alignUp second alignment :=
  Nat.mul_le_mul_right alignment (Nat.div_le_div_right (Nat.add_le_add_right le (alignment - 1)))

theorem alignUp_add {shift} (positive : 0 < alignment) (multiple : alignment ∣ shift) (addr : Nat) :
    alignUp (addr + shift) alignment = alignUp addr alignment + shift := by
  obtain ⟨factor, rfl⟩ := multiple
  have regroup : addr + alignment * factor + (alignment - 1) =
      addr + (alignment - 1) + alignment * factor := by omega
  rw [alignUp, alignUp, regroup, add_mul_div_left _ _ positive]
  ring

theorem alignUp_eq {addr multiple} (isMultiple : alignment ∣ multiple)
    (above : addr ≤ multiple) (below : multiple < addr + alignment) :
    alignUp addr alignment = multiple := by
  obtain ⟨factor, rfl⟩ := isMultiple
  have quotient : (addr + (alignment - 1)) / alignment = factor := by
    apply Nat.div_eq_of_lt_le
    · rw [Nat.mul_comm]
      omega
    · rw [Nat.add_mul, Nat.mul_comm]
      omega
  rw [alignUp, quotient, Nat.mul_comm]

end ScoreIntegration.Memory
