import Mathlib

/-!
A counter of elapsed time that is advanced by a fixed step and wraps at `size`.
A loop that gives up when the counter has reached its limit does so in the round
that the limit asks for, unless the counter wraps on the way there.
-/

namespace GspDriver.Elapsed

variable {size step limit : Nat}

/-- The counter after `n` steps. -/
def elapsed (size step n : Nat) : Nat := n * step % size

/-- The steps that the limit asks for. -/
def rounds (step limit : Nat) : Nat := (limit + step - 1) / step

theorem elapsed_succ (n : Nat) :
    (elapsed size step n + step) % size = elapsed size step (n + 1) := by
  rw [elapsed, elapsed, Nat.mod_add_mod, Nat.succ_mul]

/-- Fewer steps do not make up the limit. -/
theorem early {n : Nat} (positive : 0 < step) (before : n < rounds step limit) :
    n * step < limit := by
  have some : (n + 1) * step ≤ limit + step - 1 :=
    (Nat.le_div_iff_mul_le positive).mp before
  rw [Nat.succ_mul] at some
  omega

theorem rounds_enough (positive : 0 < step) : limit ≤ rounds step limit * step := by
  have whole := Nat.div_add_mod (limit + step - 1) step
  have rest := Nat.mod_lt (limit + step - 1) positive
  rw [rounds, Nat.mul_comm]
  omega

/-- Up to the round the limit asks for, the limit is reached in that round only,
and only by a counter that has not wrapped before it. -/
theorem reached_iff (positive : 0 < step) (small : step ≤ size) (below : limit < size) {n : Nat}
    (soon : n ≤ rounds step limit) :
    limit ≤ elapsed size step n ↔ n = rounds step limit ∧ rounds step limit * step < size := by
  have enough := @rounds_enough step limit positive
  rw [elapsed]
  rcases Nat.lt_or_eq_of_le soon with before | last
  · have less := early positive before
    rw [Nat.mod_eq_of_lt (by omega)]
    omega
  · subst last
    by_cases fits : rounds step limit * step < size
    · rw [Nat.mod_eq_of_lt fits]
      exact ⟨fun _ => ⟨rfl, fits⟩, fun _ => enough⟩
    · -- One step earlier the limit was not reached, so the wrapped counter is small.
      have some : 0 < rounds step limit := by
        by_contra none
        rw [Nat.eq_zero_of_not_pos none, Nat.zero_mul] at fits
        omega
      have previous := @early step limit (rounds step limit - 1) positive (by omega)
      have split : (rounds step limit - 1) * step + step = rounds step limit * step := by
        rw [← Nat.succ_mul]
        congr 1
        omega
      rw [Nat.mod_eq_sub_mod (by omega), Nat.mod_eq_of_lt (by omega)]
      omega

/-- What divides the step and the size divides the counter. -/
theorem elapsed_dvd {d n : Nat} (step_dvd : d ∣ step) (size_dvd : d ∣ size) :
    d ∣ elapsed size step n :=
  (Nat.dvd_mod_iff size_dvd).mpr (Dvd.dvd.mul_left step_dvd n)

/-- A limit behind the last such value is never reached. -/
theorem never_reached {d n : Nat} (some : 0 < size) (step_dvd : d ∣ step) (size_dvd : d ∣ size)
    (high : size - d < limit) : elapsed size step n < limit := by
  obtain ⟨q, value⟩ := @elapsed_dvd size step d n step_dvd size_dvd
  obtain ⟨k, whole⟩ := size_dvd
  have inside : elapsed size step n < size := Nat.mod_lt _ some
  rw [value] at inside ⊢
  have fewer : q + 1 ≤ k := by
    rw [whole] at inside
    exact Nat.lt_of_mul_lt_mul_left inside
  have bound := Nat.mul_le_mul_left d fewer
  rw [Nat.mul_succ, ← whole] at bound
  omega

end GspDriver.Elapsed
