import Mathlib

/-!
Unsigned machine words read as natural numbers. Each lemma is one C operator
under the premise that its unbounded result fits the word, so that a caller
which has proved its bounds computes with `toNat` alone. Masks are treated as
the division and remainder they stand for.
-/

namespace GspDriver.Words

theorem add_toNat {x y : UInt64} (fits : x.toNat + y.toNat < 2 ^ 64) :
    (x + y).toNat = x.toNat + y.toNat := by
  rw [UInt64.toNat_add]
  exact Nat.mod_eq_of_lt fits

theorem mul_toNat {x y : UInt64} (fits : x.toNat * y.toNat < 2 ^ 64) :
    (x * y).toNat = x.toNat * y.toNat := by
  rw [UInt64.toNat_mul]
  exact Nat.mod_eq_of_lt fits

theorem sub_toNat {x y : UInt64} (ordered : y.toNat ≤ x.toNat) :
    (x - y).toNat = x.toNat - y.toNat :=
  UInt64.toNat_sub_of_le x y (UInt64.le_iff_toNat_le.mpr ordered)

theorem pos_toNat {x : UInt64} (nonzero : x ≠ 0) : 0 < x.toNat := by
  have differs := mt UInt64.toNat_inj.mp nonzero
  rw [UInt64.toNat_zero] at differs
  exact Nat.pos_of_ne_zero differs

theorem shr_toNat {x shift : UInt64} (small : shift.toNat < 64) :
    (x >>> shift).toNat = x.toNat / 2 ^ shift.toNat := by
  rw [UInt64.toNat_shiftRight, Nat.mod_eq_of_lt small, Nat.shiftRight_eq_div_pow]

theorem shl_toNat {x shift : UInt64} (small : shift.toNat < 64)
    (fits : x.toNat * 2 ^ shift.toNat < 2 ^ 64) :
    (x <<< shift).toNat = x.toNat * 2 ^ shift.toNat := by
  rw [UInt64.toNat_shiftLeft, Nat.mod_eq_of_lt small, Nat.shiftLeft_eq]
  exact Nat.mod_eq_of_lt fits

theorem ofNat_toNat {n : Nat} (fits : n < 2 ^ 64) : (UInt64.ofNat n).toNat = n := by
  rw [UInt64.toNat_ofNat']
  exact Nat.mod_eq_of_lt fits

/-- Keeping the low `k` bits is the remainder by `2 ^ k`. -/
theorem and_mask_toNat (x : UInt64) {mask : UInt64} {k : Nat}
    (shape : mask.toNat = 2 ^ k - 1) : (x &&& mask).toNat = x.toNat % 2 ^ k := by
  rw [UInt64.toNat_and, shape, Nat.and_two_pow_sub_one_eq_mod]

/-- A mask over several words combined is clear only if it is clear in each. -/
theorem or_and_eq_zero (x y mask : UInt64) :
    (x ||| y) &&& mask = 0 ↔ x &&& mask = 0 ∧ y &&& mask = 0 := by
  have split : (x ||| y) &&& mask = (x &&& mask) ||| (y &&& mask) := by
    apply UInt64.toNat_inj.mp
    simp only [UInt64.toNat_and, UInt64.toNat_or]
    exact Nat.and_or_distrib_right _ _ _
  rw [split, UInt64.or_eq_zero_iff]

/-- The usual `x & (2 ^ k - 1)` test admits the multiples of `2 ^ k`. -/
theorem dvd_of_and_mask {x mask : UInt64} {k : Nat} (shape : mask.toNat = 2 ^ k - 1)
    (clear : x &&& mask = 0) : 2 ^ k ∣ x.toNat := by
  have low := and_mask_toNat x shape
  rw [clear] at low
  exact Nat.dvd_of_mod_eq_zero low.symm

theorem bits_split {w : Nat} (x mask : BitVec w) : (x &&& mask) + (x &&& ~~~mask) = x := by
  rw [BitVec.add_eq_or_of_and_eq_zero]
  · ext i inside
    simp only [BitVec.getElem_or, BitVec.getElem_and, BitVec.getElem_not]
    cases x[i] <;> simp
  · ext i inside
    simp only [BitVec.getElem_and, BitVec.getElem_not, BitVec.getElem_zero]
    cases mask[i] <;> simp

/-- Clearing the low `k` bits rounds down to a multiple of `2 ^ k`. -/
theorem bits_round_down {w k : Nat} (x : BitVec w) {mask : BitVec w}
    (shape : mask.toNat = 2 ^ k - 1) : (x &&& ~~~mask).toNat = x.toNat / 2 ^ k * 2 ^ k := by
  have low : (x &&& mask).toNat = x.toNat % 2 ^ k := by
    rw [BitVec.toNat_and, shape, Nat.and_two_pow_sub_one_eq_mod]
  have sum := congrArg BitVec.toNat (bits_split x mask)
  rw [BitVec.toNat_add, low] at sum
  have whole := Nat.div_add_mod' x.toNat (2 ^ k)
  have rest := Nat.mod_le x.toNat (2 ^ k)
  have size := x.isLt
  have part := (x &&& ~~~mask).isLt
  have once : (x.toNat % 2 ^ k + (x &&& ~~~mask).toNat) / 2 ^ w < 2 :=
    Nat.div_lt_of_lt_mul (by omega)
  have turns := Nat.div_add_mod (x.toNat % 2 ^ k + (x &&& ~~~mask).toNat) (2 ^ w)
  rw [sum] at turns
  interval_cases count : (x.toNat % 2 ^ k + (x &&& ~~~mask).toNat) / 2 ^ w <;> omega

theorem and_not_mask_toNat (x : UInt64) {mask : UInt64} {k : Nat}
    (shape : mask.toNat = 2 ^ k - 1) : (x &&& ~~~mask).toNat = x.toNat / 2 ^ k * 2 ^ k :=
  bits_round_down x.toBitVec shape

theorem and_not_mask_toNat32 (x : UInt32) {mask : UInt32} {k : Nat}
    (shape : mask.toNat = 2 ^ k - 1) : (x &&& ~~~mask).toNat = x.toNat / 2 ^ k * 2 ^ k :=
  bits_round_down x.toBitVec shape

/-- Two fields that share no bit are combined by addition. -/
theorem or_toNat {x y : UInt64} {k : Nat} (aligned : 2 ^ k ∣ x.toNat)
    (small : y.toNat < 2 ^ k) : (x ||| y).toNat = x.toNat + y.toNat := by
  obtain ⟨q, shape⟩ := aligned
  rw [UInt64.toNat_or, shape, Nat.two_pow_add_eq_or_of_lt small]

/-- The usual `a & (a - 1)` test admits exactly the powers of two. -/
theorem power_of_and_pred {a : UInt64} (positive : 1 ≤ a.toNat)
    (test : a &&& (a - 1) = 0) : ∃ k < 64, a.toNat = 2 ^ k := by
  have bits : a.toNat &&& (a.toNat - 1) = 0 := by
    have pred : (a - 1).toNat = a.toNat - 1 := sub_toNat (by simpa using positive)
    have same := congrArg UInt64.toNat test
    rwa [UInt64.toNat_and, pred] at same
  obtain ⟨k, shape⟩ :=
    Nat.ne_zero_and_sub_one_eq_zero_iff_isPowerOfTwo.mp ⟨by omega, bits⟩
  refine ⟨k, ?_, shape⟩
  have bound := a.toNat_lt
  rw [shape] at bound
  exact (Nat.pow_lt_pow_iff_right (by omega)).mp bound

/-- A choice by `<` or `>` is a minimum. -/
theorem lesser_toNat (a b : UInt32) : (if a < b then a else b).toNat = min a.toNat b.toNat := by
  by_cases less : a < b
  · rw [if_pos less]
    rw [UInt32.lt_iff_toNat_lt] at less
    omega
  · rw [if_neg less]
    rw [UInt32.not_lt, UInt32.le_iff_toNat_le] at less
    omega

theorem capped_toNat (a limit : UInt32) :
    (if a > limit then limit else a).toNat = min a.toNat limit.toNat := by
  rw [lesser_toNat limit a, Nat.min_comm]

end GspDriver.Words
