import GspDriver.Gmmu

/-!
Geometry of a planned range. `shiftOf` gives the address bits that one table
of a level spans, and for 5 the bits of a page; level `n` holds `fanOf n`
entries per table. The tables of all levels lie in one arena, level after
level, each for one address prefix that meets the range.
-/

namespace GspDriver.GmmuRange

open Bytes LittleEndian Loop Words Pramin Radix Gmmu

def shiftOf (n : Nat) : Nat := [49, 47, 38, 29, 21, 12].getD n 0
def fanOf (n : Nat) : Nat := [4, 512, 512, 256, 512].getD n 1
def slotOffset (n index : Nat) : Nat := if n = 3 then 16 * index + 8 else 8 * index

theorem scale (n : Nat) (level : n < 5) :
    2 ^ shiftOf n = 2 ^ shiftOf (n + 1) * fanOf n := by
  interval_cases n <;> rfl

theorem rangeShift_toNat (n : Nat) (level : n < 5) : (rangeShift n).toNat = shiftOf n := by
  interval_cases n <;> rfl

theorem shiftOf_bounds (n : Nat) (level : n < 5) : 21 ≤ shiftOf n ∧ shiftOf n ≤ 49 := by
  interval_cases n <;> decide

theorem fanOf_pow (n : Nat) (level : n < 5) :
    ∃ k, fanOf n = 2 ^ k ∧ (rangeEntries n - 1).toNat = 2 ^ k - 1 := by
  interval_cases n
  · exact ⟨2, rfl, rfl⟩
  · exact ⟨9, rfl, rfl⟩
  · exact ⟨9, rfl, rfl⟩
  · exact ⟨8, rfl, rfl⟩
  · exact ⟨9, rfl, rfl⟩

/-- Tables of the levels above `n`. -/
def before (lo hi : Nat) : Nat → Nat
  | 0 => 0
  | n + 1 => before lo hi n + span lo hi (shiftOf n)

variable {lo hi : Nat}

theorem before_mono {n m : Nat} (ordered : n ≤ m) : before lo hi n ≤ before lo hi m := by
  induction m, ordered using Nat.le_induction with
  | base => exact Nat.le_refl _
  | succ m _ ih => exact Nat.le_trans ih (Nat.le_add_right _ _)

/-- Two tables at one place in the arena are the same table. -/
theorem place_inj {n m i j : Nat} (left : i < span lo hi (shiftOf n))
    (right : j < span lo hi (shiftOf m))
    (same : before lo hi n + i = before lo hi m + j) : n = m ∧ i = j := by
  rcases Nat.lt_trichotomy n m with less | equal | more
  · have above : before lo hi (n + 1) ≤ before lo hi m := before_mono less
    rw [before] at above
    omega
  · subst m
    exact ⟨rfl, by omega⟩
  · have above : before lo hi (m + 1) ≤ before lo hi n := before_mono more
    rw [before] at above
    omega

theorem span_bound {shift : Nat} (wide : 21 ≤ shift) (inside : hi < 2 ^ 49) :
    span lo hi shift ≤ 2 ^ 28 := by
  have coarse : hi / 2 ^ shift ≤ hi / 2 ^ 21 :=
    Nat.div_le_div_left (Nat.pow_le_pow_right (by omega) wide) (by decide)
  have top : hi / 2 ^ 21 < 2 ^ 28 := by omega
  have less := Nat.sub_le (hi / 2 ^ shift) (lo / 2 ^ shift)
  rw [span]
  omega

theorem before_bound (n : Nat) (level : n ≤ 5) (inside : hi < 2 ^ 49) :
    before lo hi n ≤ n * 2 ^ 28 := by
  induction n with
  | zero => simp [before]
  | succ n ih =>
      have front := ih (by omega)
      have wide := (shiftOf_bounds n (by omega)).1
      have here : span lo hi (shiftOf n) ≤ 2 ^ 28 := span_bound wide inside
      rw [before]
      omega

def low (r : NvGmmuRange) : Nat := r.va.toNat
def high (r : NvGmmuRange) : Nat := r.va.toNat + r.bytes.toNat - 1

/-- What an accepted plan guarantees. -/
structure Planned (r : NvGmmuRange) : Prop where
  vaPage : 2 ^ 12 ∣ r.va.toNat
  bytesPage : 2 ^ 12 ∣ r.bytes.toNat
  arenaPage : 2 ^ 12 ∣ r.tablePhys.toNat
  nonempty : 0 < r.bytes.toNat
  inside : r.va.toNat + r.bytes.toNat ≤ 2 ^ 49
  size : r.bytes.toNat ≤ 2 ^ 40
  phys : ∀ n < 5, (r.levelPhys n).toNat = r.tablePhys.toNat + 4096 * before (low r) (high r) n
  count : ∀ n < 5, (r.levelCount n).toNat = span (low r) (high r) (shiftOf n)
  total : r.tableBytes.toNat = 4096 * before (low r) (high r) 5
  fits : r.tablePhys.toNat + r.tableBytes.toNat ≤ reach

/-- The plan after its first `n` levels. -/
structure Partial (va bytes tablePhys : UInt64) (lo hi n : Nat) (p : NvGmmuRange) : Prop where
  va_eq : p.va = va
  bytes_eq : p.bytes = bytes
  arena_eq : p.tablePhys = tablePhys
  phys : ∀ i < n, (p.levelPhys i).toNat = tablePhys.toNat + 4096 * before lo hi i
  count : ∀ i < n, (p.levelCount i).toNat = span lo hi (shiftOf i)
  total : p.tableBytes.toNat = 4096 * before lo hi n

theorem planLevel_spec (va bytes tablePhys last : UInt64) (n : Nat) (p : NvGmmuRange)
    (level : n < 5) (inside : last.toNat < 2 ^ 49) (ordered : va.toNat ≤ last.toNat)
    (arena : tablePhys.toNat < 2 ^ 40)
    (reached : Partial va bytes tablePhys va.toNat last.toNat n p) :
    Partial va bytes tablePhys va.toNat last.toNat (n + 1) (planLevel last n p) := by
  have bounds := shiftOf_bounds n level
  have shift := rangeShift_toNat n level
  have highPart : (last >>> rangeShift n).toNat = last.toNat / 2 ^ shiftOf n := by
    rw [shr_toNat (by omega), shift]
  have lowPart : (p.va >>> rangeShift n).toNat = va.toNat / 2 ^ shiftOf n := by
    rw [shr_toNat (by omega), shift, reached.va_eq]
  have monotone : va.toNat / 2 ^ shiftOf n ≤ last.toNat / 2 ^ shiftOf n :=
    Nat.div_le_div_right ordered
  have few : span va.toNat last.toNat (shiftOf n) ≤ 2 ^ 28 := span_bound bounds.1 inside
  have front : before va.toNat last.toNat n ≤ n * 2 ^ 28 := before_bound n (by omega) inside
  have counted : ((last >>> rangeShift n) - (p.va >>> rangeShift n) + 1).toNat =
      span va.toNat last.toNat (shiftOf n) := by
    have difference := sub_toNat (x := last >>> rangeShift n) (y := p.va >>> rangeShift n)
      (by omega)
    rw [span] at few ⊢
    rw [add_toNat (by rw [difference, UInt64.toNat_one]; omega), difference, highPart, lowPart,
      UInt64.toNat_one]
  have page : gmmuPageBytes.toNat = 4096 := by decide
  have added : (((last >>> rangeShift n) - (p.va >>> rangeShift n) + 1) * gmmuPageBytes).toNat =
      span va.toNat last.toNat (shiftOf n) * 4096 := by
    rw [mul_toNat (by rw [counted, page]; omega), counted, page]
  have total := reached.total
  -- The step fills in level `n` and leaves the levels before it.
  refine ⟨reached.va_eq, reached.bytes_eq, reached.arena_eq, ?_, ?_, ?_⟩
  · intro i below
    by_cases here : i = n
    · subst i
      simp only [planLevel, ↓reduceIte, reached.arena_eq]
      rw [add_toNat (by omega), total]
    · simp only [planLevel, if_neg here]
      exact reached.phys i (by omega)
  · intro i below
    by_cases here : i = n
    · subst i
      simp only [planLevel, ↓reduceIte, UInt64.toNat_toUInt32, counted]
      omega
    · simp only [planLevel, if_neg here]
      exact reached.count i (by omega)
  · simp only [planLevel]
    rw [add_toNat (by omega), added, total, before]
    ring

/-- The arguments the planner accepts, short of the room for the tables. -/
structure Admitted (va bytes tablePhys : UInt64) : Prop where
  vaPage : 2 ^ 12 ∣ va.toNat
  bytesPage : 2 ^ 12 ∣ bytes.toNat
  arenaPage : 2 ^ 12 ∣ tablePhys.toNat
  nonempty : 0 < bytes.toNat
  inside : va.toNat + bytes.toNat ≤ 2 ^ 49
  size : bytes.toNat ≤ 2 ^ 40
  arena : tablePhys.toNat < 2 ^ 40

theorem page_mask (x : UInt64) : x &&& (gmmuPageBytes - 1) = 0 ↔ 2 ^ 12 ∣ x.toNat := by
  have mask : (gmmuPageBytes - 1).toNat = 2 ^ 12 - 1 := by decide
  constructor
  · exact dvd_of_and_mask mask
  · intro page
    apply UInt64.toNat_inj.mp
    rw [and_mask_toNat x mask, UInt64.toNat_zero]
    exact Nat.mod_eq_zero_of_dvd page

theorem admitted_iff (va bytes tablePhys : UInt64) :
    ¬ (bytes = 0 ∨ ((va ||| bytes ||| tablePhys) &&& (gmmuPageBytes - 1)) ≠ 0 ∨
        va ≥ (1 : UInt64) <<< nvGmmuVaBits ∨ bytes > (1 : UInt64) <<< nvGmmuVaBits - va ∨
        bytes > praminPhysEnd ∨ tablePhys ≥ praminPhysEnd) ↔ Admitted va bytes tablePhys := by
  have vaEnd : ((1 : UInt64) <<< nvGmmuVaBits).toNat = 2 ^ 49 := by decide
  have physEnd : praminPhysEnd.toNat = 2 ^ 40 := by decide
  have zero : bytes = 0 ↔ bytes.toNat = 0 := by rw [← UInt64.toNat_inj, UInt64.toNat_zero]
  simp only [not_or, not_not, ge_iff_le, gt_iff_lt, UInt64.not_le, UInt64.not_lt]
  rw [or_and_eq_zero, or_and_eq_zero, page_mask, page_mask, page_mask, zero,
    UInt64.lt_iff_toNat_lt, UInt64.le_iff_toNat_le, UInt64.le_iff_toNat_le,
    UInt64.lt_iff_toNat_lt, vaEnd, physEnd]
  constructor
  · rintro ⟨nonzero, ⟨⟨vaPage, bytesPage⟩, arenaPage⟩, below, room, limit, arena⟩
    rw [sub_toNat (by rw [vaEnd]; omega), vaEnd] at room
    exact ⟨vaPage, bytesPage, arenaPage, by omega, by omega, limit, arena⟩
  · rintro ⟨vaPage, bytesPage, arenaPage, nonempty, inside, size, arena⟩
    refine ⟨by omega, ⟨⟨vaPage, bytesPage⟩, arenaPage⟩, by omega, ?_, size, arena⟩
    rw [sub_toNat (by rw [vaEnd]; omega), vaEnd]
    omega

/-- The planner counts the tables first and compares with the room afterwards. -/
theorem plan_returns {va bytes tablePhys : UInt64} (admitted : Admitted va bytes tablePhys) :
    ∃ p, Partial va bytes tablePhys va.toNat (va.toNat + bytes.toNat - 1) 5 p ∧
      ∀ capacity, nvGmmuRangePlan va bytes tablePhys capacity =
        if 2 ^ 40 < tablePhys.toNat + p.tableBytes.toNat then (-1, .zero)
        else (if capacity < p.tableBytes then -2 else 0, p) := by
  obtain ⟨_, _, _, nonempty, inside, size, arena⟩ := admitted
  have sum : (va + bytes).toNat = va.toNat + bytes.toNat := add_toNat (by omega)
  have last : (va + bytes - 1).toNat = va.toNat + bytes.toNat - 1 := by
    rw [sub_toNat (by rw [sum, UInt64.toNat_one]; omega), sum, UInt64.toNat_one]
  have swept := forCount_invariant nvGmmuLevels (planLevel (va + bytes - 1))
    { NvGmmuRange.zero with va := va, bytes := bytes, tablePhys := tablePhys }
    (Partial va bytes tablePhys va.toNat (va + bytes - 1).toNat)
    ⟨rfl, rfl, rfl, by simp, by simp, rfl⟩
    (fun n level p => planLevel_spec va bytes tablePhys (va + bytes - 1) n p level
      (by omega) (by omega) arena)
  rw [last] at swept
  refine ⟨_, swept, fun capacity => ?_⟩
  have physEnd : praminPhysEnd.toNat = 2 ^ 40 := by decide
  simp only [nvGmmuRangePlan, if_neg ((admitted_iff va bytes tablePhys).mpr
    ⟨‹_›, ‹_›, ‹_›, nonempty, inside, size, arena⟩)]
  generalize forCount nvGmmuLevels (planLevel (va + bytes - 1)) _ = p
  have room : p.tableBytes > praminPhysEnd - tablePhys ↔
      2 ^ 40 < tablePhys.toNat + p.tableBytes.toNat := by
    rw [gt_iff_lt, UInt64.lt_iff_toNat_lt, sub_toNat (by omega), physEnd]
    omega
  simp only [room]

theorem plan_refuses {va bytes tablePhys : UInt64} (refused : ¬ Admitted va bytes tablePhys)
    (capacity : UInt64) : nvGmmuRangePlan va bytes tablePhys capacity = (-1, .zero) := by
  rw [← admitted_iff, not_not] at refused
  simp only [nvGmmuRangePlan, if_pos refused]

theorem partial_planned {va bytes tablePhys : UInt64} {r : NvGmmuRange}
    (admitted : Admitted va bytes tablePhys)
    (counted : Partial va bytes tablePhys va.toNat (va.toNat + bytes.toNat - 1) 5 r)
    (fits : tablePhys.toNat + r.tableBytes.toNat ≤ 2 ^ 40) : Planned r := by
  obtain ⟨rfl, rfl, rfl, phys, count, total⟩ := counted
  exact {
    vaPage := admitted.vaPage
    bytesPage := admitted.bytesPage
    arenaPage := admitted.arenaPage
    nonempty := admitted.nonempty
    inside := admitted.inside
    size := admitted.size
    phys := phys
    count := count
    total := total
    fits := fits }

theorem plan_spec (va bytes tablePhys capacity : UInt64) (r : NvGmmuRange)
    (accepted : nvGmmuRangePlan va bytes tablePhys capacity = (0, r)) :
    r.va = va ∧ r.bytes = bytes ∧ r.tablePhys = tablePhys ∧ Planned r := by
  by_cases admitted : Admitted va bytes tablePhys
  · obtain ⟨p, counted, returned⟩ := plan_returns admitted
    rw [returned capacity] at accepted
    split at accepted
    · simp at accepted
    rename_i fits
    obtain rfl : p = r := congrArg Prod.snd accepted
    exact ⟨counted.va_eq, counted.bytes_eq, counted.arena_eq,
      partial_planned admitted counted (by omega)⟩
  · rw [plan_refuses admitted] at accepted
    simp at accepted

end GspDriver.GmmuRange
