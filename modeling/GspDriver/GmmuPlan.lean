import GspDriver.GmmuFrame

/-!
The planner against a count of tables. A range touches a table of a level when
one of its addresses has the table's prefix; the planner never enumerates them,
it subtracts the shifted ends of the range. The plan and its size do not depend
on the capacity, so a caller may ask with any capacity, read the size, and ask
again.
-/

namespace GspDriver.GmmuPlan

open Pramin Radix Gmmu GmmuRange GmmuFrame

/-- The prefixes of the tables of level `n` that hold an address of the range. -/
def touched (va bytes n : Nat) : Finset Nat :=
  (Finset.Ico va (va + bytes)).image (· / 2 ^ shiftOf n)

def touchedBytes (va bytes : Nat) : Nat :=
  ∑ n ∈ Finset.range 5, 4096 * (touched va bytes n).card

/-- The requests that have a plan. -/
structure Plannable (va bytes tablePhys : Nat) : Prop where
  nonempty : bytes ≠ 0
  vaPage : 4096 ∣ va
  bytesPage : 4096 ∣ bytes
  arenaPage : 4096 ∣ tablePhys
  inside : va + bytes ≤ 2 ^ 49
  size : bytes ≤ 2 ^ 40
  room : tablePhys + touchedBytes va bytes ≤ 2 ^ 40

/-- The plan of a request: one table for each prefix, the levels back to back. -/
structure Exact (va bytes tablePhys : UInt64) (r : NvGmmuRange) : Prop where
  va_eq : r.va = va
  bytes_eq : r.bytes = bytes
  arena_eq : r.tablePhys = tablePhys
  count : ∀ n < 5, (r.levelCount n).toNat = (touched va.toNat bytes.toNat n).card
  first : r.levelPhys 0 = tablePhys
  next : ∀ n < 4, (r.levelPhys (n + 1)).toNat =
    (r.levelPhys n).toNat + 4096 * (r.levelCount n).toNat
  last : (r.levelPhys 4).toNat + 4096 * (r.levelCount 4).toNat =
    tablePhys.toNat + r.tableBytes.toNat
  total : r.tableBytes.toNat = touchedBytes va.toNat bytes.toNat

/-- What one call of the planner promises, and what later calls may rely on. -/
structure Contract (va bytes tablePhys : UInt64) (rc : Int) (r : NvGmmuRange) : Prop where
  codes : rc = 0 ∨ rc = -1 ∨ rc = -2
  exact : rc = 0 ∨ rc = -2 → Exact va bytes tablePhys r
  independent : ∀ capacity, (nvGmmuRangePlan va bytes tablePhys capacity).2 = r
  smallest : rc = 0 ∨ rc = -2 → ∀ capacity,
    (nvGmmuRangePlan va bytes tablePhys capacity).1 = 0 ↔ r.tableBytes ≤ capacity
  retry : rc = 0 ∨ rc = -2 → nvGmmuRangePlan va bytes tablePhys r.tableBytes = (0, r)
  refused : rc = -1 ↔ ¬ Plannable va.toNat bytes.toNat tablePhys.toNat
  zeroed : rc = -1 → r = .zero
  built : rc = 0 → ∀ s phys, (nvGmmuRangeBuild s r phys).1 = 0 ↔ Placed r phys

/-! The count of prefixes. -/

theorem touched_eq {va bytes : Nat} (nonempty : bytes ≠ 0) (n : Nat) :
    touched va bytes n =
      Finset.Icc (va / 2 ^ shiftOf n) ((va + bytes - 1) / 2 ^ shiftOf n) := by
  have size : 0 < 2 ^ shiftOf n := Nat.two_pow_pos _
  ext q
  simp only [touched, Finset.mem_image, Finset.mem_Ico, Finset.mem_Icc]
  constructor
  · rintro ⟨a, ⟨above, below⟩, rfl⟩
    exact ⟨Nat.div_le_div_right above, Nat.div_le_div_right (by omega)⟩
  · rintro ⟨above, below⟩
    -- the first address of the prefix, or of the range where that comes later
    refine ⟨max va (q * 2 ^ shiftOf n), ⟨by omega, ?_⟩, ?_⟩
    · have start := Nat.mul_le_mul_right (2 ^ shiftOf n) below
      have whole := Nat.div_mul_le_self (va + bytes - 1) (2 ^ shiftOf n)
      omega
    · apply Nat.le_antisymm
      · apply Nat.le_of_lt_succ
        rw [Nat.div_lt_iff_lt_mul size, Nat.succ_mul]
        have ends := Nat.lt_div_mul_add size (a := va)
        have start := Nat.mul_le_mul_right (2 ^ shiftOf n) above
        omega
      · rw [Nat.le_div_iff_mul_le size]
        omega

theorem touched_card {va bytes : Nat} (nonempty : bytes ≠ 0) (n : Nat) :
    (touched va bytes n).card = span va (va + bytes - 1) (shiftOf n) := by
  have monotone : va / 2 ^ shiftOf n ≤ (va + bytes - 1) / 2 ^ shiftOf n :=
    Nat.div_le_div_right (by omega)
  rw [touched_eq nonempty, Nat.card_Icc, span]
  omega

theorem touched_total {va bytes : Nat} (nonempty : bytes ≠ 0) :
    touchedBytes va bytes = 4096 * before va (va + bytes - 1) 5 := by
  have counts : touchedBytes va bytes =
      ∑ n ∈ Finset.range 5, 4096 * span va (va + bytes - 1) (shiftOf n) :=
    Finset.sum_congr rfl fun n _ => by rw [touched_card nonempty]
  rw [counts]
  simp only [Finset.sum_range_succ, Finset.sum_range_zero, before]
  ring

theorem plannable_iff {va bytes tablePhys : UInt64} :
    Plannable va.toNat bytes.toNat tablePhys.toNat ↔
      Admitted va bytes tablePhys ∧
        tablePhys.toNat + 4096 * before va.toNat (va.toNat + bytes.toNat - 1) 5 ≤ 2 ^ 40 := by
  constructor
  · rintro ⟨nonempty, vaPage, bytesPage, arenaPage, inside, size, room⟩
    rw [touched_total nonempty] at room
    have some : 0 < before va.toNat (va.toNat + bytes.toNat - 1) 5 := by
      simp only [before, span]
      omega
    exact ⟨⟨vaPage, bytesPage, arenaPage, by omega, inside, size, by omega⟩, room⟩
  · rintro ⟨⟨vaPage, bytesPage, arenaPage, nonempty, inside, size, _⟩, room⟩
    refine ⟨by omega, vaPage, bytesPage, arenaPage, inside, size, ?_⟩
    rwa [touched_total (by omega)]

theorem partial_exact {va bytes tablePhys : UInt64} {r : NvGmmuRange} (nonempty : bytes.toNat ≠ 0)
    (counted : Partial va bytes tablePhys va.toNat (va.toNat + bytes.toNat - 1) 5 r) :
    Exact va bytes tablePhys r := by
  have zero : before va.toNat (va.toNat + bytes.toNat - 1) 0 = 0 := rfl
  refine ⟨counted.va_eq, counted.bytes_eq, counted.arena_eq, ?_, ?_, ?_, ?_, ?_⟩
  · intro n level
    rw [counted.count n level, touched_card nonempty]
  · apply UInt64.toNat_inj.mp
    rw [counted.phys 0 (by omega), zero]
    rfl
  · intro n level
    rw [counted.phys (n + 1) (by omega), counted.phys n (by omega), counted.count n (by omega),
      before]
    ring
  · have rows : before va.toNat (va.toNat + bytes.toNat - 1) 5 =
        before va.toNat (va.toNat + bytes.toNat - 1) 4 +
          span va.toNat (va.toNat + bytes.toNat - 1) (shiftOf 4) := rfl
    rw [counted.phys 4 (by omega), counted.count 4 (by omega), counted.total, rows]
    ring
  · rw [counted.total, touched_total nonempty]

/-- Every request gets its exact plan, or the code -1 and an empty one. -/
theorem plan_decides (va bytes tablePhys : UInt64) :
    (Plannable va.toNat bytes.toNat tablePhys.toNat ∧
        ∃ r, Exact va bytes tablePhys r ∧ Planned r ∧ ∀ capacity,
          nvGmmuRangePlan va bytes tablePhys capacity =
            (if capacity < r.tableBytes then -2 else 0, r)) ∨
      (¬ Plannable va.toNat bytes.toNat tablePhys.toNat ∧
        ∀ capacity, nvGmmuRangePlan va bytes tablePhys capacity = (-1, .zero)) := by
  -- The plan is computed before the window's end is checked against it.
  by_cases admitted : Admitted va bytes tablePhys
  · obtain ⟨r, counted, returned⟩ := plan_returns admitted
    have total := counted.total
    have nonempty := admitted.nonempty
    by_cases room : tablePhys.toNat + r.tableBytes.toNat ≤ 2 ^ 40
    · left
      refine ⟨plannable_iff.mpr ⟨admitted, by omega⟩, r, partial_exact (by omega) counted,
        partial_planned admitted counted room, fun capacity => ?_⟩
      rw [returned capacity, if_neg (by omega)]
    · right
      refine ⟨fun plannable => ?_, fun capacity => ?_⟩
      · have fits := (plannable_iff.mp plannable).2
        omega
      · rw [returned capacity, if_pos (by omega)]
  · right
    exact ⟨fun plannable => admitted (plannable_iff.mp plannable).1,
      fun capacity => plan_refuses admitted capacity⟩

/-- The tables of a plan are built exactly where they may be. -/
theorem build_accepts {r : NvGmmuRange} (planned : Planned r) (s : Aperture) (phys : UInt64) :
    (nvGmmuRangeBuild s r phys).1 = 0 ↔ Placed r phys := by
  rcases build_returns s r phys with ⟨_, placed, returned⟩ | ⟨refused, returned⟩
  · rw [returned]
    exact iff_of_true rfl placed
  · rw [returned]
    exact iff_of_false (by simp) fun placed => refused ⟨planned, placed⟩

theorem range_plan_exact (va bytes tablePhys capacity : UInt64) :
    Contract va bytes tablePhys (nvGmmuRangePlan va bytes tablePhys capacity).1
      (nvGmmuRangePlan va bytes tablePhys capacity).2 := by
  rcases plan_decides va bytes tablePhys with
    ⟨plannable, r, exact, planned, returned⟩ | ⟨refused, returned⟩
  · rw [returned capacity]
    constructor
    · split
      · exact Or.inr (Or.inr rfl)
      · exact Or.inl rfl
    · exact fun _ => exact
    · exact fun other => by rw [returned other]
    · intro _ other
      rw [returned other]
      split
      · rename_i small
        exact iff_of_false (by simp) (UInt64.not_le.mpr small)
      · rename_i enough
        exact iff_of_true rfl (UInt64.not_lt.mp enough)
    · intro _
      rw [returned r.tableBytes, if_neg (UInt64.lt_irrefl _)]
    · refine iff_of_false ?_ (not_not.mpr plannable)
      split <;> simp
    · intro code
      split at code <;> cases code
    · exact fun _ s phys => build_accepts planned s phys
  · have differs : ¬ ((-1 : Int) = 0 ∨ (-1 : Int) = -2) := by decide
    rw [returned capacity]
    constructor
    · exact Or.inr (Or.inl rfl)
    · exact fun code => absurd code differs
    · exact fun other => by rw [returned other]
    · exact fun code => absurd code differs
    · exact fun code => absurd code differs
    · exact iff_of_true rfl refused
    · exact fun _ => rfl
    · intro code
      cases code

end GspDriver.GmmuPlan
