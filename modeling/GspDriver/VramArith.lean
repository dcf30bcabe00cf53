import GspDriver.VramPool

/-!
Machine arithmetic of the pool calls. On a pool that meets its invariant every
addition and subtraction is exact. The one that can leave the word is
`value + alignment` in `align_up`: the guard before it admits a sum of exactly
`2 ^ 64`, which wraps to 0 and which the following `- 1` brings back.
-/

namespace GspDriver.VramArith

open Loop Words Vram VramPool

variable {n : Nat}

/-- The operation is exact; the two of `value + alignment - 1` are exact together. -/
def Arith.Exact : Arith → Prop
  | .add x y => (x + y).toNat = x.toNat + y.toNat
  | .sub x y => (x - y).toNat + y.toNat = x.toNat
  | .sumUp x y | .decUp x y =>
      x.toNat + y.toNat ≤ 2 ^ 64 ∧ (x + y - 1).toNat + 1 = x.toNat + y.toNat

def AllExact (steps : List Arith) : Prop := ∀ step ∈ steps, Arith.Exact step

theorem exact_nil : AllExact [] := fun _ member => by cases member

theorem exact_cons {step : Arith} {rest : List Arith} (head : Arith.Exact step)
    (tail : AllExact rest) : AllExact (step :: rest) := by
  intro other member
  rcases List.mem_cons.mp member with same | later
  · exact same ▸ head
  · exact tail other later

theorem exact_append {front back : List Arith} (left : AllExact front) (right : AllExact back) :
    AllExact (front ++ back) := by
  intro step member
  rcases List.mem_append.mp member with first | second
  · exact left step first
  · exact right step second

theorem add_exact {x y : UInt64} (fits : x.toNat + y.toNat < 2 ^ 64) :
    Arith.Exact (.add x y) := add_toNat fits

theorem sub_exact {x y : UInt64} (ordered : y.toNat ≤ x.toNat) : Arith.Exact (.sub x y) := by
  rw [Arith.Exact, sub_toNat ordered]
  omega

/-- Outside `align_up`'s sum, exact means that nothing wraps, and there only the
sum itself does: what it stands for is less by one. -/
theorem exact_wraps {step : Arith} (exact : Arith.Exact step) (wraps : step.Wraps) :
    ∃ value alignment, (step = .sumUp value alignment ∨ step = .decUp value alignment) ∧
      value.toNat + alignment.toNat = 2 ^ 64 ∧
      (value + alignment - 1).toNat = value.toNat + alignment.toNat - 1 := by
  cases step with
  | add x y =>
      have bound := (x + y).toNat_lt
      simp only [Arith.Exact, Arith.Wraps] at exact wraps
      omega
  | sub x y =>
      simp only [Arith.Exact, Arith.Wraps] at exact wraps
      omega
  | sumUp x y =>
      simp only [Arith.Exact, Arith.Wraps] at exact wraps
      exact ⟨x, y, Or.inl rfl, by omega, by omega⟩
  | decUp x y =>
      simp only [Arith.Exact, Arith.Wraps] at exact wraps
      refine ⟨x, y, Or.inr rfl, ?_, by omega⟩
      have bound := (x + y - 1).toNat_lt
      have zero : x + y = 0 := by
        apply UInt64.toNat_inj.mp
        rw [UInt64.toNat_zero]
        omega
      have top : (0 - 1 : UInt64).toNat = 2 ^ 64 - 1 := by decide
      rw [zero, top] at exact
      omega

theorem alignmentArith_exact (alignment : UInt64) : AllExact (alignmentArith alignment) := by
  rw [alignmentArith]
  split
  · rename_i large
    rw [UInt64.le_iff_toNat_le] at large
    have page : nvVramPageBytes.toNat = 4096 := by decide
    exact exact_cons (sub_exact (by rw [UInt64.toNat_one]; omega)) exact_nil
  · exact exact_nil

theorem alignUpArith_exact {value alignment : UInt64}
    (valid : alignmentValid alignment = true) : AllExact (alignUpArith value alignment) := by
  obtain ⟨k, small, _, shape⟩ := alignment_pow valid
  have positive := Nat.two_pow_pos k
  have bound := alignment.toNat_lt
  have top : uint64Max.toNat = 2 ^ 64 - 1 := by decide
  have dec : Arith.Exact (.sub alignment 1) := sub_exact (by rw [UInt64.toNat_one]; omega)
  have pred : (alignment - 1).toNat = alignment.toNat - 1 :=
    sub_toNat (by rw [UInt64.toNat_one]; omega)
  have gap : (uint64Max - (alignment - 1)).toNat = 2 ^ 64 - alignment.toNat := by
    rw [sub_toNat (by omega), top, pred]
    omega
  rw [alignUpArith]
  apply exact_append
  · exact exact_cons dec (exact_cons (sub_exact (by omega)) exact_nil)
  · split
    · exact exact_nil
    · rename_i fits
      rw [gt_iff_lt, UInt64.not_lt, UInt64.le_iff_toNat_le, gap] at fits
      have whole : (value + alignment - 1).toNat = value.toNat + (alignment.toNat - 1) := by
        rw [add_sub_assoc, add_toNat (by omega), pred]
      have pair : value.toNat + alignment.toNat ≤ 2 ^ 64 ∧
          (value + alignment - 1).toNat + 1 = value.toNat + alignment.toNat := by omega
      exact exact_cons pair (exact_cons pair (exact_cons dec exact_nil))

section Pool

variable {p : NvVramPool n} (inv : PoolInv p)
include inv

theorem raiseArith_exact {candidate bytes : UInt64} (next : UInt64)
    (room : candidate.toNat + bytes.toNat ≤ p.size.toNat) (i : Fin n) :
    AllExact (raiseArith candidate bytes next (p.allocations i)) := by
  rw [raiseArith]
  split
  · exact exact_nil
  rename_i live
  have inside := inv.inside i live
  have size := p.size.toNat_lt
  rw [limit] at inside
  have ends : Arith.Exact (.add (p.allocations i).offset (p.allocations i).size) :=
    add_exact (by omega)
  apply exact_cons ends
  split
  · exact exact_nil
  apply exact_cons (add_exact (by omega))
  split
  · exact exact_nil
  apply exact_cons ends
  split
  · exact exact_cons ends exact_nil
  · exact exact_nil

theorem collideArith_exact {candidate bytes : UInt64}
    (room : candidate.toNat + bytes.toNat ≤ p.size.toNat) :
    AllExact (collideArith p bytes candidate) := by
  have swept : ∀ (table : List (Fin n)) (next : UInt64),
      AllExact (collideArithFrom p candidate bytes next table) := by
    intro table
    induction table with
    | nil => exact fun _ => exact_nil
    | cons i rest ih =>
        intro next
        exact exact_append (raiseArith_exact inv next room i) (ih _)
  exact swept slots candidate

theorem scanArith_exact {bytes alignment : UInt64} (valid : alignmentValid alignment = true)
    (budget : p.used.toNat + bytes.toNat ≤ p.size.toNat)
    (handles : p.nextHandle.toNat + 1 < 2 ^ 64) (candidate : UInt64) :
    AllExact (scanArith p bytes alignment candidate) := by
  have size := p.size.toNat_lt
  have fits := inv.vaFits
  unfold scanArith
  -- The test's subtraction, the search for a collision, and the next candidate.
  apply exact_append
  · split
    · rename_i below
      exact exact_cons (sub_exact (UInt64.le_iff_toNat_le.mp below)) exact_nil
    · exact exact_nil
  by_cases test : candidate ≤ p.size ∧ bytes ≤ p.size - candidate
  · have room := room_test test
    have within := collide_bound inv candidate bytes (by omega)
    have inner := collideArith_exact inv room
    rw [if_pos test]
    generalize collide p bytes candidate = next at within
    have sum : (p.va + next).toNat = p.va.toNat + next.toNat := add_toNat (by omega)
    apply exact_append inner
    split
    · exact exact_cons (add_exact (by rw [UInt64.toNat_one]; omega))
        (exact_cons (add_exact (by omega)) exact_nil)
    · apply exact_append
      · exact exact_cons (add_exact (by omega)) (alignUpArith_exact valid)
      · cases rounded : alignUp (p.va + next) alignment with
        | none => exact exact_nil
        | some address =>
            obtain ⟨_, above, _⟩ := (alignUp_spec valid).1 address rounded
            exact exact_cons (sub_exact (by omega)) exact_nil
  · rw [if_neg test]
    exact exact_nil

theorem allocArith_exact (bytes alignment : UInt64) : AllExact (allocArith p bytes alignment) := by
  have usedLe := inv.used_le
  unfold allocArith
  split
  · exact exact_nil
  apply exact_append (alignmentArith_exact alignment)
  split
  · exact exact_nil
  rename_i valid
  rw [not_not] at valid
  apply exact_append (alignUpArith_exact page_valid)
  cases alignUp bytes nvVramPageBytes with
  | none => exact exact_nil
  | some rounded =>
  simp only
  split
  · exact exact_nil
  rename_i admitted
  simp only [not_or] at admitted
  apply exact_cons (sub_exact usedLe)
  split
  · exact exact_nil
  rename_i budget
  rw [gt_iff_lt, UInt64.not_lt, UInt64.le_iff_toNat_le, sub_toNat usedLe] at budget
  have handles := handle_left admitted.2.1
  cases freeSlot p with
  | none => exact exact_nil
  | some slot =>
  apply exact_append (alignUpArith_exact valid)
  cases start : alignUp p.va alignment with
  | none => exact exact_nil
  | some address =>
  obtain ⟨_, above, _⟩ := (alignUp_spec valid).1 address start
  apply exact_cons (sub_exact above)
  exact while_logs _ _ (fun _ => True) Arith.Exact (fun _ _ _ _ => trivial)
    (fun candidate _ => scanArith_exact inv valid (by omega) handles candidate) _ _ trivial

theorem freeArith_exact (handle : UInt64) : AllExact (freeArith p handle) := by
  rw [freeArith]
  split
  · exact exact_nil
  split
  · rename_i i found
    exact exact_cons (sub_exact (size_le_used inv)) exact_nil
  · exact exact_nil

theorem resolveArith_exact (handle offset bytes : UInt64) :
    AllExact (resolveArith p handle offset bytes) := by
  unfold resolveArith
  split
  · exact exact_nil
  rename_i admitted
  cases found : findHandle p handle with
  | none => exact exact_nil
  | some i =>
  have live : Live p i := by
    rw [Live, findHandle_handle found]
    exact fun zero => admitted (Or.inl zero)
  have inside := inv.inside i live
  have physFits := inv.physFits
  have vaFits := inv.vaFits
  rw [limit] at inside
  simp only
  split
  · exact exact_nil
  rename_i below
  rw [gt_iff_lt, UInt64.not_lt, UInt64.le_iff_toNat_le] at below
  apply exact_cons (sub_exact below)
  split
  · exact exact_nil
  rename_i room
  have physBase := add_toNat (x := p.phys) (y := (p.allocations i).offset) (by omega)
  have vaBase := add_toNat (x := p.va) (y := (p.allocations i).offset) (by omega)
  exact exact_cons (add_exact (by omega)) (exact_cons (add_exact (by omega))
    (exact_cons (add_exact (by omega)) (exact_cons (add_exact (by omega)) exact_nil)))

end Pool

end GspDriver.VramArith
