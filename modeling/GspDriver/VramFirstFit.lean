import GspDriver.VramRange

/-!
First fit in the pool. On a pool that meets its invariant `nv_vram_alloc`
succeeds exactly when a place exists, and takes the lowest. The scan passes no
place on the way; the check against `used` before it refuses nothing that would
fit, since live allocations lie apart.
-/

namespace GspDriver.VramFirstFit

open Loop Words FirstFit Vram VramPool VramRange

variable {n : Nat}

/-- A place between the live allocations, aligned in the client's address space. -/
structure FitsAt (p : NvVramPool n) (bytes alignment place : Nat) : Prop where
  room : place + bytes ≤ p.size.toNat
  aligned : alignment ∣ p.va.toNat + place
  free : ∀ i, Live p i → limit (p.allocations i) ≤ place ∨
    place + bytes ≤ (p.allocations i).offset.toNat

theorem raise_passes {p : NvVramPool n} (inv : PoolInv p) {candidate bytes next : UInt64}
    {alignment place : Nat} (fits : FitsAt p bytes.toNat alignment place)
    (start : candidate.toNat ≤ place)
    (word : candidate.toNat + bytes.toNat < 2 ^ 64) (below : next.toNat ≤ place) (i : Fin n) :
    (raise candidate bytes next (p.allocations i)).toNat ≤ place := by
  rw [raise]
  split
  · rename_i moved
    obtain ⟨live, _, touched, _⟩ := moved
    rw [UInt64.lt_iff_toNat_lt, add_toNat word] at touched
    rw [limit_word inv i live]
    have apart := fits.free i live
    omega
  · exact below

section Scan

variable {p : NvVramPool n} (inv : PoolInv p) {bytes alignment : UInt64}
include inv

/-- A collision passes no place. -/
theorem collide_passes {candidate : UInt64} {place : Nat}
    (fits : FitsAt p bytes.toNat alignment.toNat place) (start : candidate.toNat ≤ place) :
    (collide p bytes candidate).toNat ≤ place := by
  have room := fits.room
  have word := p.size.toNat_lt
  have swept : ∀ (table : List (Fin n)) (next : UInt64), next.toNat ≤ place →
      (collideOver p candidate bytes table next).toNat ≤ place := by
    intro table
    induction table with
    | nil => exact fun _ below => below
    | cons i rest ih =>
        intro next below
        exact ih _ (raise_passes inv fits start (by omega) below i)
  rw [collide_eq]
  exact swept slots candidate start

/-- The scan's invariant: the candidate is aligned, and no place lies below it. -/
def Scanning (p : NvVramPool n) (bytes alignment candidate : UInt64) : Prop :=
  Aligned p alignment candidate ∧
    ∀ place, FitsAt p bytes.toNat alignment.toNat place → candidate.toNat ≤ place

def Found (p : NvVramPool n) (bytes alignment : UInt64) : Option UInt64 → Prop
  | none => ∀ place, ¬ FitsAt p bytes.toNat alignment.toNat place
  | some candidate => IsLeast {place | FitsAt p bytes.toNat alignment.toNat place} candidate.toNat

/-- The next candidate, from `next` rounded up. -/
def Resumes (p : NvVramPool n) (bytes alignment next : UInt64) : Option UInt64 → Prop
  | none => ∀ place, ¬ FitsAt p bytes.toNat alignment.toNat place
  | some address => Scanning p bytes alignment (address - p.va) ∧
      next.toNat ≤ (address - p.va).toNat

variable (valid : alignmentValid alignment = true)
include valid

/-- Rounding an address up passes no place. -/
theorem round_scanning (next : UInt64) (inside : next.toNat ≤ p.size.toNat)
    (passed : ∀ place, FitsAt p bytes.toNat alignment.toNat place → next.toNat ≤ place) :
    Resumes p bytes alignment next (alignUp (p.va + next) alignment) := by
  have fits := inv.vaFits
  have sum : (p.va + next).toNat = p.va.toNat + next.toNat := add_toNat (by omega)
  cases rounded : alignUp (p.va + next) alignment with
  | none =>
      intro place here
      have room := here.room
      have above := passed place here
      have beyond := alignUp_none valid rounded here.aligned (by omega)
      omega
  | some address =>
      obtain ⟨above, rejoin, multiple⟩ := advance inv valid inside rounded
      obtain ⟨_, _, near, _⟩ := (alignUp_spec valid).1 address rounded
      refine ⟨⟨multiple, fun place here => ?_⟩, above⟩
      have lower := passed place here
      rw [rejoin] at multiple
      have first := round_below multiple near here.aligned (by omega)
      omega

theorem fit_turn (candidate : UInt64) (scanning : Scanning p bytes alignment candidate) :
    Establishes (Scanning p bytes alignment) (roomAbove p) (Found p bytes alignment) candidate
      (scanTurn p bytes alignment candidate) := by
  obtain ⟨aligned, lowest⟩ := scanning
  unfold scanTurn
  by_cases test : candidate ≤ p.size ∧ bytes ≤ p.size - candidate
  · have room := room_test test
    have within := collide_bound inv candidate bytes (by omega)
    have free := collide_free inv candidate bytes room
    have passed : ∀ place, FitsAt p bytes.toNat alignment.toNat place →
        (collide p bytes candidate).toNat ≤ place :=
      fun place here => collide_passes inv here (lowest place here)
    rw [if_pos test]
    generalize collide p bytes candidate = next at within free passed
    -- A candidate that meets nothing is the place; otherwise the next one lies higher.
    by_cases still : next = candidate
    · simp only [if_pos still]
      exact ⟨⟨room, aligned, free still⟩, lowest⟩
    · have moved : candidate.toNat ≠ next.toNat :=
        fun same => still (UInt64.toNat_inj.mp same.symm)
      have next_scanning := round_scanning inv valid next within.2 passed
      simp only [if_neg still]
      cases rounded : alignUp (p.va + next) alignment with
      | none =>
          rw [rounded] at next_scanning
          exact next_scanning
      | some address =>
          rw [rounded] at next_scanning
          refine ⟨next_scanning.1, ?_⟩
          have above := next_scanning.2
          simp only [roomAbove]
          omega
  · rw [if_neg test]
    intro place here
    have room := here.room
    have lower := lowest place here
    have below : candidate.toNat ≤ p.size.toNat := by omega
    apply test
    rw [UInt64.le_iff_toNat_le, UInt64.le_iff_toNat_le, sub_toNat below]
    omega

/-- The scan ends with the lowest place, or when there is none. -/
theorem scan_finds {candidate : UInt64} (scanning : Scanning p bytes alignment candidate) :
    ∃ result, whileFuel (scanTurn p bytes alignment) (scanFuel p) candidate = some result ∧
      Found p bytes alignment result :=
  while_returns _ (Scanning p bytes alignment) (roomAbove p) _
    (fun next kept => fit_turn inv valid next kept) (scanFuel p) candidate scanning
    (by simp only [roomAbove, scanFuel]; omega)

end Scan

/-- What fits is within the budget: the live sizes and the new one share the pool. -/
theorem fits_budget {p : NvVramPool n} (inv : PoolInv p) {bytes alignment place : Nat}
    (fits : FitsAt p bytes alignment place) : p.used.toNat + bytes ≤ p.size.toNat := by
  classical
  have left := apart_leave (Finset.univ.filter fun i => Live p i)
    (fun i => ⟨(p.allocations i).offset.toNat, limit (p.allocations i)⟩)
    (fun i member => inv.inside i (Finset.mem_filter.mp member).2)
    (fun i here j there other => inv.apart i j (Finset.mem_filter.mp here).2
      (Finset.mem_filter.mp there).2 other)
    fits.room
    (fun i member => (fits.free i (Finset.mem_filter.mp member).2).symm)
  have live_sizes : ∑ i, (p.allocations i).size.toNat =
      ∑ i ∈ Finset.univ.filter (fun i => Live p i),
        (limit (p.allocations i) - (p.allocations i).offset.toNat) := by
    rw [Finset.sum_filter]
    apply Finset.sum_congr rfl
    intro i _
    split
    · rw [limit, Nat.add_sub_cancel_left]
    · rename_i dead
      rw [inv.empty i dead]
      rfl
  rw [inv.used_eq, live_sizes]
  exact left

theorem freeSlot_none {p : NvVramPool n} (full : freeSlot p = none) (i : Fin n) : Live p i := by
  simpa [Live] using List.find?_eq_none.mp full i (mem_slots i)

/-- A size rounded up to whole pages. -/
def pageRounded (bytes : UInt64) : Nat := (bytes.toNat + 4095) / 4096 * 4096

theorem rounds_up {bytes : UInt64} (rounds : bytes.toNat + 4095 < 2 ^ 64) :
    ∃ rounded, alignUp bytes nvVramPageBytes = some rounded ∧
      rounded.toNat = pageRounded bytes := by
  have page : nvVramPageBytes.toNat = 4096 := by decide
  cases up : alignUp bytes nvVramPageBytes with
  | none =>
      have large := (alignUp_spec page_valid).2 up
      omega
  | some rounded =>
      obtain ⟨_, above, near, multiple⟩ := (alignUp_spec page_valid).1 rounded up
      refine ⟨rounded, rfl, ?_⟩
      rw [page] at near multiple
      rw [pageRounded]
      omega

/-- A slot, a handle and a place. -/
structure Obtainable (p : NvVramPool n) (bytes alignment : UInt64) : Prop where
  slot : ∃ slot, ¬ Live p slot
  handle : p.nextHandle ≠ uint64Max
  place : ∃ place, FitsAt p (pageRounded bytes) alignment.toNat place

/-- What `nv_vram_alloc` answers on a pool in order. -/
inductive Answer (p : NvVramPool n) (bytes alignment : UInt64) :
    Int × UInt64 × NvVramPool n → Prop where
  | granted (slot : Fin n) (candidate rounded : UInt64) (empty : ¬ Live p slot)
      (handle : p.nextHandle ≠ uint64Max) (size : rounded.toNat = pageRounded bytes)
      (lowest : IsLeast {place | FitsAt p (pageRounded bytes) alignment.toNat place}
        candidate.toNat) :
      Answer p bytes alignment (0, p.nextHandle, place p slot candidate rounded)
  | refused (missing : ¬ Obtainable p bytes alignment) : Answer p bytes alignment (-2, 0, p)

theorem alloc_answers {p : NvVramPool n} (inv : PoolInv p) {bytes alignment : UInt64}
    (nonzero : bytes ≠ 0) (rounds : bytes.toNat + 4095 < 2 ^ 64)
    (valid : alignmentValid alignment = true) :
    ∃ answer, nvVramAlloc p bytes alignment = some answer ∧ Answer p bytes alignment answer := by
  obtain ⟨rounded, up, size⟩ := rounds_up rounds
  have pool : p.size ≠ 0 := by
    intro zero
    have positive := inv.nonempty
    rw [zero, UInt64.toNat_zero] at positive
    omega
  have handles : p.nextHandle ≠ 0 := next_nonzero inv
  have used : ¬ p.used > p.size := by
    rw [gt_iff_lt, UInt64.not_lt, UInt64.le_iff_toNat_le]
    exact inv.used_le
  rw [nvVramAlloc, if_neg (by simp [pool, nonzero, valid])]
  simp only [up]
  by_cases stopped : p.nextHandle = 0 ∨ p.nextHandle = uint64Max ∨ p.used > p.size ∨
      rounded > p.size - p.used
  · rw [if_pos stopped]
    refine ⟨_, rfl, .refused fun obtainable => ?_⟩
    obtain ⟨place, fits⟩ := obtainable.place
    have budget := fits_budget inv fits
    rcases stopped with zero | last | overdrawn | large
    · exact handles zero
    · exact obtainable.handle last
    · exact used overdrawn
    · -- what fits is within the budget
      rw [gt_iff_lt, UInt64.lt_iff_toNat_lt, sub_toNat inv.used_le, size] at large
      omega
  rw [if_neg stopped]
  simp only [not_or] at stopped
  cases free : freeSlot p with
  | none => exact ⟨_, rfl, .refused fun obtainable =>
      obtainable.slot.elim fun slot empty => empty (freeSlot_none free slot)⟩
  | some slot =>
  -- Nothing fits below the first aligned address, so the search leaves nothing out.
  have start : Resumes p rounded alignment 0 (alignUp p.va alignment) := by
    have from_base := @round_scanning _ p inv rounded alignment valid 0
      (by rw [UInt64.toNat_zero]; exact Nat.zero_le _)
      (fun _ _ => by rw [UInt64.toNat_zero]; exact Nat.zero_le _)
    rwa [add_zero] at from_base
  cases base : alignUp p.va alignment with
  | none =>
      rw [base, Resumes, size] at start
      exact ⟨_, rfl, .refused fun obtainable => obtainable.place.elim start⟩
  | some address =>
  rw [base] at start
  obtain ⟨result, ended, found⟩ := scan_finds inv valid start.1
  simp only [ended, Option.map_some]
  cases result with
  | none =>
      rw [Found, size] at found
      exact ⟨_, rfl, .refused fun obtainable => obtainable.place.elim found⟩
  | some candidate =>
      rw [Found, size] at found
      exact ⟨_, rfl, .granted slot candidate rounded (freeSlot_empty free) stopped.2.1 size found⟩

/-- `nv_vram_alloc` succeeds exactly when there is a slot, a handle and a place;
it takes the lowest place, and otherwise changes nothing. -/
theorem first_fit_exact {p : NvVramPool n} (inv : PoolInv p) {bytes alignment : UInt64}
    (nonzero : bytes ≠ 0) (rounds : bytes.toNat + 4095 < 2 ^ 64)
    (power : ∃ k, 12 ≤ k ∧ alignment.toNat = 2 ^ k) :
    ∃ rc handle pool, nvVramAlloc p bytes alignment = some (rc, handle, pool) ∧
      (rc = 0 ↔ (∃ slot, ¬ Live p slot) ∧ p.nextHandle ≠ uint64Max ∧
        ∃ place, FitsAt p (pageRounded bytes) alignment.toNat place) ∧
      (rc = 0 → ∃ slot candidate rounded, ¬ Live p slot ∧
        rounded.toNat = pageRounded bytes ∧
        IsLeast {place | FitsAt p (pageRounded bytes) alignment.toNat place} candidate.toNat ∧
        handle = p.nextHandle ∧ pool = place p slot candidate rounded) ∧
      (rc ≠ 0 → rc = -2 ∧ handle = 0 ∧ pool = p) := by
  obtain ⟨answer, returned, answers⟩ :=
    alloc_answers inv nonzero rounds ((alignmentValid_iff alignment).mpr power)
  cases answers with
  | granted slot candidate rounded empty handle size lowest =>
      refine ⟨0, p.nextHandle, _, returned, ?_, ?_, fun failed => absurd rfl failed⟩
      · exact ⟨fun _ => ⟨⟨slot, empty⟩, handle, candidate.toNat, lowest.1⟩, fun _ => rfl⟩
      · exact fun _ => ⟨slot, candidate, rounded, empty, size, lowest, rfl, rfl⟩
  | refused missing =>
      refine ⟨-2, 0, p, returned, ?_, fun rc => absurd rc (by decide), fun _ => ⟨rfl, rfl, rfl⟩⟩
      constructor
      · exact fun rc => absurd rc (by decide)
      · rintro ⟨slot, handle, place⟩
        exact absurd ⟨slot, handle, place⟩ missing

/-- One page at 64 KiB is taken. -/
def busyPool : NvVramPool 2 :=
  { phys := 0x180000000, va := 0x40000000, size := 0x40010000, used := 0x1000, nextHandle := 2
    allocations := fun i => if i = 0 then ⟨1, 0x10000, 0x1000⟩ else .zero }

theorem busyPool_live (i : Fin 2) : Live busyPool i ↔ i = 0 := by
  change (busyPool.allocations i).handle ≠ 0 ↔ i = 0
  revert i
  decide

theorem busyPool_inv : PoolInv busyPool := by
  constructor
  case empty =>
    intro i dead
    rw [busyPool_live] at dead
    exact if_neg dead
  case older =>
    intro i live
    obtain rfl := (busyPool_live i).mp live
    decide
  case distinct =>
    intro i j live
    obtain rfl := (busyPool_live i).mp live
    fin_cases j <;> decide
  case sized =>
    intro i live
    obtain rfl := (busyPool_live i).mp live
    decide
  case inside =>
    intro i live
    obtain rfl := (busyPool_live i).mp live
    decide
  case apart =>
    intro i j first second other
    rw [busyPool_live] at first second
    exact absurd (first.trans second.symm) other
  all_goals decide

theorem first_fit_exact_busy :
    ∃ slot candidate rounded, ¬ Live busyPool slot ∧ rounded.toNat = pageRounded 0x10001 ∧
      IsLeast {place | FitsAt busyPool (pageRounded 0x10001) 0x10000 place} candidate.toNat ∧
      nvVramAlloc busyPool 0x10001 0x10000 =
        some (0, busyPool.nextHandle, place busyPool slot candidate rounded) := by
  obtain ⟨rc, handle, pool, returned, _, lowest, _⟩ :=
    @first_fit_exact 2 busyPool busyPool_inv 0x10001 0x10000 (by decide) (by decide)
      ⟨16, by decide, by decide⟩
  have fine : (nvVramAlloc busyPool 0x10001 0x10000).map Prod.fst = some 0 := by decide +kernel
  rw [returned, Option.map_some] at fine
  obtain rfl : rc = 0 := Option.some_inj.mp fine
  obtain ⟨slot, candidate, rounded, free, size, least, rfl, rfl⟩ := lowest rfl
  exact ⟨slot, candidate, rounded, free, size, least, returned⟩

end GspDriver.VramFirstFit
