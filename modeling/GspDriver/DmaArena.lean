import GspDriver.Radix3

/-!
Runs of requests on the arena of nv_dma.h. Here a request returns the arena in
either case, so that what a failing one leaves is part of the result. The sum
of the bump offset and the size is rounded and compared with the capacity in 64
bits: a sum that wraps is rounded to an offset that is not above the old one,
and passes.
-/

namespace GspDriver.DmaArena

open Words Radix3

def nvDmaArenaInit (va dmaAddr cap : UInt64) : NvDmaArena := { va, dmaAddr, off := 0, cap }

structure DmaReturn where
  rc : Int
  area : Option Area
  arena : NvDmaArena

/-- `nv_dma_alloc` -/
def dmaAlloc (a : NvDmaArena) (sz : UInt64) : DmaReturn :=
  let o := a.off
  let next := (o + sz + 0xfff) &&& ~~~0xfff
  if next > a.cap then { rc := -1, area := none, arena := a }
  else
    let a := { a with off := next }
    { rc := 0, area := some ⟨a.va + o, a.dmaAddr + o⟩, arena := a }

/-- The allocation of the bring-up is this one without what a failure leaves. -/
theorem nvDmaAlloc_eq (a : NvDmaArena) (sz : UInt64) :
    nvDmaAlloc a sz = (dmaAlloc a sz).area.map fun area => (area, (dmaAlloc a sz).arena) := by
  rw [nvDmaAlloc, dmaAlloc]
  split
  · rfl
  · rfl

structure DmaStep where
  before : NvDmaArena
  size : UInt64
  returned : DmaReturn

/-- The steps of a run of requests, each on the arena that the last one left. -/
def dmaRun (a : NvDmaArena) : List UInt64 → List DmaStep
  | [] => []
  | sz :: rest => ⟨a, sz, dmaAlloc a sz⟩ :: dmaRun (dmaAlloc a sz).arena rest

/-- A successful request: what was asked for, and the offsets of the area from
the two bases of the arena. -/
structure Grant where
  size : Nat
  cpuOff : Nat
  deviceOff : Nat

def stepGrant (step : DmaStep) : Option Grant :=
  step.returned.area.map fun area =>
    { size := step.size.toNat
      cpuOff := (area.va - step.before.va).toNat
      deviceOff := (area.io - step.before.dmaAddr).toNat }

def grants (steps : List DmaStep) : List Grant := steps.filterMap stepGrant

def Apart (one two : Grant) : Prop :=
  one.cpuOff + one.size ≤ two.cpuOff ∨ two.cpuOff + two.size ≤ one.cpuOff

instance : DecidableRel Apart := fun _ _ => inferInstanceAs (Decidable (_ ∨ _))

/-- What a run from a fresh arena of `cap` bytes promises. -/
structure Sound (cap : Nat) (steps : List DmaStep) : Prop where
  disjoint : (grants steps).Pairwise Apart
  aligned : ∀ grant ∈ grants steps, grant.cpuOff % 4096 = 0
  inside : ∀ grant ∈ grants steps, grant.cpuOff + grant.size ≤ cap
  same : ∀ grant ∈ grants steps, grant.cpuOff = grant.deviceOff
  forward : ∀ step ∈ steps, step.before.off ≤ step.returned.arena.off
  failing : ∀ step ∈ steps, step.returned.rc ≠ 0 → step.returned.arena = step.before

/-- The sum that a request computes does not wrap. -/
def NoWrap (step : DmaStep) : Prop := step.before.off.toNat + step.size.toNat + 4095 < 2 ^ 64

instance (step : DmaStep) : Decidable (NoWrap step) := inferInstanceAs (Decidable (_ < _))

theorem offset_back (base o : UInt64) : base + o - base = o := by
  rw [UInt64.add_comm]
  exact UInt64.add_sub_cancel o base

/-- What every request keeps, a wrapping one too. -/
structure Paged (cap : UInt64) (a : NvDmaArena) : Prop where
  aligned : a.off.toNat % 4096 = 0
  taken : a.off.toNat ≤ cap.toNat
  capacity : a.cap = cap
  pages : cap.toNat % 4096 = 0

section Step

variable {cap : UInt64} {a : NvDmaArena} (paged : Paged cap a) (sz : UInt64)

/-- The offset behind a request, in 64 bits. -/
theorem next_toNat (o : UInt64) : ((o + sz + 0xfff) &&& ~~~0xfff).toNat =
    (o.toNat + sz.toNat + 4095) % 2 ^ 64 - (o.toNat + sz.toNat + 4095) % 2 ^ 64 % 4096 := by
  have mask : (0xfff : UInt64).toNat = 2 ^ 12 - 1 := rfl
  rw [and_not_mask_toNat _ mask, UInt64.toNat_add, UInt64.toNat_add, mask]
  omega

include paged

theorem alloc_paged : Paged cap (dmaAlloc a sz).arena := by
  have next := next_toNat sz a.off
  simp only [dmaAlloc]
  split
  · exact paged
  · rename_i room
    rw [gt_iff_lt, UInt64.not_lt, UInt64.le_iff_toNat_le, paged.capacity] at room
    refine ⟨?_, room, paged.capacity, paged.pages⟩
    simp only [next]
    omega

/-- A request that does not wrap moves the offset past what it hands out. -/
theorem alloc_forward (fits : NoWrap ⟨a, sz, dmaAlloc a sz⟩) :
    a.off ≤ (dmaAlloc a sz).arena.off ∧ ∀ grant, stepGrant ⟨a, sz, dmaAlloc a sz⟩ = some grant →
      a.off.toNat + sz.toNat ≤ (dmaAlloc a sz).arena.off.toNat := by
  have next := next_toNat sz a.off
  have aligned := paged.aligned
  simp only [NoWrap] at fits
  rw [Nat.mod_eq_of_lt fits] at next
  simp only [stepGrant, dmaAlloc]
  split
  · refine ⟨UInt64.le_refl _, fun grant granted => ?_⟩
    cases granted
  · refine ⟨?_, fun grant _ => ?_⟩
    · simp only [UInt64.le_iff_toNat_le, next]
      omega
    · simp only [next]
      omega

/-- A request that wraps is granted, and its area ends behind the arena. -/
theorem alloc_wraps (wraps : ¬ NoWrap ⟨a, sz, dmaAlloc a sz⟩) :
    ∃ grant, stepGrant ⟨a, sz, dmaAlloc a sz⟩ = some grant ∧
      cap.toNat < grant.cpuOff + grant.size := by
  have next := next_toNat sz a.off
  obtain ⟨aligned, taken, capacity, pages⟩ := paged
  have small := sz.toNat_lt
  have large := cap.toNat_lt
  simp only [NoWrap] at wraps
  -- the wrapped sum rounds down to at most the old offset, which the arena holds
  have room : ¬ (a.off + sz + 0xfff) &&& ~~~0xfff > a.cap := by
    rw [gt_iff_lt, UInt64.not_lt, UInt64.le_iff_toNat_le, next, capacity]
    omega
  refine ⟨⟨sz.toNat, a.off.toNat, a.off.toNat⟩, ?_, ?_⟩
  · simp only [stepGrant, dmaAlloc, if_neg room, Option.map_some, offset_back]
  · simp only
    omega

end Step

theorem alloc_grant {a : NvDmaArena} {sz : UInt64} {grant : Grant}
    (granted : stepGrant ⟨a, sz, dmaAlloc a sz⟩ = some grant) :
    grant = ⟨sz.toNat, a.off.toNat, a.off.toNat⟩ := by
  simp only [stepGrant, dmaAlloc] at granted
  split at granted
  · cases granted
  · simp only [Option.map_some, offset_back] at granted
    exact (Option.some.inj granted).symm

theorem alloc_failing {a : NvDmaArena} {sz : UInt64} (failed : (dmaAlloc a sz).rc ≠ 0) :
    (dmaAlloc a sz).arena = a := by
  simp only [dmaAlloc] at failed ⊢
  split at failed
  · rename_i full
    rw [if_pos full]
  · exact absurd rfl failed

/-! Runs. -/

section Run

variable {cap : UInt64}

/-- Each step of a run is a request on a paged arena. -/
theorem run_steps (sizes : List UInt64) {a : NvDmaArena} (paged : Paged cap a) :
    ∀ step ∈ dmaRun a sizes, Paged cap step.before ∧
      step = ⟨step.before, step.size, dmaAlloc step.before step.size⟩ := by
  induction sizes generalizing a with
  | nil => intro step member; cases member
  | cons sz rest ih =>
      intro step member
      rcases List.mem_cons.mp member with rfl | later
      · exact ⟨paged, rfl⟩
      · exact ih (alloc_paged paged sz) step later

theorem mem_grants {steps : List DmaStep} {grant : Grant} :
    grant ∈ grants steps ↔ ∃ step ∈ steps, stepGrant step = some grant := List.mem_filterMap

/-- What later requests get lies behind the offset. -/
theorem grants_above (sizes : List UInt64) {a : NvDmaArena} (paged : Paged cap a)
    (fits : ∀ step ∈ dmaRun a sizes, NoWrap step) :
    ∀ grant ∈ grants (dmaRun a sizes), a.off.toNat ≤ grant.cpuOff := by
  induction sizes generalizing a with
  | nil => intro grant member; cases member
  | cons sz rest ih =>
      have forward := (alloc_forward paged sz (fits _ List.mem_cons_self)).1
      rw [UInt64.le_iff_toNat_le] at forward
      intro grant member
      obtain ⟨step, here, granted⟩ := mem_grants.mp member
      rcases List.mem_cons.mp here with rfl | later
      · rw [alloc_grant granted]
      · have above := ih (alloc_paged paged sz)
          (fun step there => fits step (List.mem_cons_of_mem _ there)) grant
          (mem_grants.mpr ⟨step, later, granted⟩)
        omega

theorem grants_disjoint (sizes : List UInt64) {a : NvDmaArena} (paged : Paged cap a)
    (fits : ∀ step ∈ dmaRun a sizes, NoWrap step) : (grants (dmaRun a sizes)).Pairwise Apart := by
  induction sizes generalizing a with
  | nil => exact List.Pairwise.nil
  | cons sz rest ih =>
      have later : ∀ step ∈ dmaRun (dmaAlloc a sz).arena rest, NoWrap step :=
        fun step there => fits step (List.mem_cons_of_mem _ there)
      have tail := ih (alloc_paged paged sz) later
      rw [dmaRun, grants, List.filterMap_cons]
      cases granted : stepGrant ⟨a, sz, dmaAlloc a sz⟩ with
      | none => exact tail
      | some grant =>
          refine List.pairwise_cons.mpr ⟨fun other member => Or.inl ?_, tail⟩
          have past := (alloc_forward paged sz (fits _ List.mem_cons_self)).2 grant granted
          have above := grants_above rest (alloc_paged paged sz) later other member
          rw [alloc_grant granted]
          simp only
          omega

end Run

/-- A run of requests on a fresh arena of whole pages keeps all that an arena
promises exactly when no request's sum wraps. -/
theorem arena_sound_iff (va dmaAddr cap : UInt64) (sizes : List UInt64)
    (pages : cap.toNat % 4096 = 0) :
    Sound cap.toNat (dmaRun (nvDmaArenaInit va dmaAddr cap) sizes) ↔
      ∀ step ∈ dmaRun (nvDmaArenaInit va dmaAddr cap) sizes, NoWrap step := by
  have fresh : Paged cap (nvDmaArenaInit va dmaAddr cap) :=
    ⟨rfl, Nat.zero_le _, rfl, pages⟩
  have steps := run_steps sizes fresh
  have starts : ∀ grant ∈ grants (dmaRun (nvDmaArenaInit va dmaAddr cap) sizes),
      grant.cpuOff % 4096 = 0 ∧ grant.cpuOff = grant.deviceOff := by
    intro grant member
    obtain ⟨step, here, granted⟩ := mem_grants.mp member
    obtain ⟨paged, called⟩ := steps step here
    rw [called] at granted
    rw [alloc_grant granted]
    exact ⟨paged.aligned, rfl⟩
  constructor
  -- A request that wraps gets an area past the end of the arena.
  · intro sound step here
    obtain ⟨paged, called⟩ := steps step here
    by_contra wraps
    rw [called] at wraps
    obtain ⟨grant, granted, outside⟩ := alloc_wraps paged step.size wraps
    rw [← called] at granted
    have inside := sound.inside grant (mem_grants.mpr ⟨step, here, granted⟩)
    omega
  · intro fits
    refine ⟨grants_disjoint sizes fresh fits, fun grant member => (starts grant member).1, ?_,
      fun grant member => (starts grant member).2, ?_, ?_⟩
    · intro grant member
      obtain ⟨step, here, granted⟩ := mem_grants.mp member
      obtain ⟨paged, called⟩ := steps step here
      have noWrap := fits step here
      rw [called] at granted noWrap
      have past := (alloc_forward paged step.size noWrap).2 grant granted
      have taken := (alloc_paged paged step.size).taken
      rw [alloc_grant granted]
      simp only
      omega
    · intro step here
      obtain ⟨paged, called⟩ := steps step here
      have noWrap := fits step here
      rw [called] at noWrap ⊢
      exact (alloc_forward paged step.size noWrap).1
    · intro step here failed
      obtain ⟨_, called⟩ := steps step here
      rw [called] at failed ⊢
      exact alloc_failing failed

theorem arena_sound_iff_small :
    Sound 0x4000 (dmaRun (nvDmaArenaInit 0xffffff8000000000 0x100000000 0x4000)
      [0x1000, 0x1801, 0x2000]) :=
  (arena_sound_iff 0xffffff8000000000 0x100000000 0x4000 [0x1000, 0x1801, 0x2000]
    (by decide)).mpr (by decide)

/-- A request of 2^64 - 4096 bytes takes the offset back to 0, and the next one
gets the first one's page. -/
theorem arena_overlaps :
    (grants (dmaRun (nvDmaArenaInit 0 0 0x4000) [0x1000, 0xfffffffffffff000, 0x1000])).map
        (fun grant => (grant.cpuOff, grant.size)) =
      [(0, 0x1000), (0x1000, 0xfffffffffffff000), (0, 0x1000)] ∧
    ¬ Sound 0x4000 (dmaRun (nvDmaArenaInit 0 0 0x4000) [0x1000, 0xfffffffffffff000, 0x1000]) := by
  refine ⟨by decide, fun sound => ?_⟩
  exact absurd sound.disjoint (by decide)

end GspDriver.DmaArena
