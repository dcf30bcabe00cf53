import GspDriver.VramArith

/-!
Runs of pool calls with arbitrary arguments. A session records, besides the
pool, the handle and the alignment of every successful allocation. Each call
has one of three effects on the pool's leases; the run results follow from
that and from the lease table.
-/

namespace GspDriver.VramRuns

open Loop Words Vram VramPool VramArith

variable {n : Nat}

inductive PoolOp where
  | alloc (bytes alignment : UInt64)
  | free (handle : UInt64)
  | resolve (handle offset bytes : UInt64)
  deriving DecidableEq

structure Reply where
  rc : Int
  handle : UInt64
  phys : UInt64
  va : UInt64

structure Session (n : Nat) where
  pool : NvVramPool n
  asked : List (UInt64 × UInt64)

def Session.step (s : Session n) : PoolOp → Option (Reply × Session n)
  | .alloc bytes alignment =>
      (nvVramAlloc s.pool bytes alignment).map fun answer =>
        (⟨answer.1, answer.2.1, 0, 0⟩,
          ⟨answer.2.2, if answer.1 = 0 then (answer.2.1, alignment) :: s.asked else s.asked⟩)
  | .free handle =>
      let freed := nvVramFree s.pool handle
      some (⟨freed.1, 0, 0, 0⟩, ⟨freed.2, s.asked⟩)
  | .resolve handle offset bytes =>
      let resolved := nvVramResolve s.pool handle offset bytes
      some (⟨resolved.1, 0, resolved.2.1, resolved.2.2⟩, s)

def PoolOp.arith (p : NvVramPool n) : PoolOp → List Arith
  | .alloc bytes alignment => allocArith p bytes alignment
  | .free handle => freeArith p handle
  | .resolve handle offset bytes => resolveArith p handle offset bytes

def run (s : Session n) : List PoolOp → Option (Session n)
  | [] => some s
  | op :: rest =>
      match s.step op with
      | none => none
      | some (_, next) => run next rest

def fresh (p : NvVramPool n) : Session n := ⟨p, []⟩

/-- Everything a call can do. -/
inductive Effect (s : Session n) : PoolOp → Reply → Session n → Prop
  | refused (op : PoolOp) (rc : Int) (nonzero : rc ≠ 0) : Effect s op ⟨rc, 0, 0, 0⟩ s
  | resolved (handle offset bytes phys va : UInt64) :
      Effect s (.resolve handle offset bytes) ⟨0, 0, phys, va⟩ s
  | granted (bytes alignment : UInt64) (slot : Fin n) (candidate rounded : UInt64)
      (grantable : Grantable s.pool slot candidate rounded alignment) :
      Effect s (.alloc bytes alignment) ⟨0, s.pool.nextHandle, 0, 0⟩
        ⟨place s.pool slot candidate rounded, (s.pool.nextHandle, alignment) :: s.asked⟩
  | released (i : Fin n) (live : Live s.pool i) :
      Effect s (.free (s.pool.allocations i).handle) ⟨0, 0, 0, 0⟩ ⟨evict s.pool i, s.asked⟩

theorem step_effect (s : Session n) (inv : PoolInv s.pool) (op : PoolOp) :
    ∃ reply next, s.step op = some (reply, next) ∧ Effect s op reply next := by
  cases op with
  | alloc bytes alignment =>
      rcases alloc_spec inv bytes alignment with ⟨rc, negative, failed⟩ |
        ⟨slot, candidate, rounded, _, grantable, placed⟩
      · refine ⟨⟨rc, 0, 0, 0⟩, s, ?_, .refused _ rc (by omega)⟩
        have nonzero : rc ≠ 0 := by omega
        simp only [Session.step, failed, Option.map_some, if_neg nonzero]
      · refine ⟨_, _, ?_, .granted bytes alignment slot candidate rounded grantable⟩
        simp only [Session.step, placed, Option.map_some, ↓reduceIte]
  | free handle =>
      rcases free_spec (p := s.pool) handle with ⟨missing, _⟩ | ⟨i, live, rfl, freed⟩
      · refine ⟨⟨-1, 0, 0, 0⟩, s, ?_, .refused _ (-1) (by omega)⟩
        simp only [Session.step, missing]
      · refine ⟨_, _, ?_, .released i live⟩
        simp only [Session.step, freed]
  | resolve handle offset bytes =>
      refine ⟨_, _, rfl, ?_⟩
      cases outcome : nvVramResolve s.pool handle offset bytes with
      | mk rc addresses =>
          rw [resolve_spec] at outcome
          split at outcome
          · obtain ⟨rfl, rfl⟩ := Prod.mk.inj outcome
            exact .refused _ (-1) (by omega)
          · split at outcome
            · obtain ⟨rfl, rfl⟩ := Prod.mk.inj outcome
              exact .refused _ (-1) (by omega)
            · obtain ⟨rfl, rfl⟩ := Prod.mk.inj outcome
              exact .resolved handle offset bytes _ _

/-- What every session keeps: the pool's invariant, and a record of every live
handle with the alignment it was asked for. -/
structure SessionInv (s : Session n) : Prop where
  pool : PoolInv s.pool
  recorded : ∀ i, Live s.pool i →
    ∃ alignment, ((s.pool.allocations i).handle, alignment) ∈ s.asked
  issued : ∀ handle alignment, (handle, alignment) ∈ s.asked → (lease s.pool).issued handle
  aligned : ∀ i alignment, Live s.pool i →
    ((s.pool.allocations i).handle, alignment) ∈ s.asked →
      alignment.toNat ∣ s.pool.va.toNat + (s.pool.allocations i).offset.toNat

theorem granted_inv {s : Session n} (inv : SessionInv s) {slot : Fin n}
    {candidate rounded alignment : UInt64}
    (grantable : Grantable s.pool slot candidate rounded alignment) :
    SessionInv ⟨place s.pool slot candidate rounded, (s.pool.nextHandle, alignment) :: s.asked⟩ ∧
      Lease.Step (lease s.pool) (lease (place s.pool slot candidate rounded)) := by
  have leased := place_lease inv.pool grantable
  have unissued : ¬ (lease s.pool).issued s.pool.nextHandle := next_unissued
  refine ⟨⟨place_inv inv.pool grantable, ?_, ?_, ?_⟩, ?_⟩
  · refine place_each (P := fun a =>
      ∃ asked, (a.handle, asked) ∈ (s.pool.nextHandle, alignment) :: s.asked)
      ⟨alignment, List.mem_cons_self⟩ fun i live => ?_
    obtain ⟨asked, member⟩ := inv.recorded i live
    exact ⟨asked, List.mem_cons_of_mem _ member⟩
  · intro handle asked member
    rw [leased]
    rcases List.mem_cons.mp member with newest | older
    · exact Or.inl (congrArg Prod.fst newest)
    · exact Or.inr (inv.issued handle asked older)
  · -- The new handle was never asked about, so the new entry is the only one of its record.
    intro i asked live member
    by_cases other : i = slot
    · subst i
      rw [place_slot] at member ⊢
      rcases List.mem_cons.mp member with newest | older
      · obtain rfl : asked = alignment := congrArg Prod.snd newest
        exact grantable.placed.aligned
      · exact absurd (inv.issued _ _ older) unissued
    · rw [Live, place_other other] at live
      rw [place_other other] at member ⊢
      rcases List.mem_cons.mp member with newest | older
      · have reused : (s.pool.allocations i).handle = s.pool.nextHandle :=
          congrArg Prod.fst newest
        have below := inv.pool.older i live
        rw [reused] at below
        exact absurd below (Nat.lt_irrefl _)
      · exact inv.aligned i asked live older
  · rw [leased]
    exact .grant _ _ _ unissued

theorem released_inv {s : Session n} (inv : SessionInv s) {i : Fin n} (live : Live s.pool i) :
    SessionInv ⟨evict s.pool i, s.asked⟩ ∧ Lease.Step (lease s.pool) (lease (evict s.pool i)) := by
  have leased := evict_lease inv.pool live
  refine ⟨⟨evict_inv inv.pool, ?_, ?_, ?_⟩, ?_⟩
  · intro j alive
    obtain ⟨other, older⟩ := (evict_live j).mp alive
    rw [evict_other other]
    exact inv.recorded j older
  · exact inv.issued
  · intro j asked alive member
    obtain ⟨other, older⟩ := (evict_live j).mp alive
    rw [evict_other other] at member ⊢
    exact inv.aligned j asked older member
  · rw [leased]
    exact .release _ _

theorem effect_inv {s next : Session n} {op : PoolOp} {reply : Reply}
    (effect : Effect s op reply next) (inv : SessionInv s) :
    SessionInv next ∧ Lease.Step (lease s.pool) (lease next.pool) ∧
      next.pool.va = s.pool.va ∧ next.pool.phys = s.pool.phys := by
  cases effect with
  | refused => exact ⟨inv, .keep _, rfl, rfl⟩
  | resolved => exact ⟨inv, .keep _, rfl, rfl⟩
  | granted bytes alignment slot candidate rounded grantable =>
      obtain ⟨kept, step⟩ := granted_inv inv grantable
      exact ⟨kept, step, rfl, rfl⟩
  | released i live =>
      obtain ⟨kept, step⟩ := released_inv inv live
      exact ⟨kept, step, rfl, rfl⟩

/-- A run never gets stuck, keeps the invariant, and moves the leases by steps
of the lease table. -/
theorem run_inv (s : Session n) (inv : SessionInv s) (ops : List PoolOp) :
    ∃ t, run s ops = some t ∧ SessionInv t ∧ Lease.Steps (lease s.pool) (lease t.pool) := by
  induction ops generalizing s with
  | nil => exact ⟨s, rfl, inv, .refl⟩
  | cons op rest ih =>
      obtain ⟨reply, next, stepped, effect⟩ := step_effect s inv.pool op
      obtain ⟨kept, step, _⟩ := effect_inv effect inv
      obtain ⟨t, ended, final, steps⟩ := ih next kept
      refine ⟨t, ?_, final, .head step steps⟩
      simp only [run, stepped, ended]

theorem init_inv (phys va size : UInt64) (p : NvVramPool n)
    (initialised : nvVramPoolInit phys va size = (0, some p)) : SessionInv (fresh p) := by
  unfold nvVramPoolInit at initialised
  split at initialised
  · simp at initialised
  rename_i admitted
  simp only [not_or, not_not] at admitted
  obtain ⟨aligned, physSpan, vaSpan⟩ := admitted
  have mask : (nvVramPageBytes - 1).toNat = 2 ^ 12 - 1 := by decide
  have top : uint64Max.toNat = 2 ^ 64 - 1 := by decide
  rw [or_and_eq_zero, or_and_eq_zero] at aligned
  have spans : ∀ base : UInt64, spanValid base size = true →
      0 < size.toNat ∧ base.toNat + size.toNat < 2 ^ 64 := by
    intro base valid
    simp only [spanValid, Bool.and_eq_true, decide_eq_true_eq] at valid
    obtain ⟨nonzero, fits⟩ := valid
    have bound := base.toNat_lt
    rw [UInt64.le_iff_toNat_le, sub_toNat (by omega), top] at fits
    have positive := pos_toNat nonzero
    omega
  obtain rfl : ⟨phys, va, size, 0, 1, fun _ => .zero⟩ = p :=
    Option.some.inj (congrArg Prod.snd initialised)
  -- No record is live in the new pool, so what the invariant says of live ones is vacuous.
  have dead : ∀ i : Fin n, ¬ Live ⟨phys, va, size, 0, 1, fun _ => .zero⟩ i :=
    fun i live => live rfl
  refine ⟨?_, fun i live => absurd live (dead i), by simp [fresh],
    fun i _ live => absurd live (dead i)⟩
  exact {
    vaPage := dvd_of_and_mask mask aligned.1.2
    physPage := dvd_of_and_mask mask aligned.1.1
    sizePage := dvd_of_and_mask mask aligned.2
    nonempty := (spans phys physSpan).1
    vaFits := (spans va vaSpan).2
    physFits := (spans phys physSpan).2
    nextPositive := show 0 < (1 : UInt64).toNat by decide
    empty := fun _ _ => rfl
    older := fun i live => absurd live (dead i)
    distinct := fun i _ live => absurd live (dead i)
    sized := fun i live => absurd live (dead i)
    inside := fun i live => absurd live (dead i)
    apart := fun i _ live => absurd live (dead i)
    used_eq := by simp [fresh, NvVramAllocation.zero]
    used_le := Nat.zero_le _ }

theorem arith_exact (s : Session n) (inv : SessionInv s) (op : PoolOp) :
    AllExact (op.arith s.pool) := by
  cases op with
  | alloc bytes alignment => exact allocArith_exact inv.pool bytes alignment
  | free handle => exact freeArith_exact inv.pool handle
  | resolve handle offset bytes => exact resolveArith_exact inv.pool handle offset bytes

/-! The pool represents a set of disjoint ranges. -/

def span (a : NvVramAllocation) : Set Nat := Set.Ico a.offset.toNat (limit a)

instance (p : NvVramPool n) : DecidablePred (Live p) :=
  fun i => inferInstanceAs (Decidable ((p.allocations i).handle ≠ 0))

structure Represents (s : Session n) : Prop where
  disjoint : ∀ i j, Live s.pool i → Live s.pool j → i ≠ j →
    Disjoint (span (s.pool.allocations i)) (span (s.pool.allocations j))
  inside : ∀ i, Live s.pool i → span (s.pool.allocations i) ⊆ Set.Ico 0 s.pool.size.toNat
  pages : ∀ i, Live s.pool i → (s.pool.allocations i).size ≠ 0 ∧
    4096 ∣ (s.pool.allocations i).size.toNat ∧ 4096 ∣ (s.pool.allocations i).offset.toNat
  aligned : ∀ i, Live s.pool i →
    (∃ alignment, ((s.pool.allocations i).handle, alignment) ∈ s.asked) ∧
    ∀ alignment, ((s.pool.allocations i).handle, alignment) ∈ s.asked →
      alignment.toNat ∣ s.pool.va.toNat + (s.pool.allocations i).offset.toNat
  used : s.pool.used.toNat =
    ∑ i with Live s.pool i, (s.pool.allocations i).size.toNat
  used_le : s.pool.used.toNat ≤ s.pool.size.toNat
  handles : ∀ i, Live s.pool i → (s.pool.allocations i).handle ≠ 0 ∧
    (s.pool.allocations i).handle.toNat < s.pool.nextHandle.toNat
  distinct : ∀ i j, Live s.pool i → Live s.pool j → i ≠ j →
    (s.pool.allocations i).handle ≠ (s.pool.allocations j).handle

theorem session_represents (s : Session n) (inv : SessionInv s) : Represents s := by
  have pool := inv.pool
  refine ⟨?_, ?_, ?_, fun i live => ⟨inv.recorded i live, fun alignment member =>
    inv.aligned i alignment live member⟩, ?_, pool.used_le, fun i live => ⟨live, pool.older i live⟩,
    fun i j live _ different same => different (pool.distinct i j live same)⟩
  · intro i j left right different
    rw [span, span, Set.Ico_disjoint_Ico]
    have := pool.apart i j left right different
    omega
  · intro i live
    exact Set.Ico_subset_Ico (Nat.zero_le _) (pool.inside i live)
  · intro i live
    obtain ⟨positive, size, offset⟩ := pool.sized i live
    refine ⟨?_, size, offset⟩
    intro zero
    rw [zero, UInt64.toNat_zero] at positive
    exact Nat.lt_irrefl _ positive
  · rw [pool.used_eq]
    symm
    apply Finset.sum_subset (Finset.subset_univ _)
    intro i _ dead
    have empty : ¬ Live s.pool i :=
      fun live => dead (Finset.mem_filter.mpr ⟨Finset.mem_univ i, live⟩)
    rw [pool.empty i empty]
    rfl

/-- From any initialisation, through any calls, the pool represents disjoint
ranges; of the arithmetic only `align_up`'s sum can reach `2 ^ 64`, and its
decrement restores it. -/
theorem pool_represents (phys va size : UInt64) (p : NvVramPool n)
    (initialised : nvVramPoolInit phys va size = (0, some p)) (ops : List PoolOp) :
    ∃ s, run (fresh p) ops = some s ∧ Represents s ∧
      ∀ op : PoolOp, ∀ step ∈ op.arith s.pool, step.Wraps →
        ∃ value alignment, (step = .sumUp value alignment ∨ step = .decUp value alignment) ∧
          value.toNat + alignment.toNat = 2 ^ 64 ∧
          (value + alignment - 1).toNat = value.toNat + alignment.toNat - 1 := by
  obtain ⟨s, ended, inv, _⟩ := run_inv (fresh p) (init_inv phys va size p initialised) ops
  refine ⟨s, ended, session_represents s inv, ?_⟩
  intro op step member wraps
  have exact := arith_exact s inv op step member
  exact exact_wraps exact wraps

def gibibytePool : NvVramPool nvVramMaxAllocs :=
  ⟨0x180000000, 0x40000000, 0x40010000, 0, 1, fun _ => .zero⟩

theorem pool_represents_gibibyte :
    ∃ s, run (fresh gibibytePool)
        [.alloc 0x40000000 0x10000, .alloc 0x10000 0x10000, .free 1, .alloc 1 0x1000] = some s ∧
      Represents s := by
  obtain ⟨s, ended, represents, _⟩ := pool_represents 0x180000000 0x40000000 0x40010000 gibibytePool
    (by rw [nvVramPoolInit, if_neg (by decide)]; rfl)
    [.alloc 0x40000000 0x10000, .alloc 0x10000 0x10000, .free 1, .alloc 1 0x1000]
  exact ⟨s, ended, represents⟩

/-- A pool of all but the last page of the address space. -/
def widePool : NvVramPool nvVramMaxAllocs :=
  ⟨0, 0, 0xfffffffffffff000, 0, 1, fun _ => .zero⟩

theorem align_sum_wraps :
    ¬ ∀ (phys va size : UInt64) (p : NvVramPool nvVramMaxAllocs),
      nvVramPoolInit phys va size = (0, some p) →
      ∀ (ops : List PoolOp) (s : Session nvVramMaxAllocs), run (fresh p) ops = some s →
      ∀ (op : PoolOp) (reply : Reply) (next : Session nvVramMaxAllocs),
        s.step op = some (reply, next) → reply.rc = 0 →
        ∀ step ∈ op.arith s.pool, ¬ step.Wraps := by
  intro claim
  have accepted : (nvVramAlloc widePool 0xfffffffffffff000 0x1000).map (·.1) = some 0 := by
    decide +kernel
  obtain ⟨answer, placed, rc⟩ := Option.map_eq_some_iff.mp accepted
  refine claim 0 0 0xfffffffffffff000 widePool (by rw [nvVramPoolInit, if_neg (by decide)]; rfl)
    [] (fresh widePool) rfl (.alloc 0xfffffffffffff000 0x1000) _ _
    (by simp only [Session.step, fresh, placed, Option.map_some]; rfl) rc
    (.sumUp 0xfffffffffffff000 0x1000) ?_ ?_
  · change _ ∈ allocArith widePool _ _
    decide +kernel
  · change 2 ^ 64 ≤ _
    decide +kernel

/-! Lifetime of handles. -/

theorem resolve_of_live {p q : NvVramPool n} (handle offset bytes : UInt64)
    (phys : q.phys = p.phys) (va : q.va = p.va) (live : liveAt q handle = liveAt p handle) :
    nvVramResolve q handle offset bytes = nvVramResolve p handle offset bytes := by
  rw [resolve_spec, resolve_spec, phys, va, live]

/-- A call other than a successful free of a handle keeps what it leases. -/
theorem effect_frame {s next : Session n} {op : PoolOp} {reply : Reply}
    (effect : Effect s op reply next) (inv : SessionInv s) (handle : UInt64)
    (issued : (lease s.pool).issued handle) (kept : ¬ (op = .free handle ∧ reply.rc = 0)) :
    liveAt next.pool handle = liveAt s.pool handle := by
  cases effect with
  | refused => rfl
  | resolved => rfl
  | granted bytes alignment slot candidate rounded grantable =>
      have leased := congrArg Lease.Table.live (place_lease inv.pool grantable)
      have other : handle ≠ s.pool.nextHandle := by
        rintro rfl
        exact next_unissued issued
      have same := congrFun leased handle
      simp only [lease, Lease.Table.grant, Function.update_of_ne other] at same
      exact same
  | released i live =>
      have leased := congrArg Lease.Table.live (evict_lease inv.pool live)
      have other : handle ≠ (s.pool.allocations i).handle := by
        rintro rfl
        exact kept ⟨rfl, rfl⟩
      have same := congrFun leased handle
      simp only [lease, Lease.Table.release, Function.update_of_ne other] at same
      exact same

theorem retired_dead {s : Session n} (inv : SessionInv s) {handle : UInt64}
    (retired : Lease.Retired (lease s.pool) handle) :
    (∀ offset bytes, (nvVramResolve s.pool handle offset bytes).1 ≠ 0) ∧
      (nvVramFree s.pool handle).1 ≠ 0 ∧
      ∀ bytes alignment rc issued pool,
        nvVramAlloc s.pool bytes alignment = some (rc, issued, pool) → issued ≠ handle := by
  obtain ⟨wasIssued, dead⟩ := retired
  change liveAt s.pool handle = none at dead
  refine ⟨?_, ?_, ?_⟩
  · intro offset bytes
    rw [resolve_spec, dead]
    simp
  · rcases free_spec (p := s.pool) handle with ⟨missing, _⟩ | ⟨i, live, rfl, _⟩
    · rw [missing]
      simp
    · rw [liveAt_slot inv.pool live] at dead
      cases dead
  · intro bytes alignment rc issued pool answered
    rcases alloc_spec inv.pool bytes alignment with ⟨_, _, failed⟩ | ⟨_, _, _, _, _, placed⟩
    · rw [failed] at answered
      obtain rfl := congrArg (·.2.1) (Option.some.inj answered)
      exact wasIssued.1.symm
    · rw [placed] at answered
      obtain rfl := congrArg (·.2.1) (Option.some.inj answered)
      rintro rfl
      exact next_unissued wasIssued

/-- Handles over any run: a freed one is dead for good, an issued one keeps its
meaning until it is freed, and a failed call changes nothing. -/
theorem handle_lifetime (phys va size : UInt64) (p : NvVramPool n)
    (initialised : nvVramPoolInit phys va size = (0, some p)) (ops : List PoolOp) :
    ∃ s, run (fresh p) ops = some s ∧
      (∀ handle, (nvVramFree s.pool handle).1 = 0 → ∀ later, ∃ t,
        run s (.free handle :: later) = some t ∧
        (∀ offset bytes, (nvVramResolve t.pool handle offset bytes).1 ≠ 0) ∧
        (nvVramFree t.pool handle).1 ≠ 0 ∧
        ∀ bytes alignment rc issued pool,
          nvVramAlloc t.pool bytes alignment = some (rc, issued, pool) → issued ≠ handle) ∧
      (∀ op, ∃ reply next, s.step op = some (reply, next) ∧
        (∀ handle alignment, (handle, alignment) ∈ s.asked →
          ¬ (op = .free handle ∧ reply.rc = 0) →
          ∀ offset bytes, nvVramResolve next.pool handle offset bytes =
            nvVramResolve s.pool handle offset bytes) ∧
        (reply.rc ≠ 0 → next = s ∧ reply.handle = 0)) := by
  obtain ⟨s, ended, inv, _⟩ := run_inv (fresh p) (init_inv phys va size p initialised) ops
  refine ⟨s, ended, ?_, ?_⟩
  · intro handle freed later
    rcases free_spec (p := s.pool) handle with ⟨missing, _⟩ | ⟨i, live, rfl, evicted⟩
    · rw [missing] at freed
      cases freed
    · have stepped : s.step (.free (s.pool.allocations i).handle) =
          some (⟨0, 0, 0, 0⟩, ⟨evict s.pool i, s.asked⟩) := by
        simp only [Session.step, evicted]
      -- The release retires the handle, and no later step of the leases brings it back.
      obtain ⟨kept, _, _⟩ := effect_inv (.released i live) inv
      obtain ⟨t, finished, final, steps⟩ := run_inv _ kept later
      have retired : Lease.Retired (lease (evict s.pool i)) (s.pool.allocations i).handle := by
        rw [evict_lease inv.pool live]
        exact Lease.release_retires _ (live_issued inv.pool (liveAt_slot inv.pool live))
      refine ⟨t, ?_, retired_dead final (Lease.retired_steps steps retired)⟩
      simp only [run, stepped, finished]
  · intro op
    obtain ⟨reply, next, stepped, effect⟩ := step_effect s inv.pool op
    obtain ⟨_, _, vaKept, physKept⟩ := effect_inv effect inv
    refine ⟨reply, next, stepped, ?_, ?_⟩
    · intro handle alignment asked kept offset bytes
      exact resolve_of_live handle offset bytes physKept vaKept
        (effect_frame effect inv handle (inv.issued handle alignment asked) kept)
    · intro failed
      cases effect with
      | refused => exact ⟨rfl, rfl⟩
      | resolved => exact absurd rfl failed
      | granted => exact absurd rfl failed
      | released => exact absurd rfl failed

theorem handle_lifetime_gibibyte :
    ∃ s, run (fresh gibibytePool) [.alloc 0x1000 0x1000] = some s ∧
      ∃ t, run s [.free 1, .alloc 0x1000 0x1000] = some t ∧
        (nvVramResolve t.pool 1 0 1).1 ≠ 0 ∧ (nvVramFree t.pool 1).1 ≠ 0 := by
  obtain ⟨s, ended, dead, _⟩ := handle_lifetime 0x180000000 0x40000000 0x40010000 gibibytePool
    (by rw [nvVramPoolInit, if_neg (by decide)]; rfl) [.alloc 0x1000 0x1000]
  have issued : ((run (fresh gibibytePool) [.alloc 0x1000 0x1000]).map
      fun s => (nvVramFree s.pool 1).1) = some 0 := by
    decide +kernel
  rw [ended, Option.map_some] at issued
  obtain ⟨t, finished, resolve, free, _⟩ := dead 1 (Option.some.inj issued)
    [.alloc 0x1000 0x1000]
  exact ⟨s, ended, t, finished, resolve 0 1, free⟩

end GspDriver.VramRuns
