import GspDriver.MilcorixUserClient
import GspDriver.VramRuns

/-!
A new resource is cleared before its handle is given out: the processor writes
one page of zeros, and copies of the clear prefix double it up to the transfer
limit until it covers the resource. The invariant is that the prefix is clear
and that nothing else of the data region has changed. Every operation may fail;
then the handle is released again.
-/

namespace GspDriver.ZeroOnAlloc

open Bytes Loop Words Pramin Vram VramPool MilcorixFB MilcorixFB.Owner MilcorixUserClient

variable {n : Nat}

/-- The operations, newest first, clear the first `filled` bytes: each copy
continues where the one before it ended, from a source that ends before it. -/
inductive Tiles (offset : UInt64) : List HwOp → Nat → Prop
  | seed (len : UInt32) : Tiles offset [.write offset len] len.toNat
  | double (ops : List HwOp) (filled : Nat) (dst : UInt64) (bytes : UInt32)
      (before : Tiles offset ops filled) (next : dst.toNat = offset.toNat + filled)
      (apart : bytes.toNat ≤ filled) :
      Tiles offset (.copy offset dst bytes :: ops) (filled + bytes.toNat)

section Clear

variable (env : Outside) (o : Owner) (offset bytes : UInt64)

/-- The window reaches the whole data region: the driver plans it inside
framebuffer regions that end below `2 ^ 40`. -/
def Reached : Prop := o.scratchPhys.toNat + o.scratchSize.toNat ≤ reach

structure Cleared (s : Clearing) : Prop where
  keeps : Keeps o s.owner
  low : 4096 ≤ s.filled.toNat
  high : s.filled.toNat ≤ bytes.toNat
  tiles : ∃ ops, s.owner.issued = ops ++ o.issued ∧ Tiles offset ops s.filled.toNat
  zero : Reached o → s.rc = .success → ∀ x, o.InRegion x →
    s.owner.card.vram x = clear o.card.vram (o.scratchPhys.toNat + offset.toNat) s.filled.toNat x

structure ClearPost (result : IOReturn × Owner) : Prop where
  keeps : Keeps o result.2
  tiles : ∃ ops filled, result.2.issued = ops ++ o.issued ∧ filled ≤ bytes.toNat ∧
    Tiles offset ops filled
  whole : result.1 = .success →
    (∃ ops, result.2.issued = ops ++ o.issued ∧ Tiles offset ops bytes.toNat) ∧
    (Reached o → ∀ x, o.InRegion x → result.2.card.vram x =
      clear o.card.vram (o.scratchPhys.toNat + offset.toNat) bytes.toNat x)

variable {o offset bytes}

theorem clearChunk_spec {filled : UInt64} (low : 4096 ≤ filled.toNat)
    (short : filled.toNat < bytes.toNat) :
    0 < (clearChunk bytes filled).toNat ∧ (clearChunk bytes filled).toNat ≤ filled.toNat ∧
      filled.toNat + (clearChunk bytes filled).toNat ≤ bytes.toNat ∧
      (clearChunk bytes filled).toUInt32.toNat = (clearChunk bytes filled).toNat := by
  have most : milcorixMaxXfer.toNat = 0x400000 := by decide
  have left : (bytes - filled).toNat = bytes.toNat - filled.toNat := sub_toNat (by omega)
  have first : (if bytes - filled > filled then filled else bytes - filled).toNat =
      min (bytes.toNat - filled.toNat) filled.toNat := by
    split
    · rename_i more
      rw [gt_iff_lt, UInt64.lt_iff_toNat_lt, left] at more
      omega
    · rename_i less
      rw [gt_iff_lt, UInt64.not_lt, UInt64.le_iff_toNat_le, left] at less
      omega
  have size : (clearChunk bytes filled).toNat =
      min (min (bytes.toNat - filled.toNat) filled.toNat) 0x400000 := by
    rw [clearChunk]
    generalize (if bytes - filled > filled then filled else bytes - filled) = chunk at first ⊢
    split
    · rename_i more
      rw [gt_iff_lt, UInt64.lt_iff_toNat_lt, most] at more
      omega
    · rename_i less
      rw [gt_iff_lt, UInt64.not_lt, UInt64.le_iff_toNat_le, most] at less
      omega
  rw [UInt64.toNat_toUInt32, size]
  omega

theorem clear_turn (room : offset.toNat + bytes.toNat < 2 ^ 64) {s : Clearing}
    (cleared : Cleared o offset bytes s) :
    Establishes (Cleared o offset bytes) (fun s => bytes.toNat - s.filled.toNat)
      (ClearPost o offset bytes) s (clearTurn env offset bytes s) := by
  obtain ⟨keeps, low, high, ⟨ops, listed, tiles⟩, zero⟩ := cleared
  rw [clearTurn]
  by_cases goes : s.rc = .success ∧ s.filled < bytes
  · rw [if_pos goes]
    obtain ⟨fine, short⟩ := goes
    rw [UInt64.lt_iff_toNat_lt] at short
    obtain ⟨positive, apart, below, narrow⟩ := clearChunk_spec low short
    have performs := gpuCopy_performs env s.owner offset (offset + s.filled)
      (clearChunk bytes s.filled).toUInt32
    have dst : (offset + s.filled).toNat = offset.toNat + s.filled.toNat := add_toNat (by omega)
    have filled : (s.filled + clearChunk bytes s.filled).toNat =
        s.filled.toNat + (clearChunk bytes s.filled).toNat := add_toNat (by omega)
    refine ⟨⟨keeps_trans keeps performs.keeps, ?_, ?_, ?_, ?_⟩, ?_⟩
    · simp only [filled]
      omega
    · simp only [filled]
      exact below
    -- Each copy appends a tile that its source, the prefix so far, does not meet.
    · refine ⟨.copy offset (offset + s.filled) (clearChunk bytes s.filled).toUInt32 :: ops, ?_, ?_⟩
      · change (s.owner.gpuCopy env _ _ _).2.2.issued = _
        rw [performs.issued, listed, List.cons_append]
      · have doubled := Tiles.double ops _ _ (clearChunk bytes s.filled).toUInt32 tiles dst
          (by omega)
        rw [narrow, ← filled] at doubled
        exact doubled
    · intro reached copied x inRegion
      have there : s.owner.InRegion x := by
        rw [InRegion, keeps.phys, keeps.size]
        exact inRegion
      have moved := gpuCopy_vram env s.owner offset (offset + s.filled) _ copied x there
      change (s.owner.gpuCopy env _ _ _).2.2.card.vram x = _
      rw [moved, keeps.phys, dst, narrow]
      simp only [filled]
      have before := zero reached fine
      -- the copied bytes are a part of the prefix that is clear already
      by_cases hit : o.scratchPhys.toNat + (offset.toNat + s.filled.toNat) ≤ x ∧
          x < o.scratchPhys.toNat + (offset.toNat + s.filled.toNat) +
            (clearChunk bytes s.filled).toNat
      · rw [blit_inside _ _ _ _ x hit, clear_inside _ _ _ x (by omega), before, clear_inside]
        · omega
        · have region := inRegion
          simp only [InRegion] at region ⊢
          omega
      · rw [blit_outside _ _ _ _ x (by omega), before x inRegion]
        simp only [clear]
        split_ifs <;> first | rfl | omega
    · simp only [filled]
      omega
  · rw [if_neg goes]
    refine ⟨keeps, ⟨ops, s.filled.toNat, listed, high, tiles⟩, fun fine => ?_⟩
    have full : s.filled.toNat = bytes.toNat := by
      have done := mt (And.intro fine) goes
      rw [UInt64.not_lt, UInt64.le_iff_toNat_le] at done
      omega
    rw [← full]
    exact ⟨⟨ops, listed, tiles⟩, fun reached => zero reached fine⟩

theorem blit_zero (m : Mem) (a k : Nat) : blit m a k (fun _ => 0) = clear m a k := rfl

theorem clear_returns (mallocs : Bool) (page : 4096 ≤ bytes.toNat)
    (room : offset.toNat + bytes.toNat ≤ o.scratchSize.toNat) :
    ∃ result, clearResource env o offset bytes mallocs = some result ∧
      (result = (.noMemory, o) ∨ ClearPost o offset bytes result) := by
  have limit := o.scratchSize.toNat_lt
  have seedLen : (4096 : UInt32).toNat = 4096 := by decide
  have seedFilled : (4096 : UInt64).toNat = 4096 := by decide
  rw [clearResource]
  by_cases granted : mallocs = true
  · rw [if_neg (not_not_intro granted)]
    have performs := gpuWrite_performs env o offset (fun _ => 0) 4096
    have start : Cleared o offset bytes
        { rc := (o.gpuWrite env offset (fun _ => 0) 4096).1, filled := 4096
          owner := (o.gpuWrite env offset (fun _ => 0) 4096).2 } := by
      refine ⟨performs.keeps, Nat.le_of_eq seedFilled.symm, ?_, ?_, ?_⟩
      · rw [seedFilled]
        exact page
      · refine ⟨[.write offset 4096], performs.issued, ?_⟩
        rw [seedFilled, ← seedLen]
        exact .seed 4096
      · intro reached wrote x _
        rw [gpuWrite_vram env o offset _ 4096 (by decide) reached wrote, blit_zero, seedLen,
          seedFilled]
    obtain ⟨result, ended, post⟩ := while_returns (clearTurn env offset bytes)
      (Cleared o offset bytes) (fun s => bytes.toNat - s.filled.toNat) (ClearPost o offset bytes)
      (fun s cleared => clear_turn env (by omega) cleared) (bytes.toNat + 1) _ start (by
        simp only [seedFilled]
        omega)
    exact ⟨result, ended, Or.inr post⟩
  · rw [if_pos granted]
    exact ⟨_, rfl, Or.inl rfl⟩

end Clear

/-! What methodAlloc does. -/

/-- The operations of one call: none, or a clear as far as it came. -/
def ClearOps (o o' : Owner) : Prop :=
  ∃ ops, o'.issued = ops ++ o.issued ∧ (ops = [] ∨ ∃ offset filled, Tiles offset ops filled)

structure SamePool (p q : NvVramPool n) : Prop where
  inv : PoolInv q
  phys : q.phys = p.phys
  size : q.size = p.size

inductive AllocSpec (c : Client n) (bytes : UInt64) : Reply → Client n → Prop
  | refused (rc : IOReturn) (out : List UInt64) (bad : rc ≠ .success) :
      AllocSpec c bytes ⟨rc, out, .nothing⟩ c
  | released (rc : IOReturn) (owner : Owner) (pool : NvVramPool n) (bad : rc ≠ .success)
      (keeps : Keeps c.owner owner) (ops : ClearOps c.owner owner) (same : SamePool c.fPool pool)
      (live : liveAt pool = liveAt c.fPool) :
      AllocSpec c bytes ⟨rc, [0, 0], .nothing⟩ { c with owner := owner, fPool := pool }
  | granted (owner : Owner) (pool : NvVramPool n) (a : NvVramAllocation)
      (rounded : alignUp bytes nvVramPageBytes = some a.size)
      (keeps : Keeps c.owner owner) (same : SamePool c.fPool pool)
      (unused : liveAt c.fPool a.handle = none)
      (live : liveAt pool = Function.update (liveAt c.fPool) a.handle (some a))
      (tiles : ∃ ops, owner.issued = ops ++ c.owner.issued ∧ Tiles a.offset ops a.size.toNat)
      (zero : Reached c.owner → ∀ x, c.owner.InRegion x → owner.card.vram x =
        clear c.owner.card.vram (c.owner.scratchPhys.toNat + a.offset.toNat) a.size.toNat x) :
      AllocSpec c bytes ⟨.success, [a.handle, a.size], .nothing⟩
        { owner := owner, fPool := pool, fManaged := true }

/-- The pool's data region is the owner's. -/
structure Backed (c : Client n) : Prop where
  inv : PoolInv c.fPool
  phys : c.fPool.phys = 0
  size : c.fPool.size = c.owner.scratchSize

section Alloc

variable {p : NvVramPool n} (inv : PoolInv p) {slot : Fin n} {candidate bytes alignment : UInt64}
  (grantable : Grantable p slot candidate bytes alignment)
include inv grantable

theorem place_live : liveAt (place p slot candidate bytes) =
    Function.update (liveAt p) p.nextHandle (some ⟨p.nextHandle, candidate, bytes⟩) :=
  congrArg Lease.Table.live (place_lease inv grantable)

omit grantable in
theorem next_unused : liveAt p p.nextHandle = none := by
  cases found : liveAt p p.nextHandle with
  | none => rfl
  | some a => exact absurd (live_issued inv found) next_unissued

/-- The new resource resolves to where it was placed. -/
theorem place_resolves (phys : p.phys = 0) :
    (nvVramResolve (place p slot candidate bytes) p.nextHandle 0 bytes).2.1 = candidate := by
  have positive := grantable.positive
  have nonzero : bytes ≠ 0 := by
    intro zero
    rw [zero, UInt64.toNat_zero] at positive
    omega
  have admitted : ¬ (bytes = 0 ∨ (0 : UInt64) > bytes ∨ bytes > bytes - 0) := by
    simp [nonzero]
  have bases : (place p slot candidate bytes).phys = p.phys := rfl
  rw [resolve_spec, place_live inv grantable, Function.update_self]
  simp only [if_neg admitted, bases, phys]
  simp

/-- Freeing it at once restores the live allocations. -/
theorem place_free :
    SamePool p (nvVramFree (place p slot candidate bytes) p.nextHandle).2 ∧
      liveAt (nvVramFree (place p slot candidate bytes) p.nextHandle).2 = liveAt p := by
  have after := place_inv inv grantable
  have live := place_live inv grantable
  rcases free_spec (p := place p slot candidate bytes) p.nextHandle with ⟨_, missing⟩ |
    ⟨i, alive, same, freed⟩
  · rw [live, Function.update_self] at missing
    cases missing
  · rw [freed]
    refine ⟨⟨evict_inv after, rfl, rfl⟩, ?_⟩
    have released : liveAt (evict (place p slot candidate bytes) i) =
        Function.update (liveAt (place p slot candidate bytes))
          ((place p slot candidate bytes).allocations i).handle none :=
      congrArg Lease.Table.live (evict_lease after alive)
    rw [released, same, live, Function.update_idem]
    exact Function.update_eq_self_iff.mpr (next_unused inv).symm

end Alloc

theorem rounded_eq {bytes rounded : UInt64} (up : alignUp bytes nvVramPageBytes = some rounded) :
    (bytes + 4095) &&& ~~~4095 = rounded := by
  rw [alignUp] at up
  split at up
  · cases up
  · cases up
    have sum : bytes + nvVramPageBytes - 1 = bytes + 4095 := by
      rw [nvVramPageBytes, sub_eq_add_neg, add_assoc]
      rfl
    rw [sum]
    rfl

theorem alloc_outcome (env : Outside) (c : Client n) (backed : Backed c)
    (args : IOExternalMethodArguments) (mallocs : Bool) :
    ∃ reply next, methodAlloc env c args mallocs = some (reply, next) ∧
      AllocSpec c (args.scalarInput 0) reply next := by
  obtain ⟨inv, phys, size⟩ := backed
  rw [methodAlloc]
  by_cases counts : args.scalarInputCount ≠ 2 ∨ args.scalarOutputCount < 2
  · rw [if_pos counts]
    exact ⟨_, _, rfl, .refused _ _ (by decide)⟩
  rw [if_neg counts]
  by_cases verified : c.owner.gpuPoolVerified = true
  swap
  · rw [if_pos verified]
    exact ⟨_, _, rfl, .refused _ _ (by decide)⟩
  rw [if_neg (not_not_intro verified)]
  rcases alloc_spec inv (args.scalarInput 0) (args.scalarInput 1) with ⟨err, negative, failed⟩ |
    ⟨slot, candidate, rounded, up, grantable, placed⟩
  · have bad : err ≠ 0 := by omega
    simp only [failed, if_pos bad]
    refine ⟨_, _, rfl, .refused _ _ ?_⟩
    split <;> decide
  · have sized := rounded_eq up
    have offset := place_resolves inv grantable phys
    have page : 4096 ≤ rounded.toNat := Nat.le_of_dvd grantable.positive grantable.page
    have room := grantable.placed.room
    have inside : candidate.toNat + rounded.toNat ≤ c.owner.scratchSize.toNat := by
      rw [← size]
      exact room
    obtain ⟨result, ended, post⟩ := clear_returns env mallocs page inside
    simp only [placed, sized, offset, ended, ne_eq, not_true_eq_false, ↓reduceIte, Option.map_some]
    have same : SamePool c.fPool (place c.fPool slot candidate rounded) :=
      ⟨place_inv inv grantable, rfl, rfl⟩
    obtain ⟨freed, restored⟩ := place_free inv grantable
    -- An allocation that could not be cleared is freed again under the same handle.
    by_cases fine : result.1 = .success
    · rw [if_neg (not_not_intro fine)]
      rcases post with rfl | post
      · cases fine
      · obtain ⟨tiles, zero⟩ := post.whole fine
        exact ⟨_, _, rfl, .granted result.2 _ ⟨c.fPool.nextHandle, candidate, rounded⟩ up
          post.keeps same (next_unused inv) (place_live inv grantable) tiles zero⟩
    · rw [if_pos fine]
      refine ⟨_, _, rfl, .released result.1 result.2 _ fine ?_ ?_ freed restored⟩
      · rcases post with rfl | post
        · exact keeps_refl _
        · exact post.keeps
      · rcases post with rfl | post
        · exact ⟨[], rfl, Or.inl rfl⟩
        · obtain ⟨ops, filled, listed, _, tiles⟩ := post.tiles
          exact ⟨ops, listed, Or.inr ⟨candidate, filled, tiles⟩⟩

theorem tiles_apart {offset : UInt64} {ops : List HwOp} {filled : Nat}
    (tiles : Tiles offset ops filled) {src dst : UInt64} {bytes : UInt32}
    (member : .copy src dst bytes ∈ ops) : src.toNat + bytes.toNat ≤ dst.toNat := by
  induction tiles with
  | seed len => simp at member
  | double ops filled dst' bytes' before next apart ih =>
      rcases List.mem_cons.mp member with here | earlier
      · cases here
        omega
      · exact ih earlier

/-- The new resource is live, all zero, and alone in having changed. -/
structure Zeroed (c next : Client n) (ops : List HwOp) (a : NvVramAllocation) : Prop where
  unused : liveAt c.fPool a.handle = none
  live : liveAt next.fPool = Function.update (liveAt c.fPool) a.handle (some a)
  tiles : Tiles a.offset ops a.size.toNat
  zero : ∀ x, a.offset.toNat ≤ x → x < limit a →
    next.owner.card.vram (c.owner.scratchPhys.toNat + x) = 0
  others : ∀ x < c.owner.scratchSize.toNat, x < a.offset.toNat ∨ limit a ≤ x →
    next.owner.card.vram (c.owner.scratchPhys.toNat + x) =
      c.owner.card.vram (c.owner.scratchPhys.toNat + x)

/-- What the source promises of one Alloc call. -/
def AllocZeroes (env : Outside) (c : Client n) (args : IOExternalMethodArguments)
    (mallocs : Bool) : Prop :=
  ∃ reply next ops, methodAlloc env c args mallocs = some (reply, next) ∧
    next.owner.issued = ops ++ c.owner.issued ∧
    (∀ src dst bytes, .copy src dst bytes ∈ ops → src.toNat + bytes.toNat ≤ dst.toNat) ∧
    (reply.rc = .success → ∃ a, alignUp (args.scalarInput 0) nvVramPageBytes = some a.size ∧
      reply.scalarOutput = [a.handle, a.size] ∧ Zeroed c next ops a) ∧
    (reply.rc ≠ .success → liveAt next.fPool = liveAt c.fPool)

/-- Zero on allocate. -/
theorem alloc_zeroes (env : Outside) (c : Client n) (backed : Backed c) (reached : Reached c.owner)
    (args : IOExternalMethodArguments) (mallocs : Bool) : AllocZeroes env c args mallocs := by
  obtain ⟨reply, next, returned, spec⟩ := alloc_outcome env c backed args mallocs
  cases spec with
  | refused rc out bad =>
      exact ⟨_, _, [], returned, rfl, by simp, fun fine => absurd fine bad, fun _ => rfl⟩
  | released rc owner pool bad keeps issued same live =>
      obtain ⟨ops, listed, shape⟩ := issued
      refine ⟨_, _, ops, returned, listed, ?_, fun fine => absurd fine bad, fun _ => live⟩
      intro src dst bytes member
      rcases shape with rfl | ⟨offset, filled, tiles⟩
      · cases member
      · exact tiles_apart tiles member
  | granted owner pool a rounded keeps same unused live issued zero =>
      obtain ⟨ops, listed, tiles⟩ := issued
      have fits : limit a ≤ c.owner.scratchSize.toNat := by
        have found : liveAt pool a.handle = some a := by rw [live, Function.update_self]
        obtain ⟨i, alive, here, _⟩ := liveAt_some found
        have inside := same.inv.inside i alive
        rw [here, same.size, backed.size] at inside
        exact inside
      refine ⟨_, _, ops, returned, listed, fun _ _ _ member => tiles_apart tiles member,
        fun _ => ⟨a, rounded, rfl, unused, live, tiles, ?_, ?_⟩, fun bad => absurd rfl bad⟩
      · intro x above below
        rw [limit] at below fits
        rw [zero reached _ ⟨by omega, by omega⟩, clear_inside _ _ _ _ (by omega)]
      · intro x inRegion outside
        rw [limit] at outside
        rw [zero reached _ ⟨by omega, by omega⟩, clear_outside _ _ _ _ (by omega)]

/-! A card with a gibibyte of data region that holds old data. -/

def usedCard : Mmio := { window := 0, regs := fun _ => 0, vram := fun _ => 0xff, accesses := [] }

def gibibyteOwner : Owner :=
  { card := usedCard, fGpuLock := true, ok := true, externalVmm := true, poolSelftestOk := true
    scratchVA := 0x120000000, scratchPhys := 0x20003000, scratchSize := 0x40000000
    hChannel := 1, hCe := 1, fGpuClients := 1, clock := 0, issued := [] }

def gibibyteClient : Client nvVramMaxAllocs :=
  { owner := gibibyteOwner, fManaged := true
    fPool := ⟨0, 0x120000000, 0x40000000, 0, 1, fun _ => .zero⟩ }

theorem gibibyteClient_backed : Backed gibibyteClient := by
  refine ⟨?_, rfl, rfl⟩
  have initialised : nvVramPoolInit 0 0x120000000 0x40000000 = (0, some gibibyteClient.fPool) := by
    rw [nvVramPoolInit, if_neg (by decide)]
    rfl
  exact (VramRuns.init_inv _ _ _ _ initialised).pool

def scalars (inputs : List UInt64) (outputs : UInt32) : IOExternalMethodArguments :=
  { scalarInput := fun i => inputs.getD i 0, scalarInputCount := UInt32.ofNat inputs.length
    structureInput := none, structureInputSize := 0, structureInputDescriptor := none
    scalarOutputCount := outputs, structureOutput := false, structureOutputSize := 0
    structureOutputDescriptor := none }

def healthy : Outside :=
  { torn := fun _ => false, submission := fun _ => .done usedCard, nanos := fun _ => 0 }

def oddAlloc : IOExternalMethodArguments := scalars [0x2800123, 0x10000] 2

/-- A size between pages of a bit more than 40 MiB is granted and cleared. -/
theorem alloc_zeroes_odd_size :
    ∃ reply next ops a, methodAlloc healthy gibibyteClient oddAlloc true = some (reply, next) ∧
      reply.rc = .success ∧ reply.scalarOutput = [a.handle, a.size] ∧ a.size.toNat = 0x2801000 ∧
      Zeroed gibibyteClient next ops a := by
  obtain ⟨reply, next, ops, returned, _, _, granted, _⟩ := alloc_zeroes healthy gibibyteClient
    gibibyteClient_backed (show _ ≤ reach by decide) oddAlloc true
  have goes : (methodAlloc healthy gibibyteClient oddAlloc true).map (fun r => r.1.rc) =
      some .success := by decide +kernel
  rw [returned, Option.map_some, Option.some_inj] at goes
  obtain ⟨a, rounded, out, zeroed⟩ := granted goes
  have up : alignUp (oddAlloc.scalarInput 0) nvVramPageBytes = some 0x2801000 := by decide
  rw [up, Option.some_inj] at rounded
  exact ⟨reply, next, ops, a, returned, goes, out, by rw [← rounded]; decide, zeroed⟩

end GspDriver.ZeroOnAlloc
