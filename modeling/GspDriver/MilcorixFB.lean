import GspDriver.Pramin

/-!
The hardware access of MilcorixFB.cpp that its user client calls. `issued`
lists the calls of gpuWrite, gpuRead and gpuCopy, newest first. What else
happens to the card is `Outside`: before operation `k` under the lock the
provider may have been torn down, and a copy submitted as operation `k` either
completes or ends in a timeout. A copy moves the bytes of the data region that
the two GPU addresses map; the rest of the card is left as the submission
leaves it. Lengths stay far below `2 ^ 32` (the client caps them at 4 MiB), so
the byte counters of the loops do not wrap.
-/

namespace GspDriver.MilcorixFB

open Bytes LittleEndian Loop Words Pramin

inductive IOReturn where
  | success
  | badArgument
  | noMemory
  | vmError
  | ioError
  | notReady
  | notAttached
  | unsupported
  deriving DecidableEq

inductive HwOp where
  | write (offset : UInt64) (len : UInt32)
  | read (offset : UInt64) (len : UInt32)
  | copy (srcOffset dstOffset : UInt64) (bytes : UInt32)
  deriving DecidableEq

inductive Submission where
  | done (card : Mmio)
  | timeout (card : Mmio)

structure Outside where
  torn : Nat → Bool
  submission : Nat → Submission
  nanos : Nat → UInt64

/-- The provider: its card, its lock, and what it keeps of the GPU context. -/
structure Owner where
  card : Mmio
  fGpuLock : Bool
  ok : Bool
  externalVmm : Bool
  poolSelftestOk : Bool
  scratchVA : UInt64
  scratchPhys : UInt64
  scratchSize : UInt64
  hChannel : UInt32
  hCe : UInt32
  fGpuClients : UInt32
  clock : Nat
  issued : List HwOp

namespace Owner

def gpuReady (o : Owner) : Bool := o.ok
def gpuPoolVerified (o : Owner) : Bool := o.ok && o.externalVmm && o.poolSelftestOk

def gpuClientOpen (o : Owner) : Bool × Owner :=
  if o.fGpuLock ∧ o.fGpuClients = 0 ∧ o.ok then (true, { o with fGpuClients := 1 }) else (false, o)

/-- Time passes up to the next operation under the lock. -/
def tick (env : Outside) (o : Owner) : Owner :=
  { o with clock := o.clock + 1, ok := o.ok && !env.torn o.clock }

def gpuRegionOk (o : Owner) (offset : UInt64) (len : UInt32) : Bool :=
  o.ok && len ≠ 0 && offset ≤ o.scratchSize && len.toUInt64 ≤ o.scratchSize - offset

def aperture (o : Owner) : Aperture := { io := o.card, winBase := ~~~0 }

/-- Byte `b` of `w` replaced. -/
def setByte (w : UInt32) (b : Nat) (byte : UInt8) : UInt32 :=
  (w &&& ~~~((0xff : UInt32) <<< UInt32.ofNat (8 * b))) ||| (byte.toUInt32 <<< UInt32.ofNat (8 * b))

def writeWords (s : Aperture) (phys : UInt64) (data : Nat → UInt8) (words : Nat) : Aperture :=
  forCount words (fun k s => nvPraminWr32 s (phys + UInt64.ofNat (4 * k)) (ld32 data (4 * k))) s

def writeTail (s : Aperture) (phys : UInt64) (data : Nat → UInt8) (i len : Nat) : Aperture :=
  if i < len then
    let read := nvPraminRd32 s (phys + UInt64.ofNat i)
    let w := forCount (len - i) (fun b w => setByte w b (data (i + b))) read.1
    nvPraminWr32 read.2 (phys + UInt64.ofNat i) w
  else s

def gpuWriteLocked (o : Owner) (offset : UInt64) (data : Nat → UInt8) (len : UInt32) :
    IOReturn × Owner :=
  if ¬ o.gpuRegionOk offset len then (.badArgument, o)
  else
    let phys := o.scratchPhys + offset
    let words := len.toNat / 4
    let s := writeTail (writeWords o.aperture phys data words) phys data (4 * words) len.toNat
    (.success, { o with card := s.io })

def readWords (s : Aperture) (phys : UInt64) (words : Nat) : List UInt8 × Aperture :=
  forCount words (fun k state =>
    let read := nvPraminRd32 state.2 (phys + UInt64.ofNat (4 * k))
    (state.1 ++ [read.1.toUInt8, (read.1 >>> 8).toUInt8, (read.1 >>> 16).toUInt8,
      (read.1 >>> 24).toUInt8], read.2)) ([], s)

def readTail (state : List UInt8 × Aperture) (phys : UInt64) (i len : Nat) :
    List UInt8 × Aperture :=
  if i < len then
    let read := nvPraminRd32 state.2 (phys + UInt64.ofNat i)
    (state.1 ++ (List.range (len - i)).map fun b => (read.1 >>> UInt32.ofNat (8 * b)).toUInt8,
      read.2)
  else state

/-- The bytes read are empty unless the call succeeds. -/
def gpuReadLocked (o : Owner) (offset : UInt64) (len : UInt32) : IOReturn × List UInt8 × Owner :=
  if ¬ o.gpuRegionOk offset len then (.badArgument, [], o)
  else
    let phys := o.scratchPhys + offset
    let words := len.toNat / 4
    let state := readTail (readWords o.aperture phys words) phys (4 * words) len.toNat
    (.success, state.1, { o with card := state.2.io })

def issue (o : Owner) (op : HwOp) : Owner := { o with issued := op :: o.issued }

def gpuWrite (env : Outside) (o : Owner) (offset : UInt64) (data : Nat → UInt8) (len : UInt32) :
    IOReturn × Owner :=
  let o := o.issue (.write offset len)
  if ¬ o.fGpuLock then (.notReady, o) else gpuWriteLocked (o.tick env) offset data len

def gpuRead (env : Outside) (o : Owner) (offset : UInt64) (len : UInt32) :
    IOReturn × List UInt8 × Owner :=
  let o := o.issue (.read offset len)
  if ¬ o.fGpuLock then (.notReady, [], o) else gpuReadLocked (o.tick env) offset len

def InRegion (o : Owner) (x : Nat) : Prop :=
  o.scratchPhys.toNat ≤ x ∧ x < o.scratchPhys.toNat + o.scratchSize.toNat

instance (o : Owner) (x : Nat) : Decidable (o.InRegion x) := instDecidableAnd

/-- The card after a completed copy: exact in the data region. -/
def copied (o : Owner) (card : Mmio) (srcOffset dstOffset : UInt64) (bytes : UInt32) : Mmio :=
  let src := o.scratchPhys.toNat + srcOffset.toNat
  let dst := o.scratchPhys.toNat + dstOffset.toNat
  let moved := blit o.card.vram dst bytes.toNat fun i => o.card.vram (src + i)
  { card with vram := fun x => if o.InRegion x then moved x else card.vram x }

/-- Return code, `*outNanos` and the provider. -/
def gpuCopy (env : Outside) (o : Owner) (srcOffset dstOffset : UInt64) (bytes : UInt32) :
    IOReturn × UInt64 × Owner :=
  let o := o.issue (.copy srcOffset dstOffset bytes)
  if ¬ o.fGpuLock then (.notReady, 0, o)
  else
    let now := o.clock
    let o := o.tick env
    if ¬ o.gpuRegionOk srcOffset bytes ∨ ¬ o.gpuRegionOk dstOffset bytes then (.badArgument, 0, o)
    else if srcOffset < dstOffset + bytes.toUInt64 ∧ dstOffset < srcOffset + bytes.toUInt64 then
      (.badArgument, 0, o)
    else match env.submission now with
      | .done card =>
          (.success, env.nanos now, { o with card := o.copied card srcOffset dstOffset bytes })
      | .timeout card => (.ioError, env.nanos now, { o with card := card, ok := false })

/-! What the operations leave. -/

theorem writeWords_tracks {s : Aperture} {regs : UInt32 → UInt32} {m : Mem}
    (tracks : Tracks s regs m) (phys : UInt64) (data : Nat → UInt8) (words : Nat)
    (inside : phys.toNat + 4 * words ≤ reach) :
    Tracks (writeWords s phys data words) regs (blit m phys.toNat (4 * words) data) := by
  have limit : reach < 2 ^ 64 := by decide
  apply forCount_invariant words _ s
    (fun k s => Tracks s regs (blit m phys.toNat (4 * k) data))
  · have empty : blit m phys.toNat (4 * 0) data = m := by
      funext x
      exact blit_outside m phys.toNat 0 data x (by omega)
    rwa [empty]
  · intro k below state reached
    have offset : (UInt64.ofNat (4 * k)).toNat = 4 * k := ofNat_toNat (by omega)
    have place : (phys + UInt64.ofNat (4 * k)).toNat = phys.toNat + 4 * k := by
      rw [add_toNat (by omega), offset]
    have written := wr32_tracks state regs _ reached (phys + UInt64.ofNat (4 * k))
      (ld32 data (4 * k)) (by omega)
    rw [place, ld32_toNat, store_load, blit_append] at written
    exact written

theorem gpuRegionOk_iff (o : Owner) (offset : UInt64) (len : UInt32) :
    o.gpuRegionOk offset len = true ↔
      o.ok = true ∧ 0 < len.toNat ∧ offset.toNat + len.toNat ≤ o.scratchSize.toNat := by
  have positive : len ≠ 0 ↔ 0 < len.toNat := by
    rw [ne_eq, ← UInt32.toNat_inj, UInt32.toNat_zero]
    omega
  simp only [gpuRegionOk, Bool.and_eq_true, decide_eq_true_eq, positive, UInt64.le_iff_toNat_le,
    UInt32.toNat_toUInt64]
  constructor
  · rintro ⟨⟨⟨ready, some⟩, below⟩, room⟩
    rw [sub_toNat below] at room
    exact ⟨ready, some, by omega⟩
  · rintro ⟨ready, some, room⟩
    refine ⟨⟨⟨ready, some⟩, by omega⟩, ?_⟩
    rw [sub_toNat (by omega)]
    omega

/-- A successful write of whole words moves exactly its bytes. -/
theorem gpuWriteLocked_vram (o : Owner) (offset : UInt64) (data : Nat → UInt8) (len : UInt32)
    (whole : 4 ∣ len.toNat) (inside : o.scratchPhys.toNat + o.scratchSize.toNat ≤ reach)
    (ok : o.gpuRegionOk offset len) :
    (gpuWriteLocked o offset data len).2.card.vram =
      blit o.card.vram (o.scratchPhys.toNat + offset.toNat) len.toNat data := by
  have limit : reach < 2 ^ 64 := by decide
  obtain ⟨_, _, room⟩ := (o.gpuRegionOk_iff offset len).mp ok
  have exact_ : 4 * (len.toNat / 4) = len.toNat := Nat.mul_div_cancel' whole
  have place : (o.scratchPhys + offset).toNat = o.scratchPhys.toNat + offset.toNat :=
    add_toNat (by omega)
  have blank : Tracks o.aperture o.card.regs o.card.vram := ⟨Or.inl rfl, rfl, rfl⟩
  have written := writeWords_tracks blank (o.scratchPhys + offset) data (len.toNat / 4) (by omega)
  rw [exact_, place] at written
  rw [gpuWriteLocked, if_neg (not_not_intro ok)]
  simp only [writeTail, exact_, if_neg (Nat.lt_irrefl _)]
  exact written.vram_eq

theorem gpuWrite_vram (env : Outside) (o : Owner) (offset : UInt64) (data : Nat → UInt8)
    (len : UInt32) (whole : 4 ∣ len.toNat)
    (inside : o.scratchPhys.toNat + o.scratchSize.toNat ≤ reach)
    (succeeds : (gpuWrite env o offset data len).1 = .success) :
    (gpuWrite env o offset data len).2.card.vram =
      blit o.card.vram (o.scratchPhys.toNat + offset.toNat) len.toNat data := by
  unfold gpuWrite at succeeds ⊢
  by_cases locked : (o.issue (.write offset len)).fGpuLock = true
  · simp only [if_neg (not_not_intro locked)] at succeeds ⊢
    by_cases ok : ((o.issue (.write offset len)).tick env).gpuRegionOk offset len = true
    · exact gpuWriteLocked_vram _ offset data len whole inside ok
    · rw [gpuWriteLocked, if_pos ok] at succeeds
      cases succeeds
  · simp only [if_pos locked] at succeeds
    cases succeeds

/-- A successful copy is exact in the data region. -/
theorem gpuCopy_vram (env : Outside) (o : Owner) (srcOffset dstOffset : UInt64) (bytes : UInt32)
    (succeeds : (gpuCopy env o srcOffset dstOffset bytes).1 = .success) (x : Nat)
    (inRegion : o.InRegion x) :
    (gpuCopy env o srcOffset dstOffset bytes).2.2.card.vram x =
      blit o.card.vram (o.scratchPhys.toNat + dstOffset.toNat) bytes.toNat
        (fun i => o.card.vram (o.scratchPhys.toNat + srcOffset.toNat + i)) x := by
  simp only [gpuCopy] at succeeds ⊢
  split at succeeds
  · cases succeeds
  rename_i locked
  rw [if_neg locked]
  split at succeeds
  · cases succeeds
  rename_i ranges
  rw [if_neg ranges]
  split at succeeds
  · cases succeeds
  rename_i apart
  rw [if_neg apart]
  split at succeeds
  · exact if_pos inRegion
  · cases succeeds

/-- What every operation leaves alone. -/
structure Keeps (o o' : Owner) : Prop where
  lock : o'.fGpuLock = o.fGpuLock
  vmm : o'.externalVmm = o.externalVmm
  selftest : o'.poolSelftestOk = o.poolSelftestOk
  va : o'.scratchVA = o.scratchVA
  phys : o'.scratchPhys = o.scratchPhys
  size : o'.scratchSize = o.scratchSize

theorem keeps_refl (o : Owner) : Keeps o o := ⟨rfl, rfl, rfl, rfl, rfl, rfl⟩

theorem keeps_trans {o o' o'' : Owner} (first : Keeps o o') (second : Keeps o' o'') :
    Keeps o o'' :=
  ⟨second.lock.trans first.lock, second.vmm.trans first.vmm,
    second.selftest.trans first.selftest, second.va.trans first.va,
    second.phys.trans first.phys, second.size.trans first.size⟩

/-- One operation, and it is listed. -/
structure Performs (o : Owner) (op : HwOp) (o' : Owner) : Prop where
  keeps : Keeps o o'
  issued : o'.issued = op :: o.issued

theorem gpuWrite_performs (env : Outside) (o : Owner) (offset : UInt64) (data : Nat → UInt8)
    (len : UInt32) : Performs o (.write offset len) (gpuWrite env o offset data len).2 := by
  simp only [gpuWrite, gpuWriteLocked]
  split_ifs <;> exact ⟨⟨rfl, rfl, rfl, rfl, rfl, rfl⟩, rfl⟩

theorem gpuRead_performs (env : Outside) (o : Owner) (offset : UInt64) (len : UInt32) :
    Performs o (.read offset len) (gpuRead env o offset len).2.2 := by
  simp only [gpuRead, gpuReadLocked]
  split_ifs <;> exact ⟨⟨rfl, rfl, rfl, rfl, rfl, rfl⟩, rfl⟩

theorem gpuCopy_performs (env : Outside) (o : Owner) (srcOffset dstOffset : UInt64)
    (bytes : UInt32) :
    Performs o (.copy srcOffset dstOffset bytes) (gpuCopy env o srcOffset dstOffset bytes).2.2 := by
  simp only [gpuCopy]
  split
  · exact ⟨⟨rfl, rfl, rfl, rfl, rfl, rfl⟩, rfl⟩
  · split
    · exact ⟨⟨rfl, rfl, rfl, rfl, rfl, rfl⟩, rfl⟩
    · split
      · exact ⟨⟨rfl, rfl, rfl, rfl, rfl, rfl⟩, rfl⟩
      · split <;> exact ⟨⟨rfl, rfl, rfl, rfl, rfl, rfl⟩, rfl⟩

/-- Any number of operations, all of them `good`. -/
structure Issues (good : HwOp → Prop) (o o' : Owner) : Prop where
  keeps : Keeps o o'
  listed : ∃ ops, o'.issued = ops ++ o.issued ∧ ∀ op ∈ ops, good op

theorem issues_refl (good : HwOp → Prop) (o : Owner) : Issues good o o :=
  ⟨keeps_refl o, [], rfl, by simp⟩

theorem issues_next {good : HwOp → Prop} {o o' o'' : Owner} {op : HwOp}
    (before : Issues good o o') (performs : Performs o' op o'') (fine : good op) :
    Issues good o o'' := by
  obtain ⟨keeps, ops, listed, all⟩ := before
  refine ⟨keeps_trans keeps performs.keeps, op :: ops, ?_, ?_⟩
  · rw [performs.issued, listed, List.cons_append]
  · exact List.forall_mem_cons.mpr ⟨fine, all⟩

end Owner

end GspDriver.MilcorixFB
