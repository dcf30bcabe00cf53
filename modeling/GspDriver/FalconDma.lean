import GspDriver.FwsecPaths
import GspDriver.Base.Words

/-!
The DMA unit that `nv_falcon_dma_wr` of falcon.c drives. The unit keeps four
address registers; a store to its command register moves one block of 256
bytes. Which blocks a call moves is read off the accesses it makes.
-/

namespace GspDriver.FalconDma

open Falcon Booter FwsecPaths Words

/-! The DMA unit. -/

/-- One block of 256 bytes, from a DMA address to an offset in a falcon memory. -/
structure DmaMove where
  src : Nat
  dst : Nat
  imem : Bool
  secure : Bool
  deriving DecidableEq

structure DmaUnit where
  trfbase : UInt32
  trfbase1 : UInt32
  trfmoffs : UInt32
  trffboffs : UInt32
  moved : List DmaMove

namespace DmaUnit

def move (d : DmaUnit) (cmd : UInt32) : DmaMove :=
  { src := (d.trfbase1.toNat * 2 ^ 32 + d.trfbase.toNat) * 256 + d.trffboffs.toNat
    dst := d.trfmoffs.toNat
    imem := cmd &&& dmatrfcmdImem ≠ 0
    secure := (cmd >>> dmatrfcmdSecShift) &&& 3 ≠ 0 }

def access (base : UInt32) (d : DmaUnit) : Access → DmaUnit
  | .rd _ => d
  | .udelay _ => d
  | .wr addr val =>
      if addr = base + falconDmatrfbaseOff then { d with trfbase := val }
      else if addr = base + falconDmatrfbase1Off then { d with trfbase1 := val }
      else if addr = base + falconDmatrfmoffsOff then { d with trfmoffs := val }
      else if addr = base + falconDmatrffboffsOff then { d with trffboffs := val }
      else if addr = base + falconDmatrfcmdOff then { d with moved := d.moved ++ [d.move val] }
      else d

/-- The unit after all accesses that were made. -/
def after (base : UInt32) (d : DmaUnit) (trace : List Access) : DmaUnit :=
  trace.foldl (access base) d

end DmaUnit

section Accesses

variable (base : UInt32) (d : DmaUnit) (io : Mmio)

theorem offset_ne {a b : UInt32} (apart : a ≠ b) : base + a ≠ base + b := by
  intro same
  apply apart
  rw [← UInt32.toNat_inj, UInt32.toNat_add, UInt32.toNat_add] at same
  have := a.toNat_lt
  have := b.toNat_lt
  exact UInt32.toNat_inj.mp (by omega)

theorem after_wr (addr val : UInt32) :
    d.after base (io.wr addr val).trace = (d.after base io.trace).access base (.wr addr val) := by
  rw [Mmio.wr, DmaUnit.after, DmaUnit.after, List.foldl_append]
  rfl

theorem access_trfbase (val : UInt32) :
    d.access base (.wr (base + falconDmatrfbaseOff) val) = { d with trfbase := val } := if_pos rfl

theorem access_trfbase1 (val : UInt32) :
    d.access base (.wr (base + falconDmatrfbase1Off) val) = { d with trfbase1 := val } := by
  rw [DmaUnit.access, if_neg (offset_ne base (by decide)), if_pos rfl]

theorem access_trfmoffs (val : UInt32) :
    d.access base (.wr (base + falconDmatrfmoffsOff) val) = { d with trfmoffs := val } := by
  rw [DmaUnit.access, if_neg (offset_ne base (by decide)), if_neg (offset_ne base (by decide)),
    if_pos rfl]

theorem access_trffboffs (val : UInt32) :
    d.access base (.wr (base + falconDmatrffboffsOff) val) = { d with trffboffs := val } := by
  rw [DmaUnit.access, if_neg (offset_ne base (by decide)), if_neg (offset_ne base (by decide)),
    if_neg (offset_ne base (by decide)), if_pos rfl]

theorem access_trfcmd (val : UInt32) :
    d.access base (.wr (base + falconDmatrfcmdOff) val) =
      { d with moved := d.moved ++ [d.move val] } := by
  rw [DmaUnit.access, if_neg (offset_ne base (by decide)), if_neg (offset_ne base (by decide)),
    if_neg (offset_ne base (by decide)), if_neg (offset_ne base (by decide)), if_pos rfl]

/-- Polling moves nothing. -/
theorem after_poll (ready : UInt32 → Bool) (addr step timeoutUs : UInt32) (late : Int)
    (spins : Nat) (waited : UInt32) :
    d.after base (pollUntil ready addr step timeoutUs late spins waited io).2.trace =
      d.after base io.trace := by
  induction spins generalizing waited io with
  | zero => rfl
  | succ spins ih =>
      have read : ∀ io : Mmio, d.after base (io.rd addr).2.trace = d.after base io.trace := by
        intro io
        rw [Mmio.rd, DmaUnit.after, DmaUnit.after, List.foldl_append]
        rfl
      have paused : ∀ io : Mmio, d.after base (io.udelay step).trace = d.after base io.trace := by
        intro io
        rw [Mmio.udelay, DmaUnit.after, DmaUnit.after, List.foldl_append]
        rfl
      rw [pollUntil]
      split
      · exact read io
      split
      · exact read io
      · rw [ih, paused, read]

end Accesses

/-! The blocks that a loop moves. -/

section Loop

variable (spins : Nat) (base dst src cmd timeoutUs : UInt32) (d : DmaUnit)

/-- What block `i` is while the base registers stand. -/
def blockMove (unit : DmaUnit) (i : UInt32) : DmaMove :=
  DmaUnit.move { unit with
    trfmoffs := dst + i * nvDmaBlock
    trffboffs := src + i * nvDmaBlock } cmd

/-- The base registers are all that one block leaves to the next. -/
theorem loop_moves (left : Nat) (i : UInt32) (io : Mmio)
    (done : (dmaBlocks spins base dst src cmd timeoutUs left i io).1 = some nvOk) :
    (d.after base (dmaBlocks spins base dst src cmd timeoutUs left i io).2.trace).moved =
      (d.after base io.trace).moved ++ (List.range left).map fun k =>
        blockMove dst src cmd (d.after base io.trace) (i + UInt32.ofNat k) := by
  induction left generalizing i io with
  | zero => exact (List.append_nil _).symm
  | succ left ih =>
      simp only [dmaBlocks, Rc.andThen] at done ⊢
      -- The two offsets are written before the command moves the block.
      have first := after_poll base d
        (((io.wr (base + falconDmatrfmoffsOff) (dst + i * nvDmaBlock)).wr
          (base + falconDmatrffboffsOff) (src + i * nvDmaBlock)).wr (base + falconDmatrfcmdOff) cmd)
        (fun v => decide (v &&& dmatrfcmdIdle ≠ 0)) (base + falconDmatrfcmdOff) nvPollStepUs
        timeoutUs nvErrTimeout spins 0
      rw [after_wr, after_wr, after_wr, access_trfmoffs, access_trffboffs, access_trfcmd] at first
      have shift : ∀ k, i + 1 + UInt32.ofNat k = i + UInt32.ofNat (k + 1) := by
        intro k
        rw [UInt32.ofNat_add, UInt32.add_assoc, UInt32.add_comm 1]
        rfl
      split at done
      · rename_i ok
        rw [if_pos ok, ih (i + 1) _ done, first, List.range_succ_eq_map, List.map_cons,
          List.map_map]
        simp only [shift, List.append_assoc]
        rw [show i + UInt32.ofNat 0 = i from UInt32.add_zero i]
        rfl
      · rename_i failed
        exact absurd done failed

end Loop

/-! A whole load. -/

/-- The 256 bytes at `256 * i` of the load, where they come from and go to. -/
def loadedBlock (dmaAddr : UInt64) (mem : TargetMem) (t : NvDmaLoadTarget) (i : Nat) : DmaMove :=
  { src := dmaAddr.toNat + t.srcStart.toNat + 256 * i
    dst := t.dstStart.toNat + 256 * i
    imem := mem ≠ .dmem
    secure := mem = .imemSecure }

/-- A call that succeeds has moved every block of the length rounded up, each
once and in order, and nothing else. -/
def LoadsRange (base : UInt32) (d : DmaUnit) (io : Mmio) (dmaAddr : UInt64) (mem : TargetMem)
    (t : NvDmaLoadTarget) (result : Rc) : Prop :=
  result.1 = some nvOk → (d.after base result.2.trace).moved =
    (d.after base io.trace).moved ++
      (List.range ((t.len.toNat + 255) / 256)).map (loadedBlock dmaAddr mem t)

/-! `dma_start`, `fb_src`, `cmd` and `num` of `nv_falcon_dma_wr`. -/

def dmaStart (dmaAddr : UInt64) (mem : TargetMem) (t : NvDmaLoadTarget) : UInt64 :=
  if mem ≠ .dmem then dmaAddr else dmaAddr + t.srcStart.toUInt64

def fbSrc (mem : TargetMem) (t : NvDmaLoadTarget) : UInt32 := if mem ≠ .dmem then t.srcStart else 0

def dmaCmd (mem : TargetMem) : UInt32 :=
  (nvDmaTrfCmdSize256b <<< dmatrfcmdSizeShift) ||| (if mem ≠ .dmem then dmatrfcmdImem else 0) |||
    ((if mem = .imemSecure then 1 else 0) <<< dmatrfcmdSecShift)

/-- The rounding is done in 32 bits. -/
def dmaCount (len : UInt32) : UInt32 := (len + nvDmaBlock - 1) / nvDmaBlock

theorem dma_wr_eq (spins : Nat) (io : Mmio) (base : UInt32) (dmaAddr : UInt64) (mem : TargetMem)
    (t : NvDmaLoadTarget) (timeoutUs : UInt32) :
    nvFalconDmaWr spins io base dmaAddr mem t timeoutUs =
      if dmaStart dmaAddr mem t % nvDmaBlock.toUInt64 ≠ 0 then (some nvErrState, io)
      else dmaBlocks spins base t.dstStart (fbSrc mem t) (dmaCmd mem) timeoutUs
        (dmaCount t.len).toNat 0
        ((io.wr (base + falconDmatrfbaseOff) (dmaStart dmaAddr mem t >>> 8).toUInt32).wr
          (base + falconDmatrfbase1Off) ((dmaStart dmaAddr mem t >>> 40) &&& 0x1ff).toUInt32) := rfl

section Load

variable {dmaAddr : UInt64} {mem : TargetMem} {t : NvDmaLoadTarget}

theorem dmaCount_toNat (len : UInt32) :
    (dmaCount len).toNat = (len.toNat + 255) % 2 ^ 32 / 256 := by
  have small := len.toNat_lt
  have block : nvDmaBlock.toNat = 256 := rfl
  have one : (1 : UInt32).toNat = 1 := rfl
  rw [dmaCount, UInt32.toNat_div, UInt32.toNat_sub, UInt32.toNat_add, block, one]
  omega

theorem dmaStart_toNat (range : dmaAddr.toNat + t.srcStart.toNat ≤ 2 ^ 49) :
    (dmaStart dmaAddr mem t).toNat =
      dmaAddr.toNat + if mem = .dmem then t.srcStart.toNat else 0 := by
  rw [dmaStart]
  by_cases data : mem = .dmem
  · rw [if_neg (not_not.mpr data), if_pos data, add_toNat (by rw [UInt32.toNat_toUInt64]; omega),
      UInt32.toNat_toUInt64]
  · rw [if_pos data, if_neg data, Nat.add_zero]

theorem fbSrc_toNat : (fbSrc mem t).toNat = if mem = .dmem then 0 else t.srcStart.toNat := by
  rw [fbSrc]
  by_cases data : mem = .dmem
  · rw [if_neg (not_not.mpr data), if_pos data]
    rfl
  · rw [if_pos data, if_neg data]

theorem offset_toNat {start : UInt32} {i : Nat} (fits : start.toNat + 256 * i < 2 ^ 32) :
    (start + UInt32.ofNat i * nvDmaBlock).toNat = start.toNat + 256 * i := by
  have block : nvDmaBlock.toNat = 256 := rfl
  have index : (UInt32.ofNat i).toNat = i := by
    rw [UInt32.toNat_ofNat']
    exact Nat.mod_eq_of_lt (by omega)
  have pos : (UInt32.ofNat i * nvDmaBlock).toNat = 256 * i := by
    rw [UInt32.toNat_mul, index, block, Nat.mul_comm]
    exact Nat.mod_eq_of_lt (by omega)
  rw [UInt32.toNat_add, pos, Nat.mod_eq_of_lt fits]

/-- The two base registers hold an aligned 49-bit address without its low byte. -/
theorem base_registers {start : UInt64} (aligned : start.toNat % 256 = 0)
    (small : start.toNat < 2 ^ 49) :
    (((start >>> 40) &&& 0x1ff).toUInt32.toNat * 2 ^ 32 + (start >>> 8).toUInt32.toNat) * 256 =
      start.toNat := by
  have mask : (0x1ff : UInt64).toNat = 2 ^ 9 - 1 := rfl
  have byte : 2 ^ (8 : UInt64).toNat = 256 := rfl
  have forty : 2 ^ (40 : UInt64).toNat = 2 ^ 40 := rfl
  rw [UInt64.toNat_toUInt32, UInt64.toNat_toUInt32, and_mask_toNat _ mask,
    shr_toNat (by decide), shr_toNat (by decide), byte, forty]
  omega

theorem blockMove_loaded {unit : DmaUnit} {i : Nat}
    (lowBase : unit.trfbase = (dmaStart dmaAddr mem t >>> 8).toUInt32)
    (highBase : unit.trfbase1 = ((dmaStart dmaAddr mem t >>> 40) &&& 0x1ff).toUInt32)
    (aligned : (dmaStart dmaAddr mem t).toNat % 256 = 0)
    (inside : 256 * i < t.len.toNat) (srcFits : t.srcStart.toNat + t.len.toNat < 2 ^ 32)
    (dstFits : t.dstStart.toNat + t.len.toNat < 2 ^ 32)
    (range : dmaAddr.toNat + t.srcStart.toNat + t.len.toNat ≤ 2 ^ 49) :
    blockMove t.dstStart (fbSrc mem t) (dmaCmd mem) unit (UInt32.ofNat i) =
      loadedBlock dmaAddr mem t i := by
  have source := @fbSrc_toNat mem t
  have start := @dmaStart_toNat dmaAddr mem t (by omega)
  have low : (fbSrc mem t).toNat ≤ t.srcStart.toNat := by
    rw [source]
    split <;> omega
  -- The source's offset is in the base for data, and in the block's offset for code.
  have whole : (dmaStart dmaAddr mem t).toNat + (fbSrc mem t).toNat =
      dmaAddr.toNat + t.srcStart.toNat := by
    rw [start, source]
    split <;> omega
  have based := base_registers aligned (by omega)
  have imem : (dmaCmd mem &&& dmatrfcmdImem ≠ 0) ↔ mem ≠ .dmem := by
    cases mem <;> decide
  have secure : ((dmaCmd mem >>> dmatrfcmdSecShift) &&& 3 ≠ 0) ↔ mem = .imemSecure := by
    cases mem <;> decide
  simp only [blockMove, DmaUnit.move, loadedBlock, lowBase, highBase, based, imem, secure]
  rw [offset_toNat (by omega), offset_toNat (by omega), ← whole, Nat.add_assoc]

end Load

/-- A load covers its range exactly where the rounding of the length does not
wrap, or the source is not aligned and the call refuses. -/
theorem dma_wr_loads_iff (spins : Nat) (d : DmaUnit) (io : Mmio) (base : UInt32) (dmaAddr : UInt64)
    (mem : TargetMem) (t : NvDmaLoadTarget) (timeoutUs : UInt32)
    (srcFits : t.srcStart.toNat + t.len.toNat < 2 ^ 32)
    (dstFits : t.dstStart.toNat + t.len.toNat < 2 ^ 32)
    (range : dmaAddr.toNat + t.srcStart.toNat + t.len.toNat ≤ 2 ^ 49) :
    LoadsRange base d io dmaAddr mem t
        (nvFalconDmaWr spins io base dmaAddr mem t timeoutUs) ↔
      t.len.toNat ≤ 2 ^ 32 - 256 ∨
        (dmaAddr.toNat + if mem = .dmem then t.srcStart.toNat else 0) % 256 ≠ 0 := by
  have block : nvDmaBlock.toUInt64.toNat = 256 := rfl
  have start := @dmaStart_toNat dmaAddr mem t (by omega)
  have misaligned : dmaStart dmaAddr mem t % nvDmaBlock.toUInt64 ≠ 0 ↔
      (dmaStart dmaAddr mem t).toNat % 256 ≠ 0 := by
    rw [ne_eq, ← UInt64.toNat_inj, UInt64.toNat_mod, block]
    rfl
  rw [← start, dma_wr_eq]
  by_cases refused : dmaStart dmaAddr mem t % nvDmaBlock.toUInt64 ≠ 0
  · rw [if_pos refused]
    refine iff_of_true (fun done => ?_) (Or.inr (misaligned.mp refused))
    exact absurd done (show (some nvErrState) ≠ some nvOk by decide)
  · have aligned := not_not.mp (mt misaligned.mpr refused)
    have small := t.len.toNat_lt
    have count := dmaCount_toNat t.len
    simp only [if_neg refused]
    have based : ∀ low high, d.after base
        ((io.wr (base + falconDmatrfbaseOff) low).wr (base + falconDmatrfbase1Off) high).trace =
        { d.after base io.trace with trfbase := low, trfbase1 := high } := by
      intro low high
      rw [after_wr, after_wr, access_trfbase, access_trfbase1]
    constructor
    · intro loads
      by_contra wraps
      -- the rounded length has wrapped to less than a block, so the loop is empty
      have none : (dmaCount t.len).toNat = 0 := by omega
      rw [none] at loads
      have moved := loads rfl
      simp only [dmaBlocks, based] at moved
      have missing := List.map_eq_nil_iff.mp (List.self_eq_append_right.mp moved)
      have length := congrArg List.length missing
      rw [List.length_range, List.length_nil] at length
      omega
    · intro fits done
      have short := fits.resolve_right (not_not.mpr aligned)
      rw [loop_moves _ _ _ _ _ _ d _ _ _ done, based, count, Nat.mod_eq_of_lt (by omega)]
      apply congrArg
      apply List.map_congr_left
      intro i member
      have inside := List.mem_range.mp member
      rw [UInt32.zero_add]
      exact blockMove_loaded rfl rfl aligned (by omega) srcFits dstFits range

/-- A card that is idle whenever it is asked. -/
def idleCard : Mmio := ⟨Stream'.const dmatrfcmdIdle, []⟩

def idleUnit : DmaUnit := ⟨0, 0, 0, 0, []⟩

theorem dma_wr_loads_iff_idle : LoadsRange 0x840000 idleUnit idleCard 0x123456700 .imemSecure
    ⟨0x100, 0, 0x180⟩ (nvFalconDmaWr 1 idleCard 0x840000 0x123456700 .imemSecure ⟨0x100, 0, 0x180⟩
      1000) :=
  (dma_wr_loads_iff 1 idleUnit idleCard 0x840000 0x123456700 .imemSecure ⟨0x100, 0, 0x180⟩ 1000
    (by decide) (by decide) (by decide)).mpr (Or.inl (by decide))

/-- A length just below 2^32 is reported as loaded, and not a block has moved. -/
theorem long_load_moves_nothing :
    (nvFalconDmaWr 1 idleCard 0x840000 0 .imemSecure ⟨0, 0, 0xffffffff⟩ 1000).1 = some nvOk ∧
      (idleUnit.after 0x840000
        (nvFalconDmaWr 1 idleCard 0x840000 0 .imemSecure ⟨0, 0, 0xffffffff⟩ 1000).2.trace).moved =
        [] ∧
      ¬ LoadsRange 0x840000 idleUnit idleCard 0 .imemSecure ⟨0, 0, 0xffffffff⟩
        (nvFalconDmaWr 1 idleCard 0x840000 0 .imemSecure ⟨0, 0, 0xffffffff⟩ 1000) := by
  have nothing : (idleUnit.after 0x840000
      (nvFalconDmaWr 1 idleCard 0x840000 0 .imemSecure ⟨0, 0, 0xffffffff⟩ 1000).2.trace).moved =
      [] := by rfl
  refine ⟨by rfl, nothing, ?_⟩
  intro loads
  have moved := loads (by rfl)
  rw [nothing] at moved
  have length := congrArg List.length moved
  rw [List.length_append, List.length_map, List.length_range] at length
  revert length
  decide

end GspDriver.FalconDma
