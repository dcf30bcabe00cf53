import GspDriver.Booter
import GspDriver.FwsecRoom

/-!
FWSEC is started in three places: by the kernel extension (FwsecRun.cpp), by the
Linux tool (fwsec_run_linux.c) and by the bring-up. Each path is followed from
the filled shadow to the boot of the falcon. `boot0` is what the card says in
PMC_BOOT_0, which names the chip.
-/

namespace GspDriver.FwsecPaths

open Bytes LittleEndian Checked Falcon Booter FwsecLocate FwsecPatch FwsecStaging FwsecRoom

/-! The transfer of the microcode and the boot, as falcon.c has them. -/

def nvDmaBlock : UInt32 := 256
def falconBootvecOff : UInt32 := 0x104
def falconDmactlOff : UInt32 := 0x10c
def falconDmatrfbaseOff : UInt32 := 0x110
def falconDmatrfmoffsOff : UInt32 := 0x114
def falconDmatrfcmdOff : UInt32 := 0x118
def falconDmatrffboffsOff : UInt32 := 0x11c
def falconDmatrfbase1Off : UInt32 := 0x128
def fbifTranscfgOff : UInt32 := 0x600
def falcon2ModSelOff : UInt32 := 0x180
def falcon2BromCurrUcodeIdOff : UInt32 := 0x198
def falcon2BromEngidmaskOff : UInt32 := 0x19c
def falcon2BromParaaddrOff : UInt32 := 0x210
def fbifCtlAllowPhysNoCtx : UInt32 := 0x80
def dmatrfcmdIdle : UInt32 := 2
def dmatrfcmdImem : UInt32 := 0x10
def dmatrfcmdSizeShift : UInt32 := 8
def dmatrfcmdSecShift : UInt32 := 2
def nvDmaTrfCmdSize256b : UInt32 := 6
def nvFbifTargetCoherentSysmem : UInt32 := 1
def nvFbifMemTypePhysical : UInt32 := 1

inductive TargetMem where
  | imemSecure
  | imemNonsecure
  | dmem
  deriving DecidableEq

def nvFalconDmaReset (io : Mmio) (base : UInt32) : Mmio :=
  let ctl := base + fbifCtlOff
  let read := io.rd ctl
  (read.2.wr ctl (read.1 ||| fbifCtlAllowPhysNoCtx)).wr (base + falconDmactlOff) 0

/-- The blocks from number `i` on, `left` of them. -/
def dmaBlocks (spins : Nat) (base dstStart fbSrc cmd timeoutUs : UInt32) :
    Nat → UInt32 → Mmio → Rc
  | 0, _, io => (some nvOk, io)
  | left + 1, i, io =>
      let pos := i * nvDmaBlock
      let trfcmd := base + falconDmatrfcmdOff
      let io := io.wr (base + falconDmatrfmoffsOff) (dstStart + pos)
      let io := io.wr (base + falconDmatrffboffsOff) (fbSrc + pos)
      (pollUntil (fun v => v &&& dmatrfcmdIdle ≠ 0) trfcmd nvPollStepUs timeoutUs nvErrTimeout spins
        0 (io.wr trfcmd cmd)).andThen
        (dmaBlocks spins base dstStart fbSrc cmd timeoutUs left (i + 1))

def nvFalconDmaWr (spins : Nat) (io : Mmio) (base : UInt32) (dmaAddr : UInt64)
    (targetMem : TargetMem) (t : NvDmaLoadTarget) (timeoutUs : UInt32) : Rc :=
  let isImem := targetMem ≠ .dmem
  let secure := targetMem = .imemSecure
  let fbSrc := if isImem then t.srcStart else 0
  let dmaStart := if isImem then dmaAddr else dmaAddr + t.srcStart.toUInt64
  if dmaStart % nvDmaBlock.toUInt64 ≠ 0 then (some nvErrState, io)
  else
    let num := (t.len + nvDmaBlock - 1) / nvDmaBlock
    let io := io.wr (base + falconDmatrfbaseOff) (dmaStart >>> 8).toUInt32
    let io := io.wr (base + falconDmatrfbase1Off) ((dmaStart >>> 40) &&& 0x1ff).toUInt32
    let cmd := (nvDmaTrfCmdSize256b <<< dmatrfcmdSizeShift) |||
      (if isImem then dmatrfcmdImem else 0) ||| ((if secure then 1 else 0) <<< dmatrfcmdSecShift)
    dmaBlocks spins base t.dstStart fbSrc cmd timeoutUs num.toNat 0 io

def nvFalconProgramBromGa102 (io : Mmio) (falcon2Base pkcDataOffset : UInt32)
    (engineIdMask : UInt16) (ucodeId : UInt8) : Mmio :=
  let io := io.wr (falcon2Base + falcon2BromParaaddrOff) pkcDataOffset
  let io := io.wr (falcon2Base + falcon2BromEngidmaskOff) engineIdMask.toUInt32
  let io := io.wr (falcon2Base + falcon2BromCurrUcodeIdOff) ucodeId.toUInt32
  io.wr (falcon2Base + falcon2ModSelOff) 1

def nvFalconDmaLoadGa102 (spins : Nat) (io : Mmio) (base falcon2Base : UInt32) (dmaAddr : UInt64)
    (imemSec dmem : NvDmaLoadTarget) (pkcDataOffset : UInt32) (engineIdMask : UInt16)
    (ucodeId : UInt8) (bootAddr timeoutUs : UInt32) : Rc :=
  let tc := base + fbifTranscfgOff
  let read := (nvFalconDmaReset io base).rd tc
  let v := (read.1 &&& ~~~(0x7 : UInt32)) |||
    ((nvFbifMemTypePhysical <<< 2) ||| nvFbifTargetCoherentSysmem)
  (nvFalconDmaWr spins (read.2.wr tc v) base dmaAddr .imemSecure imemSec timeoutUs).andThen
    fun io =>
  (nvFalconDmaWr spins io base dmaAddr .dmem dmem timeoutUs).andThen fun io =>
  (some nvOk, (nvFalconProgramBromGa102 io falcon2Base pkcDataOffset engineIdMask ucodeId).wr
    (base + falconBootvecOff) bootAddr)

/-- The mailbox is read whether or not the falcon came to a halt. -/
def nvFalconBoot (spins : Nat) (io : Mmio) (base : UInt32) (mbox0 mbox1 : Option UInt32)
    (timeoutUs : UInt32) : UInt32 × Rc :=
  let io := mbox0.elim io (nvFalconWriteMailbox0 io base)
  let io := mbox1.elim io (nvFalconWriteMailbox1 io base)
  let halted := nvFalconWaitHalted spins (nvFalconStart io base) base timeoutUs
  let read := nvFalconReadMailbox0 halted.2 base
  (read.1, halted.1, read.2)

def fwsecTimeoutUs : UInt32 := 2 * 1000 * 1000

/-- Reset, transfer and boot, the same calls in all three paths. -/
def startFalcon (spins : Nat) (io : Mmio) (boot0 : UInt32) (dmaAddr : UInt64)
    (desc : NvFwsecDesc) : Rc :=
  (nvFalconResetGa102 spins io nvPgspFalconBase nvPgspFalcon2Base boot0 fwsecTimeoutUs).andThen
    fun io =>
  (nvFalconDmaLoadGa102 spins io nvPgspFalconBase nvPgspFalcon2Base dmaAddr
    ⟨0, desc.imemPhysBase, desc.imemLoadSize⟩
    ⟨desc.imemLoadSize, desc.dmemPhysBase, desc.dmemLoadSize⟩
    desc.pkcDataOffset desc.engineIdMask desc.ucodeId 0 fwsecTimeoutUs).andThen fun io =>
  (nvFalconBoot spins io nvPgspFalconBase (some 0) none fwsecTimeoutUs).2

/-- What a path that goes on to the reset has staged, and how the falcon was started. -/
structure Launch where
  desc : NvFwsecDesc
  ucode : Mem
  started : Rc

def Launch.usz (launch : Launch) : Nat :=
  launch.desc.imemLoadSize.toNat + launch.desc.dmemLoadSize.toNat

inductive IOReturn where
  | notFound
  | unsupported
  | error
  deriving DecidableEq

section Paths

variable (spins : Nat) (io : Mmio) (boot0 : UInt32) (dmaAddr : UInt64) (vbios : Mem)
  (frtsAddr frtsSize : UInt64)

def fwsecPatchAndRun (vbiosLen descAbs : Nat) (desc : NvFwsecDesc) (ucode : Mem)
    (ucodeSize : Nat) : Except IOReturn Launch := do
  let patched ← orFail (nvFwsecPatchFrts ucodeSize desc frtsAddr frtsSize ucode).toOption .error
  if desc.signatureCount = 0 then
    return { desc, ucode := patched, started := startFalcon spins io boot0 dmaAddr desc }
  else
    let read := nvFalconSignatureFuseVersionGa102 io desc.engineIdMask desc.ucodeId
    let fuse ← orFail read.1 .error
    let index ← orFail (nvFwsecSelectSignatureIndex desc fuse).toOption .error
    let sigAt := signaturePlace descAbs index
    require (sigAt + nvBcrt30Rsa3kSigSize ≤ vbiosLen) .error
    let signed ← orFail (nvFwsecPatchSignature ucodeSize desc patched fun i =>
      vbios (sigAt + i)).toOption .error
    return { desc, ucode := signed, started := startFalcon spins read.2 boot0 dmaAddr desc }

/-- `dma` is the buffer that was allocated for the microcode. -/
def rtxRunFwsecFrts (dma : Mem) : Except IOReturn Launch := do
  let vbiosLen := nvVbiosScanMax
  let descAbs ← orFail (nvFwsecLocate { bytes := vbios, len := vbiosLen }).toOption .notFound
  let desc ← orFail (nvFwsecDescParse vbios descAbs (vbiosLen - descAbs)).toOption .error
  require (desc.version = 3) .unsupported
  let ucodeOff := descAbs + desc.hdrSize.toNat
  let ucodeSize := desc.imemLoadSize.toNat + desc.dmemLoadSize.toNat
  require (¬ (ucodeSize = 0 ∨ ucodeOff > vbiosLen ∨ ucodeSize > vbiosLen - ucodeOff)) .error
  let ucode := blit dma 0 ucodeSize fun i => vbios (ucodeOff + i)
  fwsecPatchAndRun spins io boot0 dmaAddr vbios frtsAddr frtsSize vbiosLen descAbs desc ucode
    ucodeSize

def runFwsec (dmaBuf : Mem) (dmaCap : Nat) : Except Int Launch := do
  let vbiosLen := nvVbiosScanMax
  let descAbs ← orFail (nvFwsecLocate { bytes := vbios, len := vbiosLen }).toOption (-1)
  let desc ← orFail (nvFwsecDescParse vbios descAbs (vbiosLen - descAbs)).toOption (-1)
  require (desc.version = 3) (-1)
  let ucodeOff := descAbs + desc.hdrSize.toNat
  let ucodeSize := desc.imemLoadSize.toNat + desc.dmemLoadSize.toNat
  require (¬ (ucodeSize = 0 ∨ ucodeOff > vbiosLen ∨ ucodeSize > vbiosLen - ucodeOff)) (-1)
  require (¬ ucodeSize > dmaCap) (-1)
  let dmaBuf := blit (clear dmaBuf 0 dmaCap) 0 ucodeSize fun i => vbios (ucodeOff + i)
  let patched ← orFail (nvFwsecPatchFrts dmaCap desc frtsAddr frtsSize dmaBuf).toOption (-1)
  if desc.signatureCount = 0 then
    return { desc, ucode := patched, started := startFalcon spins io boot0 dmaAddr desc }
  else
    let read := nvFalconSignatureFuseVersionGa102 io desc.engineIdMask desc.ucodeId
    let fuse ← orFail read.1 (-1)
    let index ← orFail (nvFwsecSelectSignatureIndex desc fuse).toOption (-1)
    let sigAt := signaturePlace descAbs index
    require (sigAt + nvBcrt30Rsa3kSigSize ≤ vbiosLen) (-1)
    let signed ← orFail (nvFwsecPatchSignature dmaCap desc patched fun i =>
      vbios (sigAt + i)).toOption (-1)
    return { desc, ucode := signed, started := startFalcon spins read.2 boot0 dmaAddr desc }

/-- The bring-up's path: its staging, and the start behind it. -/
def doFwsecFrts (ucodeVa : Mem) (ucodeCap : Nat) : Except StageErr Launch := do
  let staged ← stageFwsec io vbios frtsAddr frtsSize ucodeVa ucodeCap
  return {
    desc := staged.desc, ucode := staged.ucode
    started := startFalcon spins staged.io boot0 dmaAddr staged.desc }

end Paths

def GoesOn {Failure : Type} (path : Except Failure Launch) : Prop := ∃ launch, path = .ok launch

/-- The same descriptor, the same microcode and the same accesses to the falcon. -/
structure SameLaunch (one other : Launch) : Prop where
  desc : one.desc = other.desc
  ucode : SameBelow one.usz one.ucode other.ucode
  started : one.started = other.started

structure Agree (probe : Except IOReturn Launch) (linux : Except Int Launch)
    (bringup : Except StageErr Launch) : Prop where
  decision : (GoesOn probe ↔ GoesOn linux) ∧ (GoesOn linux ↔ GoesOn bringup)
  launch : ∀ p l b, probe = .ok p → linux = .ok l → bringup = .ok b →
    SameLaunch p l ∧ SameLaunch l b

def size (desc : NvFwsecDesc) : Nat := desc.imemLoadSize.toNat + desc.dmemLoadSize.toNat

/-- The fuse register names a signature that the descriptor lists. -/
def Signable (io : Mmio) (desc : NvFwsecDesc) : Prop :=
  desc.signatureCount ≠ 0 → ∃ fuse, fuseOf io desc = some fuse ∧ fuse < 32 ∧
    desc.signatureVersions.toUInt32 &&& (1 <<< fuse) ≠ 0

def SignatureInShadow (io : Mmio) (descAbs : Nat) (desc : NvFwsecDesc) : Prop :=
  desc.signatureCount ≠ 0 → ∀ fuse, fuseOf io desc = some fuse →
    signaturePlace descAbs (signatureIndex desc fuse) + nvBcrt30Rsa3kSigSize ≤ nvVbiosScanMax

structure InShadow (io : Mmio) (descAbs : Nat) (desc : NvFwsecDesc) : Prop where
  some : size desc ≠ 0
  ucode : descAbs + desc.hdrSize.toNat + size desc ≤ nvVbiosScanMax
  signature : SignatureInShadow io descAbs desc

/-- The microcode, with cleared memory behind it. -/
def microcode (vbios : Mem) (descAbs : Nat) (desc : NvFwsecDesc) : Mem :=
  blit (fun _ => 0) 0 (size desc) fun i => vbios (descAbs + desc.hdrSize.toNat + i)

def needed (vbios : Mem) (descAbs : Nat) (desc : NvFwsecDesc) : Option Nat :=
  reach desc (microcode vbios descAbs desc)

/-- What the patches need is in the microcode, or in neither buffer; where the shadow
does not hold it all, it is not in the bring-up's buffer. -/
def Consistent (io : Mmio) (vbios : Mem) (dmaCap ucodeCap : Nat) : Prop :=
  ∀ descAbs desc, Found vbios descAbs desc → desc.version = 3 → Signable io desc →
    (InShadow io descAbs desc → Room (needed vbios descAbs desc) (size desc) ∨
      ¬ Room (needed vbios descAbs desc) dmaCap ∧ ¬ Room (needed vbios descAbs desc) ucodeCap) ∧
    (¬ InShadow io descAbs desc → ¬ Room (needed vbios descAbs desc) ucodeCap)

theorem found_unique {vbios : Mem} {descAbs descAbs' : Nat} {desc desc' : NvFwsecDesc}
    (one : Found vbios descAbs desc) (other : Found vbios descAbs' desc') :
    descAbs = descAbs' ∧ desc = desc' := by
  obtain ⟨located, parsed⟩ := one
  obtain ⟨located', parsed'⟩ := other
  cases located.symm.trans located'
  exact ⟨rfl, Except.ok.inj (parsed.symm.trans parsed')⟩

section Prepare

variable {spins : Nat} {io : Mmio} {boot0 : UInt32} {dmaAddr : UInt64} {vbios : Mem}
  {frtsAddr frtsSize : UInt64}

/-- Both patches accept a buffer of `len` bytes that holds `start`, and the falcon is
started with the result. -/
def Prepared (spins : Nat) (io : Mmio) (boot0 : UInt32) (dmaAddr : UInt64) (vbios : Mem)
    (frtsAddr frtsSize : UInt64) (len : Nat) (start : Mem) (descAbs : Nat) (launch : Launch) :
    Prop :=
  ∃ patched, nvFwsecPatchFrts len launch.desc frtsAddr frtsSize start = .ok patched ∧
    if launch.desc.signatureCount = 0 then
      launch.ucode = patched ∧ launch.started = startFalcon spins io boot0 dmaAddr launch.desc
    else
      ∃ fuse, fuseOf io launch.desc = some fuse ∧ fuse < 32 ∧
        launch.desc.signatureVersions.toUInt32 &&& (1 <<< fuse) ≠ 0 ∧
        signatureReach launch.desc ≤ len ∧
        launch.ucode = blit patched
          (launch.desc.imemLoadSize.toNat + launch.desc.pkcDataOffset.toNat) nvBcrt30Rsa3kSigSize
          (fun i => vbios (signaturePlace descAbs (signatureIndex launch.desc fuse) + i)) ∧
        launch.started = startFalcon spins
          (nvFalconSignatureFuseVersionGa102 io launch.desc.engineIdMask launch.desc.ucodeId).2
          boot0 dmaAddr launch.desc

/-- The patches and the start, with a check on the place of the signature. -/
theorem checked_ok {Failure : Type} (err : Failure) (len descAbs : Nat) (desc : NvFwsecDesc)
    (start : Mem) (launch : Launch) :
    (∃ patched, nvFwsecPatchFrts len desc frtsAddr frtsSize start = .ok patched ∧
      (if desc.signatureCount = 0 then
        pure { desc, ucode := patched, started := startFalcon spins io boot0 dmaAddr desc }
      else do
        let read := nvFalconSignatureFuseVersionGa102 io desc.engineIdMask desc.ucodeId
        let fuse ← orFail read.1 err
        let index ← orFail (nvFwsecSelectSignatureIndex desc fuse).toOption err
        let sigAt := signaturePlace descAbs index
        require (sigAt + nvBcrt30Rsa3kSigSize ≤ nvVbiosScanMax) err
        let signed ← orFail (nvFwsecPatchSignature len desc patched fun i =>
          vbios (sigAt + i)).toOption err
        return { desc, ucode := signed, started := startFalcon spins read.2 boot0 dmaAddr desc } :
      Except Failure Launch) = .ok launch) ↔
    launch.desc = desc ∧ SignatureInShadow io descAbs desc ∧
      Prepared spins io boot0 dmaAddr vbios frtsAddr frtsSize len start descAbs launch := by
  constructor
  · rintro ⟨patched, accepted, ended⟩
    by_cases unsigned : desc.signatureCount = 0
    -- Without signatures the microcode is started as the first patch left it.
    · rw [if_pos unsigned] at ended
      cases ended
      refine ⟨rfl, fun signed => absurd unsigned signed, patched, accepted, ?_⟩
      rw [if_pos unsigned]
      exact ⟨rfl, rfl⟩
    · rw [if_neg unsigned] at ended
      simp only [orFail_bind, toOption_ok, require_bind] at ended
      obtain ⟨fuse, read, index, selected, place, signed, sealed, returned⟩ := ended
      obtain ⟨_, small, listed, rfl⟩ := select_ok.mp selected
      obtain ⟨room, rfl⟩ := patch_signature_ok.mp sealed
      cases returned
      refine ⟨rfl, fun _ other again => ?_, patched, accepted, ?_⟩
      · cases read.symm.trans again
        exact place
      · rw [if_neg unsigned, signatureReach, if_neg unsigned]
        exact ⟨fuse, read, small, listed, room, rfl, rfl⟩
  · rintro ⟨rfl, shadowed, patched, accepted, rest⟩
    refine ⟨patched, accepted, ?_⟩
    by_cases unsigned : launch.desc.signatureCount = 0
    · rw [if_pos unsigned] at rest ⊢
      obtain ⟨ucode, started⟩ := rest
      rw [← ucode, ← started]
      rfl
    · rw [if_neg unsigned] at rest ⊢
      obtain ⟨fuse, read, small, listed, room, ucode, started⟩ := rest
      rw [signatureReach, if_neg unsigned] at room
      simp only [orFail_bind, toOption_ok, require_bind]
      refine ⟨fuse, read, _, select_ok.mpr ⟨unsigned, small, listed, rfl⟩,
        shadowed unsigned fuse read, _, patch_signature_ok.mpr ⟨room, rfl⟩, ?_⟩
      rw [← ucode, ← started]
      rfl

theorem place_checked {usz uoff : Nat} :
    ¬ (usz = 0 ∨ uoff > nvVbiosScanMax ∨ usz > nvVbiosScanMax - uoff) ↔
      usz ≠ 0 ∧ uoff + usz ≤ nvVbiosScanMax := by
  omega

theorem probe_ok (dma : Mem) (launch : Launch) :
    rtxRunFwsecFrts spins io boot0 dmaAddr vbios frtsAddr frtsSize dma = .ok launch ↔
      ∃ descAbs, Found vbios descAbs launch.desc ∧ launch.desc.version = 3 ∧
        InShadow io descAbs launch.desc ∧
        Prepared spins io boot0 dmaAddr vbios frtsAddr frtsSize (size launch.desc)
          (blit dma 0 (size launch.desc) fun i =>
            vbios (descAbs + launch.desc.hdrSize.toNat + i)) descAbs launch := by
  simp only [rtxRunFwsecFrts, fwsecPatchAndRun, orFail_bind, require_bind, toOption_ok, checked_ok,
    place_checked]
  constructor
  · rintro ⟨descAbs, located, desc, parsed, version, ⟨some, inside⟩, rfl, shadowed, prepared⟩
    exact ⟨descAbs, ⟨located, parsed⟩, version, ⟨some, inside, shadowed⟩, prepared⟩
  · rintro ⟨descAbs, ⟨located, parsed⟩, version, ⟨some, inside, shadowed⟩, prepared⟩
    exact ⟨descAbs, located, launch.desc, parsed, version, ⟨some, inside⟩, rfl, shadowed, prepared⟩

theorem linux_ok (dmaBuf : Mem) (dmaCap : Nat) (launch : Launch) :
    runFwsec spins io boot0 dmaAddr vbios frtsAddr frtsSize dmaBuf dmaCap = .ok launch ↔
      ∃ descAbs, Found vbios descAbs launch.desc ∧ launch.desc.version = 3 ∧
        InShadow io descAbs launch.desc ∧ size launch.desc ≤ dmaCap ∧
        Prepared spins io boot0 dmaAddr vbios frtsAddr frtsSize dmaCap
          (copied vbios dmaBuf dmaCap descAbs launch.desc) descAbs launch := by
  simp only [runFwsec, orFail_bind, require_bind, toOption_ok, checked_ok, place_checked, not_lt,
    gt_iff_lt]
  constructor
  · rintro ⟨descAbs, located, desc, parsed, version, ⟨some, inside⟩, fits, rfl, shadowed, prepared⟩
    exact ⟨descAbs, ⟨located, parsed⟩, version, ⟨some, inside, shadowed⟩, fits, prepared⟩
  · rintro ⟨descAbs, ⟨located, parsed⟩, version, ⟨some, inside, shadowed⟩, fits, prepared⟩
    exact ⟨descAbs, located, launch.desc, parsed, version, ⟨some, inside⟩, fits, rfl, shadowed,
      prepared⟩

theorem bringup_ok (ucodeVa : Mem) (ucodeCap : Nat) (launch : Launch) :
    doFwsecFrts spins io boot0 dmaAddr vbios frtsAddr frtsSize ucodeVa ucodeCap = .ok launch ↔
      ∃ descAbs, Found vbios descAbs launch.desc ∧ launch.desc.version = 3 ∧
        size launch.desc ≤ ucodeCap ∧
        Prepared spins io boot0 dmaAddr vbios frtsAddr frtsSize ucodeCap
          (copied vbios ucodeVa ucodeCap descAbs launch.desc) descAbs launch := by
  simp only [doFwsecFrts, bind_ok]
  simp only [stageFwsec, orFail_bind, require_bind, toOption_ok]
  constructor
  · rintro ⟨staged, ⟨descAbs, located, desc, parsed, version, fits, patched, accepted, ended⟩,
      returned⟩
    by_cases unsigned : desc.signatureCount = 0
    · rw [if_pos unsigned] at ended
      cases ended
      cases returned
      refine ⟨descAbs, ⟨located, parsed⟩, version, fits, patched, accepted, ?_⟩
      rw [if_pos unsigned]
      exact ⟨rfl, rfl⟩
    · rw [if_neg unsigned] at ended
      simp only [orFail_bind, toOption_ok] at ended
      obtain ⟨fuse, read, index, selected, signed, sealed, ended⟩ := ended
      obtain ⟨_, small, listed, rfl⟩ := select_ok.mp selected
      obtain ⟨room, rfl⟩ := patch_signature_ok.mp sealed
      cases ended
      cases returned
      refine ⟨descAbs, ⟨located, parsed⟩, version, fits, patched, accepted, ?_⟩
      rw [if_neg unsigned, signatureReach, if_neg unsigned]
      exact ⟨fuse, read, small, listed, room, rfl, rfl⟩
  · rintro ⟨descAbs, ⟨located, parsed⟩, version, fits, patched, accepted, rest⟩
    by_cases unsigned : launch.desc.signatureCount = 0
    · rw [if_pos unsigned] at rest
      obtain ⟨ucode, started⟩ := rest
      refine ⟨⟨launch.desc, descAbs + launch.desc.hdrSize.toNat, size launch.desc, patched, none,
          io⟩,
        ⟨descAbs, located, launch.desc, parsed, version, fits, patched, accepted, ?_⟩, ?_⟩
      · rw [if_pos unsigned]
        rfl
      · rw [← ucode, ← started]
        rfl
    · rw [if_neg unsigned] at rest
      obtain ⟨fuse, read, small, listed, room, ucode, started⟩ := rest
      rw [signatureReach, if_neg unsigned] at room
      refine ⟨⟨launch.desc, descAbs + launch.desc.hdrSize.toNat, size launch.desc, launch.ucode,
          some (signatureIndex launch.desc fuse,
            signaturePlace descAbs (signatureIndex launch.desc fuse)),
          (nvFalconSignatureFuseVersionGa102 io launch.desc.engineIdMask launch.desc.ucodeId).2⟩,
        ⟨descAbs, located, launch.desc, parsed, version, fits, patched, accepted, ?_⟩, ?_⟩
      · rw [if_neg unsigned, ucode]
        simp only [orFail_bind, toOption_ok]
        exact ⟨fuse, read, _, select_ok.mpr ⟨unsigned, small, listed, rfl⟩, _,
          patch_signature_ok.mpr ⟨room, rfl⟩, rfl⟩
      · rw [← started]
        rfl

/-! What the outcome of both patches depends on. -/

theorem prepared_iff (spins : Nat) (boot0 : UInt32) (dmaAddr frtsAddr frtsSize : UInt64)
    {len descAbs : Nat} {desc : NvFwsecDesc} {start : Mem}
    (same : SameBelow len start (microcode vbios descAbs desc)) :
    (∃ launch, launch.desc = desc ∧
      Prepared spins io boot0 dmaAddr vbios frtsAddr frtsSize len start descAbs launch) ↔
    Signable io desc ∧ Room (needed vbios descAbs desc) len := by
  have accepts : (∃ patched, nvFwsecPatchFrts len desc frtsAddr frtsSize start = .ok patched) ↔
      Room (frtsReach desc (microcode vbios descAbs desc)) len :=
    (frts_accepts frtsAddr frtsSize).trans (frts_room same)
  rw [needed, reach, room_max, ← accepts]
  constructor
  · rintro ⟨launch, rfl, patched, accepted, rest⟩
    by_cases unsigned : launch.desc.signatureCount = 0
    · refine ⟨fun signed => absurd unsigned signed, ?_, patched, accepted⟩
      rw [signatureReach, if_pos unsigned]
      exact Nat.zero_le len
    · rw [if_neg unsigned] at rest
      obtain ⟨fuse, read, small, listed, room, _⟩ := rest
      exact ⟨fun _ => ⟨fuse, read, small, listed⟩, room, patched, accepted⟩
  · rintro ⟨signable, room, patched, accepted⟩
    by_cases unsigned : desc.signatureCount = 0
    · refine ⟨⟨desc, patched, startFalcon spins io boot0 dmaAddr desc⟩, rfl, patched, accepted, ?_⟩
      rw [if_pos unsigned]
      exact ⟨rfl, rfl⟩
    · obtain ⟨fuse, read, small, listed⟩ := signable unsigned
      refine ⟨⟨desc,
        blit patched (desc.imemLoadSize.toNat + desc.pkcDataOffset.toNat) nvBcrt30Rsa3kSigSize
          fun i => vbios (signaturePlace descAbs (signatureIndex desc fuse) + i),
        startFalcon spins (nvFalconSignatureFuseVersionGa102 io desc.engineIdMask desc.ucodeId).2
          boot0 dmaAddr desc⟩, rfl, patched, accepted, ?_⟩
      rw [if_neg unsigned]
      exact ⟨fuse, read, small, listed, room, rfl, rfl⟩

/-- With room for the patches in the microcode, the buffer's length makes no difference. -/
theorem prepared_same {len k descAbs : Nat} {start start' : Mem} {one other : Launch}
    (desc : one.desc = other.desc)
    (before : SameBelow (size one.desc) start (microcode vbios descAbs one.desc))
    (after : SameBelow (size one.desc) start' (microcode vbios descAbs one.desc))
    (room : Room (needed vbios descAbs one.desc) (size one.desc))
    (first : Prepared spins io boot0 dmaAddr vbios frtsAddr frtsSize len start descAbs one)
    (second : Prepared spins io boot0 dmaAddr vbios frtsAddr frtsSize k start' descAbs other) :
    SameLaunch one other := by
  obtain ⟨patched, accepted, rest⟩ := first
  obtain ⟨patched', accepted', rest'⟩ := second
  rw [needed, reach, room_max] at room
  rw [← desc] at accepted' rest'
  have inside := (frts_room before).mpr room.2
  have alike := frts_agree (before.trans after.symm) inside accepted accepted'
  by_cases unsigned : one.desc.signatureCount = 0
  · rw [if_pos unsigned] at rest rest'
    obtain ⟨ucode, started⟩ := rest
    obtain ⟨ucode', started'⟩ := rest'
    refine ⟨desc, ?_, started.trans started'.symm⟩
    rw [ucode, ucode']
    exact alike
  · rw [if_neg unsigned] at rest rest'
    obtain ⟨fuse, read, _, _, _, ucode, started⟩ := rest
    obtain ⟨fuse', read', _, _, _, ucode', started'⟩ := rest'
    cases read.symm.trans read'
    refine ⟨desc, ?_, started.trans started'.symm⟩
    rw [ucode, ucode']
    exact alike.blit _ _ _

theorem copied_same (vbios ucode : Mem) (cap descAbs : Nat) (desc : NvFwsecDesc) :
    SameBelow cap (copied vbios ucode cap descAbs desc) (microcode vbios descAbs desc) := by
  intro x below
  by_cases inside : x < size desc
  · rw [copied, microcode, blit_inside _ _ _ _ _ ⟨Nat.zero_le x, by rw [size] at inside; omega⟩,
      blit_inside _ _ _ _ _ ⟨Nat.zero_le x, by omega⟩]
  · rw [copied, microcode, blit_outside _ _ _ _ _ (.inr (by rw [size] at inside; omega)),
      blit_outside _ _ _ _ _ (.inr (by omega)), clear_inside _ _ _ _ ⟨Nat.zero_le x, by omega⟩]

theorem fresh_same (dma : Mem) (descAbs : Nat) (desc : NvFwsecDesc) :
    SameBelow (size desc)
      (blit dma 0 (size desc) fun i => vbios (descAbs + desc.hdrSize.toNat + i))
      (microcode vbios descAbs desc) := by
  intro x below
  rw [microcode, blit_inside _ _ _ _ _ ⟨Nat.zero_le x, by omega⟩,
    blit_inside _ _ _ _ _ ⟨Nat.zero_le x, by omega⟩]

/-! When a path goes on, for the descriptor that was found. -/

variable {descAbs : Nat} {desc : NvFwsecDesc} (found : Found vbios descAbs desc)
  (version : desc.version = 3)

include found version

theorem probe_goes (dma : Mem) :
    GoesOn (rtxRunFwsecFrts spins io boot0 dmaAddr vbios frtsAddr frtsSize dma) ↔
      InShadow io descAbs desc ∧ Signable io desc ∧
        Room (needed vbios descAbs desc) (size desc) := by
  rw [← prepared_iff spins boot0 dmaAddr frtsAddr frtsSize (fresh_same dma descAbs desc)]
  simp only [GoesOn, probe_ok]
  constructor
  · rintro ⟨launch, _, again, _, shadowed, prepared⟩
    obtain ⟨rfl, rfl⟩ := found_unique found again
    exact ⟨shadowed, launch, rfl, prepared⟩
  · rintro ⟨shadowed, launch, rfl, prepared⟩
    exact ⟨launch, descAbs, found, version, shadowed, prepared⟩

theorem linux_goes (dmaBuf : Mem) {dmaCap : Nat} (fits : size desc ≤ dmaCap) :
    GoesOn (runFwsec spins io boot0 dmaAddr vbios frtsAddr frtsSize dmaBuf dmaCap) ↔
      InShadow io descAbs desc ∧ Signable io desc ∧ Room (needed vbios descAbs desc) dmaCap := by
  rw [← prepared_iff spins boot0 dmaAddr frtsAddr frtsSize
    (copied_same vbios dmaBuf dmaCap descAbs desc)]
  simp only [GoesOn, linux_ok]
  constructor
  · rintro ⟨launch, _, again, _, shadowed, _, prepared⟩
    obtain ⟨rfl, rfl⟩ := found_unique found again
    exact ⟨shadowed, launch, rfl, prepared⟩
  · rintro ⟨shadowed, launch, rfl, prepared⟩
    exact ⟨launch, descAbs, found, version, shadowed, fits, prepared⟩

theorem bringup_goes (ucodeVa : Mem) {ucodeCap : Nat} (fits : size desc ≤ ucodeCap) :
    GoesOn (doFwsecFrts spins io boot0 dmaAddr vbios frtsAddr frtsSize ucodeVa ucodeCap) ↔
      Signable io desc ∧ Room (needed vbios descAbs desc) ucodeCap := by
  rw [← prepared_iff spins boot0 dmaAddr frtsAddr frtsSize
    (copied_same vbios ucodeVa ucodeCap descAbs desc)]
  simp only [GoesOn, bringup_ok]
  constructor
  · rintro ⟨launch, _, again, _, _, prepared⟩
    obtain ⟨rfl, rfl⟩ := found_unique found again
    exact ⟨launch, rfl, prepared⟩
  · rintro ⟨launch, rfl, prepared⟩
    exact ⟨launch, descAbs, found, version, fits, prepared⟩

omit found version

/-- A shadow without a descriptor of version 3 stops every path. -/
theorem none_goes (nothing : ¬ ∃ descAbs desc, Found vbios descAbs desc ∧ desc.version = 3)
    (dma dmaBuf ucodeVa : Mem) (dmaCap ucodeCap : Nat) :
    ¬ GoesOn (rtxRunFwsecFrts spins io boot0 dmaAddr vbios frtsAddr frtsSize dma) ∧
      ¬ GoesOn (runFwsec spins io boot0 dmaAddr vbios frtsAddr frtsSize dmaBuf dmaCap) ∧
      ¬ GoesOn (doFwsecFrts spins io boot0 dmaAddr vbios frtsAddr frtsSize ucodeVa ucodeCap) := by
  refine ⟨?_, ?_, ?_⟩
  · rintro ⟨launch, ended⟩
    obtain ⟨_, found, version, _⟩ := (probe_ok dma launch).mp ended
    exact nothing ⟨_, _, found, version⟩
  · rintro ⟨launch, ended⟩
    obtain ⟨_, found, version, _⟩ := (linux_ok dmaBuf dmaCap launch).mp ended
    exact nothing ⟨_, _, found, version⟩
  · rintro ⟨launch, ended⟩
    obtain ⟨_, found, version, _⟩ := (bringup_ok ucodeVa ucodeCap launch).mp ended
    exact nothing ⟨_, _, found, version⟩

/-- Where all three go on, the probe's buffer has room for the patches, which then do not
depend on how large the others are. -/
theorem launches_same {dma dmaBuf ucodeVa : Mem} {dmaCap ucodeCap : Nat} {p l b : Launch}
    (probe : rtxRunFwsecFrts spins io boot0 dmaAddr vbios frtsAddr frtsSize dma = .ok p)
    (linux : runFwsec spins io boot0 dmaAddr vbios frtsAddr frtsSize dmaBuf dmaCap = .ok l)
    (bringup : doFwsecFrts spins io boot0 dmaAddr vbios frtsAddr frtsSize ucodeVa ucodeCap =
      .ok b) : SameLaunch p l ∧ SameLaunch p b := by
  obtain ⟨descAbs, found, _, shadowed, prepared⟩ := (probe_ok dma p).mp probe
  obtain ⟨_, again, _, _, dmaFits, dmaPrepared⟩ := (linux_ok dmaBuf dmaCap l).mp linux
  obtain ⟨_, once, _, ucodeFits, ucodePrepared⟩ := (bringup_ok ucodeVa ucodeCap b).mp bringup
  obtain ⟨rfl, sameLinux⟩ := found_unique found again
  obtain ⟨rfl, sameBringup⟩ := found_unique found once
  have room := ((prepared_iff spins boot0 dmaAddr frtsAddr frtsSize
    (fresh_same dma descAbs p.desc)).mp ⟨p, rfl, prepared⟩).2
  rw [← sameLinux] at dmaFits dmaPrepared
  rw [← sameBringup] at ucodeFits ucodePrepared
  have dmaSame := (copied_same vbios dmaBuf dmaCap descAbs p.desc).le dmaFits
  have ucodeSame := (copied_same vbios ucodeVa ucodeCap descAbs p.desc).le ucodeFits
  exact ⟨prepared_same sameLinux (fresh_same dma descAbs p.desc) dmaSame room prepared dmaPrepared,
    prepared_same sameBringup (fresh_same dma descAbs p.desc) ucodeSame room prepared
      ucodePrepared⟩

end Prepare

/-- The three paths agree on exactly the shadows where the larger buffers make no
difference and the bring-up does not need the checks it leaves out. -/
theorem orchestrators_agree_iff (spins : Nat) (io : Mmio) (boot0 : UInt32) (dmaAddr : UInt64)
    (vbios : Mem) (frtsAddr frtsSize : UInt64) (dma dmaBuf ucodeVa : Mem) (dmaCap ucodeCap : Nat)
    (large : ∀ descAbs desc, Found vbios descAbs desc → desc.version = 3 →
      size desc ≤ dmaCap ∧ size desc ≤ ucodeCap) :
    Agree (rtxRunFwsecFrts spins io boot0 dmaAddr vbios frtsAddr frtsSize dma)
        (runFwsec spins io boot0 dmaAddr vbios frtsAddr frtsSize dmaBuf dmaCap)
        (doFwsecFrts spins io boot0 dmaAddr vbios frtsAddr frtsSize ucodeVa ucodeCap) ↔
      Consistent io vbios dmaCap ucodeCap := by
  constructor
  · rintro ⟨⟨probeLinux, linuxBringup⟩, _⟩ descAbs desc found version signable
    obtain ⟨dmaFits, ucodeFits⟩ := large descAbs desc found version
    rw [linux_goes found version dmaBuf dmaFits, probe_goes found version dma] at probeLinux
    rw [linux_goes found version dmaBuf dmaFits, bringup_goes found version ucodeVa ucodeFits]
      at linuxBringup
    constructor
    · intro shadowed
      -- Where the probe lacks the room, agreement leaves it to no larger buffer either.
      by_cases room : Room (needed vbios descAbs desc) (size desc)
      · exact .inl room
      · have linuxStops : ¬ Room (needed vbios descAbs desc) dmaCap := fun wide =>
          room (probeLinux.mpr ⟨shadowed, signable, wide⟩).2.2
        exact .inr ⟨linuxStops, fun wide => linuxStops (linuxBringup.mpr ⟨signable, wide⟩).2.2⟩
    · exact fun outside wide => outside (linuxBringup.mpr ⟨signable, wide⟩).1
  · intro consistent
    constructor
    · by_cases any : ∃ descAbs desc, Found vbios descAbs desc ∧ desc.version = 3
      · obtain ⟨descAbs, desc, found, version⟩ := any
        obtain ⟨dmaFits, ucodeFits⟩ := large descAbs desc found version
        rw [linux_goes found version dmaBuf dmaFits, probe_goes found version dma,
          bringup_goes found version ucodeVa ucodeFits]
        have choice := consistent descAbs desc found version
        have dmaRoom : Room (needed vbios descAbs desc) (size desc) →
            Room (needed vbios descAbs desc) dmaCap := fun room => room.le dmaFits
        have ucodeRoom : Room (needed vbios descAbs desc) (size desc) →
            Room (needed vbios descAbs desc) ucodeCap := fun room => room.le ucodeFits
        tauto
      · obtain ⟨probeStops, linuxStops, bringupStops⟩ :=
          none_goes any dma dmaBuf ucodeVa dmaCap ucodeCap
        exact ⟨iff_of_false probeStops linuxStops, iff_of_false linuxStops bringupStops⟩
    · intro p l b probe linux bringup
      obtain ⟨first, second⟩ := launches_same probe linux bringup
      refine ⟨first, first.desc.symm.trans second.desc, ?_, first.started.symm.trans second.started⟩
      have sizes : l.usz = p.usz := by rw [Launch.usz, Launch.usz, first.desc]
      rw [sizes]
      exact first.ucode.symm.trans second.ucode

/-- A descriptor at 0x1000 with 64 bytes of microcode behind it, all in the shadow. Its
interface table places the mapper 256 bytes behind the start of the microcode. -/
def farMapper : Mem :=
  overlay (twoImages [0x56, 0x4e] [0, 0x10] ++
    [(0x1000, [0, 3, 44]), (0x1020, [64]), (0x102c, [1, 4, 8, 1, 4, 0, 0, 0, 0, 1])])

/-- A card whose registers all read 0. -/
def zeroCard : Mmio := ⟨Stream'.const 0, []⟩

/-- The descriptor that the search ends with, if any. -/
def parsed (vbios : Mem) : Option NvFwsecDesc := do
  let descAbs ← (nvFwsecLocate (shadow vbios)).toOption
  (nvFwsecDescParse vbios descAbs (nvVbiosScanMax - descAbs)).toOption

theorem parsed_of_found {vbios : Mem} {descAbs : Nat} {desc : NvFwsecDesc}
    (found : Found vbios descAbs desc) : parsed vbios = some desc := by
  obtain ⟨located, read⟩ := found
  simp only [parsed, located, Except.toOption, Option.bind_eq_bind, Option.bind_some, read]

theorem far_mapper_small : (parsed farMapper).map size = some 64 := by decide +kernel

theorem far_mapper_fits {descAbs : Nat} {desc : NvFwsecDesc}
    (found : Found farMapper descAbs desc) : size desc ≤ 0x100000 := by
  have small := far_mapper_small
  rw [parsed_of_found found] at small
  have bytes : size desc = 64 := Option.some.inj small
  rw [bytes]
  decide

/-- 512 bytes of microcode, with the mapper 64 bytes behind their start. -/
def nearMapper : Mem :=
  overlay (twoImages [0x56, 0x4e] [0, 0x10] ++
    [(0x1000, [0, 3, 44]), (0x1020, [0, 2]), (0x102c, [1, 4, 8, 1, 4, 0, 0, 0, 0x40]),
      (0x1078, [0, 1])])

/-- All three paths start this microcode. -/
theorem orchestrators_agree_iff_near :
    Agree (rtxRunFwsecFrts 1 zeroCard 0 0 nearMapper 0 0x100000 nearMapper)
        (runFwsec 1 zeroCard 0 0 nearMapper 0 0x100000 nearMapper 0x100000)
        (doFwsecFrts 1 zeroCard 0 0 nearMapper 0 0x100000 nearMapper 0x100000) ∧
      GoesOn (rtxRunFwsecFrts 1 zeroCard 0 0 nearMapper 0 0x100000 nearMapper) := by
  have goes : (rtxRunFwsecFrts 1 zeroCard 0 0 nearMapper 0 0x100000 nearMapper).toOption.isSome =
      true := by decide +kernel
  have small : (parsed nearMapper).map size = some 512 := by decide +kernel
  obtain ⟨launch, ended⟩ := Option.isSome_iff_exists.mp goes
  have started : GoesOn (rtxRunFwsecFrts 1 zeroCard 0 0 nearMapper 0 0x100000 nearMapper) :=
    ⟨launch, toOption_ok.mp ended⟩
  refine ⟨(orchestrators_agree_iff 1 zeroCard 0 0 nearMapper 0 0x100000 nearMapper nearMapper
    nearMapper 0x100000 0x100000 ?_).mpr ?_, started⟩
  · intro descAbs desc found _
    rw [parsed_of_found found] at small
    have bytes : size desc = 512 := Option.some.inj small
    rw [bytes]
    decide
  -- The extension goes on, so the patches stay in the microcode and that in the shadow.
  · intro descAbs desc found version _
    obtain ⟨shadowed, _, room⟩ := (probe_goes found version nearMapper).mp started
    exact ⟨fun _ => Or.inl room, fun outside => absurd shadowed outside⟩

/-- The extension refuses a microcode that the tool and the bring-up start. -/
theorem orchestrators_differ :
    (∀ descAbs desc, Found farMapper descAbs desc → size desc ≤ 0x100000) ∧
      ¬ Agree (rtxRunFwsecFrts 1 zeroCard 0 0 farMapper 0 0x100000 farMapper)
        (runFwsec 1 zeroCard 0 0 farMapper 0 0x100000 farMapper 0x100000)
        (doFwsecFrts 1 zeroCard 0 0 farMapper 0 0x100000 farMapper 0x100000) := by
  refine ⟨fun _ _ => far_mapper_fits, fun agree => ?_⟩
  have stops : (rtxRunFwsecFrts 1 zeroCard 0 0 farMapper 0 0x100000 farMapper).toOption.isSome =
      false := by decide +kernel
  have goes : (runFwsec 1 zeroCard 0 0 farMapper 0 0x100000 farMapper 0x100000).toOption.isSome =
      true := by decide +kernel
  obtain ⟨launch, ended⟩ := Option.isSome_iff_exists.mp goes
  obtain ⟨_, started⟩ := agree.decision.1.mpr ⟨launch, toOption_ok.mp ended⟩
  rw [started] at stops
  cases stops

end GspDriver.FwsecPaths
