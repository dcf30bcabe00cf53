import GspDriver.Base.Checked
import GspDriver.LittleEndian

/-!
The parser of the Booter container and the choice of its signature, and what
`nv_gsp_bringup` then makes of the parsed fields: the copies into the staging
buffer and the two DMA transfers out of it.
-/

namespace GspDriver.Booter

open Bytes LittleEndian Checked

inductive BooterErr where
  | bounds
  | magic
  | layout
  deriving DecidableEq

def nvBooterBinMagic : UInt32 := 0x10de
def nvBooterMaxApps : UInt32 := 8
def nvBooterSigSize : Nat := 384
def nvBooterFuseVersionUseLastSig : UInt32 := 0

structure NvBooterApp where
  codeOffset : UInt32
  codeSize : UInt32
  dataOffset : UInt32
  dataSize : UInt32
  deriving DecidableEq

structure NvBooterDesc where
  dataAbs : UInt32
  dataSize : UInt32
  sigProdAbs : UInt32
  sigProdSize : UInt32
  numSig : UInt32
  patchLoc : UInt32
  patchSig : UInt32
  metaAbs : UInt32
  metaSize : UInt32
  sigFuseVer : UInt32
  engineIdMask : UInt32
  ucodeId : UInt32
  osCodeOffset : UInt32
  osCodeSize : UInt32
  osDataOffset : UInt32
  osDataSize : UInt32
  numApps : UInt32
  app : Nat → NvBooterApp
  pkcDataOffset : UInt32

def readApp (m : Mem) (a : Nat) : NvBooterApp :=
  { codeOffset := ld32 m a
    codeSize := ld32 m (a + 4)
    dataOffset := ld32 m (a + 8)
    dataSize := ld32 m (a + 12) }

/-- The table starts cleared; the loop fills its first `count` entries. -/
def readApps (m : Mem) (lh count : Nat) : Nat → NvBooterApp :=
  (List.range count).foldl (fun app i => Function.update app i (readApp m (lh + 20 + i * 16)))
    fun _ => ⟨0, 0, 0, 0⟩

def nvBooterParse (blob : Blob) : Except BooterErr NvBooterDesc := do
  let buf := blob.bytes
  let len := blob.len
  require (fits 0 24 len) .bounds
  require (ld32 buf 0 = nvBooterBinMagic) .magic
  let binHdrOff := ld32 buf 12
  let dataOff := ld32 buf 16
  let dataSize := ld32 buf 20
  require (fits dataOff.toNat dataSize.toNat len) .bounds
  require (fits binHdrOff.toNat 36 len) .bounds
  let h := binHdrOff.toNat
  let sigProdOff := ld32 buf h
  let sigProdSize := ld32 buf (h + 4)
  let patchLocOff := ld32 buf (h + 8)
  let patchSigOff := ld32 buf (h + 12)
  let metaOff := ld32 buf (h + 16)
  let metaSize := ld32 buf (h + 20)
  let numSigOff := ld32 buf (h + 24)
  let loadHdrOff := ld32 buf (h + 28)
  require (fits sigProdOff.toNat sigProdSize.toNat len) .bounds
  require (fits patchLocOff.toNat 4 len ∧ fits patchSigOff.toNat 4 len ∧ fits numSigOff.toNat 4 len)
    .bounds
  let patchLoc := ld32 buf patchLocOff.toNat
  let numSig := ld32 buf numSigOff.toNat
  require (numSig.toNat * nvBooterSigSize = sigProdSize.toNat) .layout
  require (12 ≤ metaSize.toNat ∧ fits metaOff.toNat 12 len) .layout
  require (fits loadHdrOff.toNat 20 len) .bounds
  let lh := loadHdrOff.toNat
  let osCodeOffset := ld32 buf lh
  let osCodeSize := ld32 buf (lh + 4)
  let osDataOffset := ld32 buf (lh + 8)
  let osDataSize := ld32 buf (lh + 12)
  let numApps := ld32 buf (lh + 16)
  require (numApps ≤ nvBooterMaxApps) .layout
  -- the start of the table is a 32-bit sum in this check, and only here
  require (fits (loadHdrOff + 20).toNat (numApps.toNat * 16) len) .bounds
  require (osCodeOffset.toNat + osCodeSize.toNat ≤ dataSize.toNat ∧
    osDataOffset.toNat + osDataSize.toNat ≤ dataSize.toNat) .layout
  require (osDataOffset ≤ patchLoc) .layout
  return {
    dataAbs := dataOff, dataSize, sigProdAbs := sigProdOff, sigProdSize, numSig, patchLoc
    patchSig := ld32 buf patchSigOff.toNat
    metaAbs := metaOff, metaSize
    sigFuseVer := ld32 buf metaOff.toNat
    engineIdMask := ld32 buf (metaOff.toNat + 4)
    ucodeId := ld32 buf (metaOff.toNat + 8)
    osCodeOffset, osCodeSize, osDataOffset, osDataSize, numApps
    app := readApps buf lh numApps.toNat
    pkcDataOffset := patchLoc - osDataOffset }

def nvBooterSelectSignature (desc : NvBooterDesc) (regFuseVersion : UInt32) :
    Except BooterErr UInt32 := do
  require (desc.numSig ≠ 0) .layout
  if regFuseVersion = nvBooterFuseVersionUseLastSig then
    require (desc.numSig - 1 < desc.numSig) .layout
    return desc.numSig - 1
  else
    require (regFuseVersion ≤ desc.sigFuseVer) .layout
    require (desc.sigFuseVer - regFuseVersion < desc.numSig) .layout
    return desc.sigFuseVer - regFuseVersion

/-! The Booter load of the bring-up. -/

def stagingSize : Nat := 0x100000

/-- A `memcpy` from the blob into the staging buffer. -/
structure Copy where
  dst : Nat
  src : Nat
  len : Nat

def Copy.run (copy : Copy) (blob : Blob) (staging : Mem) : Mem :=
  blit staging copy.dst copy.len fun i => blob.bytes (copy.src + i)

def loadCopies (desc : NvBooterDesc) (index : UInt32) : List Copy :=
  [{ dst := 0, src := desc.dataAbs.toNat, len := desc.dataSize.toNat },
    { dst := desc.patchLoc.toNat, src := desc.sigProdAbs.toNat + index.toNat * nvBooterSigSize
      len := nvBooterSigSize }]

def stage (blob : Blob) (desc : NvBooterDesc) (index : UInt32) (staging : Mem) : Mem :=
  (loadCopies desc index).foldl (fun m copy => copy.run blob m) (clear staging 0 stagingSize)

structure NvDmaLoadTarget where
  srcStart : UInt32
  dstStart : UInt32
  len : UInt32

/-- What SEC2 is told to load, and where it starts. -/
structure DmaLoad where
  imemSec : NvDmaLoadTarget
  dmem : NvDmaLoadTarget
  pkcDataOffset : UInt32
  bootvec : UInt32

def dmaLoad (desc : NvBooterDesc) : DmaLoad :=
  { imemSec := ⟨(desc.app 0).codeOffset, 0, (desc.app 0).codeSize⟩
    dmem := ⟨desc.osDataOffset, 0, desc.osDataSize⟩
    pkcDataOffset := desc.pkcDataOffset
    bootvec := (desc.app 0).codeOffset }

/-- What the other copy of the loader, `run_booter`, checks before its copies. -/
def runBooterChecks (blob : Blob) (desc : NvBooterDesc) (index : UInt32) (dmaCap : Nat) : Prop :=
  desc.dataSize.toNat ≤ dmaCap ∧
    desc.sigProdAbs.toNat + index.toNat * nvBooterSigSize + nvBooterSigSize ≤ blob.len ∧
    desc.patchLoc.toNat + nvBooterSigSize ≤ desc.dataSize.toNat

end GspDriver.Booter
