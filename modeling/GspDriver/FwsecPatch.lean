import GspDriver.Falcon
import GspDriver.FwsecLocate

/-!
The FWSEC descriptor, the FRTS command and the signature that are patched into
the microcode, and the part of `do_fwsec_frts` that prepares the microcode for
the falcon: everything up to the reset.
-/

namespace GspDriver.FwsecPatch

open Bytes LittleEndian Checked Falcon FwsecLocate

inductive FwsecErr where
  | parse
  | bounds
  | nosig
  deriving DecidableEq

def nvBcrt30Rsa3kSigSize : Nat := 384
def nvfwFalconAppifIdDmemmapper : UInt32 := 4
def nvfwDmemmapperCmdFrts : UInt32 := 0x15
def nvfwFrtsRegionTypeFb : UInt32 := 2
def dmemmapperCmdInBufferOffset : Nat := 8
def dmemmapperInitCmdOffset : Nat := 44
def szReadvbios : Nat := 24
def szFrtsregion : Nat := 20

structure NvFwsecDesc where
  version : UInt8
  hdrSize : UInt32
  imemLoadSize : UInt32
  imemPhysBase : UInt32
  dmemLoadSize : UInt32
  dmemPhysBase : UInt32
  interfaceOffset : UInt32
  pkcDataOffset : UInt32
  engineIdMask : UInt16
  signatureVersions : UInt16
  ucodeId : UInt8
  signatureCount : UInt8
  deriving DecidableEq

/-- The descriptor at `desc`, with `len` bytes left there. -/
def nvFwsecDescParse (m : Mem) (desc len : Nat) : Except FwsecErr NvFwsecDesc := do
  require (4 ≤ len) .bounds
  let ver := m (desc + 1)
  let hdrSize := (ld32 m desc >>> 16) &&& 0xffff
  if ver = 3 then
    require (44 ≤ len) .bounds
    return {
      version := ver, hdrSize
      pkcDataOffset := ld32 m (desc + 8)
      interfaceOffset := ld32 m (desc + 12)
      imemPhysBase := ld32 m (desc + 16)
      imemLoadSize := ld32 m (desc + 20)
      dmemPhysBase := ld32 m (desc + 28)
      dmemLoadSize := ld32 m (desc + 32)
      engineIdMask := (ld32 m (desc + 36) &&& 0xffff).toUInt16
      ucodeId := m (desc + 38)
      signatureCount := m (desc + 39)
      signatureVersions := (ld32 m (desc + 40) &&& 0xffff).toUInt16 }
  else
    require (ver = 2) .parse
    require (60 ≤ len) .bounds
    return {
      version := ver, hdrSize
      interfaceOffset := ld32 m (desc + 16)
      imemPhysBase := ld32 m (desc + 20)
      imemLoadSize := ld32 m (desc + 24)
      dmemPhysBase := ld32 m (desc + 44)
      dmemLoadSize := ld32 m (desc + 48)
      pkcDataOffset := 0, engineIdMask := 0, ucodeId := 0, signatureCount := 0
      signatureVersions := 0 }

/-- ReadVbios and behind it FrtsRegion, at `rv`. -/
def frtsCommand (ucode : Mem) (rv : Nat) (frtsAddr frtsSize : UInt64) : Mem :=
  let ucode := st32 ucode rv 1
  let ucode := st32 ucode (rv + 4) (UInt32.ofNat szReadvbios)
  let ucode := st64 ucode (rv + 8) 0
  let ucode := st32 ucode (rv + 16) 0
  let ucode := st32 ucode (rv + 20) 2
  let fr := rv + szReadvbios
  let ucode := st32 ucode fr 1
  let ucode := st32 ucode (fr + 4) (UInt32.ofNat szFrtsregion)
  let ucode := st32 ucode (fr + 8) (frtsAddr >>> 12).toUInt32
  let ucode := st32 ucode (fr + 12) (frtsSize >>> 12).toUInt32
  st32 ucode (fr + 16) nvfwFrtsRegionTypeFb

section Patch

variable (ucodeLen : Nat) (d : NvFwsecDesc) (frtsAddr frtsSize : UInt64)

def patchMapper (ucode : Mem) (dmemBase : UInt32) : Except FwsecErr Mem := do
  let mapperOff := d.imemLoadSize.toNat + dmemBase.toNat
  require (fits mapperOff (dmemmapperInitCmdOffset + 4) ucodeLen) .bounds
  let ucode := st32 ucode (mapperOff + dmemmapperInitCmdOffset) nvfwDmemmapperCmdFrts
  let cmdInOff := ld32 ucode (mapperOff + dmemmapperCmdInBufferOffset)
  let frtsCmdOff := d.imemLoadSize.toNat + cmdInOff.toNat
  require (fits frtsCmdOff (szReadvbios + szFrtsregion) ucodeLen) .bounds
  return frtsCommand ucode frtsCmdOff frtsAddr frtsSize

/-- The first DMEMMAPPER among the `count` entries from `entryOff` on is patched. -/
def patchEntries (ucode : Mem) (entrySize : Nat) : Nat → Nat → Except FwsecErr Mem
  | 0, _ => .error .parse
  | count + 1, entryOff => do
      require (fits entryOff 8 ucodeLen) .bounds
      if ld32 ucode entryOff = nvfwFalconAppifIdDmemmapper then
        patchMapper ucodeLen d frtsAddr frtsSize ucode (ld32 ucode (entryOff + 4))
      else patchEntries ucode entrySize count (entryOff + entrySize)

def nvFwsecPatchFrts (ucode : Mem) : Except FwsecErr Mem := do
  let hdrOff := d.imemLoadSize.toNat + d.interfaceOffset.toNat
  require (fits hdrOff 4 ucodeLen) .bounds
  let headerSize := (ucode (hdrOff + 1)).toNat
  let entrySize := (ucode (hdrOff + 2)).toNat
  let entryCount := (ucode (hdrOff + 3)).toNat
  require (ucode hdrOff = 1) .parse
  patchEntries ucodeLen d frtsAddr frtsSize ucode entrySize entryCount (hdrOff + headerSize)

def nvFwsecPatchSignature (ucode : Mem) (sig384 : Nat → UInt8) : Except FwsecErr Mem := do
  let off := d.imemLoadSize.toNat + d.pkcDataOffset.toNat
  require (fits off nvBcrt30Rsa3kSigSize ucodeLen) .bounds
  return blit ucode off nvBcrt30Rsa3kSigSize sig384

end Patch

theorem clear_lowest_lt {v : UInt32} (some : v ≠ 0) : (v &&& (v - 1)).toNat < v.toNat := by
  have positive : 1 ≤ v := by
    rw [UInt32.le_iff_toNat_le]
    have nonzero : v.toNat ≠ 0 := fun zero => some (UInt32.toNat_inj.mp zero)
    exact Nat.one_le_iff_ne_zero.mpr nonzero
  have below : (v - 1).toNat = v.toNat - 1 := UInt32.toNat_sub_of_le v 1 positive
  have masked : (v &&& (v - 1)).toNat ≤ (v - 1).toNat := by
    rw [UInt32.toNat_and]
    exact Nat.and_le_right
  have one : 1 ≤ v.toNat := UInt32.le_iff_toNat_le.mp positive
  omega

/-- Each round clears the lowest bit of `v`. -/
def popcountFrom (v c : UInt32) : UInt32 :=
  if v ≠ 0 then popcountFrom (v &&& (v - 1)) (c + 1) else c
termination_by v.toNat
decreasing_by exact clear_lowest_lt ‹_›

def popcount32 (v : UInt32) : UInt32 := popcountFrom v 0

/-- The number of signatures for older fuse versions. -/
def signatureIndex (d : NvFwsecDesc) (fuseVersion : UInt32) : UInt32 :=
  popcount32 (d.signatureVersions.toUInt32 &&& ((1 <<< fuseVersion) - 1))

def nvFwsecSelectSignatureIndex (d : NvFwsecDesc) (fuseVersion : UInt32) :
    Except FwsecErr UInt32 := do
  require (d.signatureCount ≠ 0) .nosig
  require (fuseVersion < 32) .nosig
  require (d.signatureVersions.toUInt32 &&& (1 <<< fuseVersion) ≠ 0) .nosig
  return signatureIndex d fuseVersion

/-! The first half of `do_fwsec_frts`. -/

def nvVbiosScanMax : Nat := 0x100000
def falconDescV3Size : Nat := 44

inductive StageErr where
  | locate
  | desc
  | size
  | frts
  | fuse
  | index
  | signature
  deriving DecidableEq

/-- The microcode in the staging buffer, where it came from, the index and place of the
signature in it, and the card after the fuse register was read. -/
structure Staged where
  desc : NvFwsecDesc
  uoff : Nat
  usz : Nat
  ucode : Mem
  signature : Option (UInt32 × Nat)
  io : Mmio

def signaturePlace (descAbs : Nat) (index : UInt32) : Nat :=
  descAbs + falconDescV3Size + index.toNat * nvBcrt30Rsa3kSigSize

/-- `vbios` holds the shadow that was read through BAR0, and then the memory behind it. -/
def stageFwsec (io : Mmio) (vbios : Mem) (frtsAddr frtsSize : UInt64) (ucode : Mem)
    (ucodeCap : Nat) : Except StageErr Staged := do
  let descAbs ← orFail (nvFwsecLocate { bytes := vbios, len := nvVbiosScanMax }).toOption .locate
  let desc ← orFail (nvFwsecDescParse vbios descAbs (nvVbiosScanMax - descAbs)).toOption .desc
  require (desc.version = 3) .desc
  let uoff := descAbs + desc.hdrSize.toNat
  let usz := desc.imemLoadSize.toNat + desc.dmemLoadSize.toNat
  require (usz ≤ ucodeCap) .size
  let copied := blit (clear ucode 0 ucodeCap) 0 usz fun i => vbios (uoff + i)
  let patched ← orFail (nvFwsecPatchFrts ucodeCap desc frtsAddr frtsSize copied).toOption .frts
  if desc.signatureCount = 0 then
    return { desc, uoff, usz, ucode := patched, signature := none, io }
  else
    let read := nvFalconSignatureFuseVersionGa102 io desc.engineIdMask desc.ucodeId
    let fuse ← orFail read.1 .fuse
    let index ← orFail (nvFwsecSelectSignatureIndex desc fuse).toOption .index
    let place := signaturePlace descAbs index
    let signed ← orFail (nvFwsecPatchSignature ucodeCap desc patched fun i =>
      vbios (place + i)).toOption .signature
    return { desc, uoff, usz, ucode := signed, signature := some (index, place), io := read.2 }

end GspDriver.FwsecPatch
