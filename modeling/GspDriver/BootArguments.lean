import GspDriver.StoreFields
import GspDriver.GspRpc
import GspDriver.GspFbLayout
import GspDriver.Base.Checked

/-!
The container of the GSP bootloader, and the structures of gsp_fw.c and
gsp_rpc.c through which the Booter and the GSP find everything else:
`nv_gsp_wpr_meta_build`, `nv_gsp_libos_build_args`,
`nv_gsp_pte_array_fill` and `nv_gsp_rmargs_build`. `buf` is where the buffer
starts.
-/

namespace GspDriver.BootArguments

open Bytes LittleEndian Checked GspRpc GspFbLayout Patches StoreFields
open Radix3 (fillLevel nvGspPageSize)
open MemoryList (Store)

/-! The bootloader. -/

def binMagic : UInt32 := 0x10de
def nvGspErrFormat : Int := -3

/-- `nv_gsp_bootloader_t` -/
structure NvGspBootloader where
  dataAbs : UInt32
  dataSize : UInt32
  appVersion : UInt32
  codeOffset : UInt32
  dataOffset : UInt32
  manifestOffset : UInt32
  manifestSize : UInt32

def nvGspBootloaderParse (blob : Blob) : Except Int NvGspBootloader := do
  let buf := blob.bytes
  require (fits 0 24 blob.len) nvGspErrBounds
  require (ld32 buf 0 = binMagic) nvGspErrFormat
  let hdrOff := ld32 buf 12
  let dataOff := ld32 buf 16
  let dataSz := ld32 buf 20
  require (fits dataOff.toNat dataSz.toNat blob.len) nvGspErrBounds
  require (fits hdrOff.toNat 84 blob.len) nvGspErrBounds
  let d := hdrOff.toNat
  return {
    dataAbs := dataOff
    dataSize := dataSz
    appVersion := ld32 buf (d + 28)
    manifestOffset := ld32 buf (d + 32)
    manifestSize := ld32 buf (d + 36)
    dataOffset := ld32 buf (d + 40)
    codeOffset := ld32 buf (d + 48) }

theorem bootloader_inside {blob : Blob} {bl : NvGspBootloader}
    (parsed : nvGspBootloaderParse blob = .ok bl) :
    bl.dataAbs.toNat + bl.dataSize.toNat ≤ blob.len := by
  simp only [nvGspBootloaderParse, require_bind] at parsed
  obtain ⟨_, _, inside, _, returned⟩ := parsed
  cases returned
  exact fits_iff.mp inside

/-! Words one after another. -/

def quads (words : List UInt64) : List Store :=
  words.zipIdx.map fun (v, i) => .quad (8 * i) v

def readWords (m : Mem) (a n : Nat) : List UInt64 := (List.range n).map fun i => ld64 m (a + 8 * i)

theorem quads_spaced (words : List UInt64) : Spaced ((quads words).map extent) := by
  rw [Spaced, List.pairwise_iff_getElem]
  intro i j first second before
  simp only [quads, List.map_map, List.getElem_map, List.getElem_zipIdx, Function.comp_apply,
    extent, Store.off, Store.width]
  omega

theorem quads_read (m : Mem) (base : Nat) (words : List UInt64) :
    readWords (storeAt m base (quads words)) base words.length = words := by
  apply List.ext_getElem
  · simp [readWords]
  · intro i _ inside
    have listed : (quads words)[i]? = some (.quad (8 * i) words[i]) := by
      simp [quads, inside]
    simp only [readWords, List.getElem_map, List.getElem_range]
    exact quad_at (quads_spaced words) i listed

theorem quads_within {n : Nat} {words : List UInt64} (short : words.length = n) :
    Within (8 * n) ((quads words).map extent) := by
  intro e member
  simp only [quads, List.map_map, List.mem_map, List.mem_zipIdx_iff_getElem?] at member
  obtain ⟨⟨v, i⟩, listed, rfl⟩ := member
  obtain ⟨inside, _⟩ := List.getElem?_eq_some_iff.mp listed
  change 8 * i + 8 ≤ 8 * n
  dsimp only at inside
  omega

/-! The meta structure. -/

def nvGspWprMetaMagic : UInt64 := 0xdc3aae21371a60b3
def nvGspWprMetaRevision : UInt64 := 1

/-- `nv_gsp_wpr_meta_src_t` -/
structure NvGspWprMetaSrc where
  radix3Lvl0Dma : UInt64
  radix3ElfSize : UInt64
  bootloaderDma : UInt64
  bootloaderSize : UInt64
  bootCodeOffset : UInt32
  bootDataOffset : UInt32
  bootManifestOffset : UInt32
  signatureDma : UInt64
  signatureSize : UInt64
  vgaWorkspaceAddr : UInt64
  vgaWorkspaceSize : UInt64

/-- GspFwWprMeta, from offset 0 to 192. -/
def metaWords (lay : NvGspFbLayout) (src : NvGspWprMetaSrc) : List UInt64 :=
  [nvGspWprMetaMagic, nvGspWprMetaRevision, src.radix3Lvl0Dma, src.radix3ElfSize,
    src.bootloaderDma, src.bootloaderSize, src.bootCodeOffset.toUInt64, src.bootDataOffset.toUInt64,
    src.bootManifestOffset.toUInt64, src.signatureDma, src.signatureSize, lay.nonwprHeapAddr,
    lay.nonwprHeapAddr, lay.nonwprHeapSize, lay.wpr2Addr, lay.heapAddr, lay.heapSize, lay.elfAddr,
    lay.bootAddr, lay.frtsAddr, lay.frtsSize, lay.wpr2End, lay.fbSize, src.vgaWorkspaceAddr,
    src.vgaWorkspaceSize]

def nvGspWprMetaBuild (m : Mem) (buf : Nat) (buflen : UInt64) (lay : NvGspFbLayout)
    (src : NvGspWprMetaSrc) : Except Int Mem :=
  if buflen < nvGspWprMetaSize then .error nvGspErrArg
  else
    let m := clear m buf nvGspWprMetaSize.toNat
    .ok (storeAt m buf (quads (metaWords lay src)))

/-! The arguments of libos. -/

def nvGspLibosArgSize : UInt64 := 32
def nvGspLibosKindContiguous : UInt8 := 1
def nvGspLibosLocSysmem : UInt8 := 1

/-- `nv_gsp_libos_region_t` -/
structure NvGspLibosRegion where
  name : List UInt8
  pa : UInt64
  size : UInt64

/-- Up to eight characters of the name, the first one highest. -/
def nvGspLibosId8 (name : List UInt8) : UInt64 :=
  (name.take 8).foldl (fun id c => (id <<< 8) ||| c.toUInt64) 0

def argFields (region : NvGspLibosRegion) : List Store :=
  [.quad 0 (nvGspLibosId8 region.name), .quad 8 region.pa, .quad 16 region.size,
    .byte 24 nvGspLibosKindContiguous, .byte 25 nvGspLibosLocSysmem]

def nvGspLibosBuildArgs (m : Mem) (buf : Nat) (buflen : UInt64) (regions : List NvGspLibosRegion) :
    Except Int (UInt64 × Mem) :=
  let size := UInt64.ofNat regions.length * nvGspLibosArgSize
  if size > buflen then .error nvGspErrBounds
  else
    let m := clear m buf size.toNat
    .ok (size, regions.zipIdx.foldl (fun m (region, i) => storeAt m (buf + i * 32)
      (argFields region)) m)

/-- An entry as libos reads it. -/
structure LibosArg where
  id : UInt64
  pa : UInt64
  size : UInt64
  kind : UInt8
  loc : UInt8

def readArg (m : Mem) (e : Nat) : LibosArg :=
  ⟨ld64 m (e + 0), ld64 m (e + 8), ld64 m (e + 16), m (e + 24), m (e + 25)⟩

def asArg (region : NvGspLibosRegion) : LibosArg :=
  ⟨nvGspLibosId8 region.name, region.pa, region.size, nvGspLibosKindContiguous,
    nvGspLibosLocSysmem⟩

theorem arg_read (m : Mem) (e : Nat) (region : NvGspLibosRegion) :
    readArg (storeAt m e (argFields region)) e = asArg region := by
  have spaced : Spaced ((argFields region).map extent) :=
    show Spaced [(0, 8), (8, 8), (16, 8), (24, 1), (25, 1)] by decide
  rw [readArg, quad_at spaced 0 rfl, quad_at spaced 1 rfl, quad_at spaced 2 rfl,
    byte_at spaced 3 rfl, byte_at spaced 4 rfl]
  rfl

/-! The page array of a log buffer, behind its put pointer. -/

def nvGspPteArrayFill (m : Mem) (buf : Nat) (buflen offset dmaBase regionSize : UInt64) :
    Int × Mem :=
  if regionSize = 0 then (nvGspErrArg, m)
  else
    let pages := (regionSize + nvGspPageSize - 1) / nvGspPageSize
    if offset + pages * 8 > buflen then (nvGspErrBounds, m)
    else (nvGspOk, fillLevel m (buf + offset.toNat) dmaBase pages.toNat)

/-! The arguments of GSP-RM. -/

def nvGspRmargsSize : UInt64 := 80

def rmargsFields (shmDma : UInt64) (lay : NvGspShmLayout) : List Store :=
  [.quad 0 shmDma, .word 8 lay.ptesNr, .quad 16 lay.cmdqOff, .quad 24 lay.msgqOff]

def nvGspRmargsBuild (m : Mem) (buf : Nat) (buflen shmDma : UInt64) (lay : NvGspShmLayout) :
    Except Int Mem :=
  if buflen < nvGspRmargsSize then .error nvGspErrBounds
  else .ok (storeAt (clear m buf nvGspRmargsSize.toNat) buf (rmargsFields shmDma lay))

/-- Address, page count and the offsets of the two queues. -/
structure Rmargs where
  shared : UInt64
  pages : UInt32
  cmdq : UInt64
  statq : UInt64

def readRmargs (m : Mem) (a : Nat) : Rmargs :=
  ⟨ld64 m (a + 0), ld32 m (a + 8), ld64 m (a + 16), ld64 m (a + 24)⟩

theorem rmargs_read (m : Mem) (a : Nat) (shmDma : UInt64) (lay : NvGspShmLayout) :
    readRmargs (storeAt m a (rmargsFields shmDma lay)) a =
      ⟨shmDma, lay.ptesNr, lay.cmdqOff, lay.msgqOff⟩ := by
  have spaced : Spaced ((rmargsFields shmDma lay).map extent) :=
    show Spaced [(0, 8), (8, 4), (16, 8), (24, 8)] by decide
  rw [readRmargs, quad_at spaced 0 rfl, word_at spaced 1 rfl, quad_at spaced 2 rfl,
    quad_at spaced 3 rfl]

end GspDriver.BootArguments
