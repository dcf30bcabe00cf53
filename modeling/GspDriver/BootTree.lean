import GspDriver.BootArguments
import GspDriver.QueueStart
import GspDriver.Elf64

/-!
What the bring-up leaves in the DMA arena before it starts the GSP: images,
page tables, the meta structure, the arguments of libos and of GSP-RM, and the
shared region. The Booter is given the address of the meta structure and the
GSP that of the libos arguments; everything else they reach by addresses that
they read. `va` is where the driver writes, `io` the address on the bus.
-/

namespace GspDriver.BootTree

open Bytes LittleEndian GspRpc GspFbLayout Radix3 Patches StoreFields BootArguments QueueStart
open MemoryList (Store)
open Elf64 (NvGspSections nvGspRmSections)

/-- The allocations of the bring-up. Only the processor uses `vbios`, for its copy
of the shadowed VBIOS. -/
inductive Part where
  | fwsec | booter | fwimg | lvl2 | lvl1 | lvl0 | bl | sig | wprMeta | libos | loginit | logintr
  | logrm | rmargs | shm | vbios
  deriving DecidableEq

def parts : List Part :=
  [.fwsec, .booter, .fwimg, .lvl2, .lvl1, .lvl0, .bl, .sig, .wprMeta, .libos, .loginit, .logintr,
    .logrm, .rmargs, .shm, .vbios]

def fwMaxSize : Nat := 64 * 1024 * 1024

/-- A file that `nv_fw_blob_get` read: none is larger than `FW_MAX_SIZE`. -/
structure FwBlob where
  blob : Blob
  small : blob.len ≤ fwMaxSize

/-- The text `.fwsignature_ad10x`. -/
def fwsignatureName : List UInt8 :=
  [0x2e, 0x66, 0x77, 0x73, 0x69, 0x67, 0x6e, 0x61, 0x74, 0x75, 0x72, 0x65, 0x5f, 0x61, 0x64,
    0x31, 0x30, 0x78]

/-- The two files and what their parsers found; `unset` is `sec` before. -/
structure Firmware where
  gsp : FwBlob
  blb : FwBlob
  unset : NvGspSections
  sec : NvGspSections
  bl : NvGspBootloader
  sections : nvGspRmSections gsp.blob fwsignatureName unset = some (Elf64.nvGspOk, sec)
  parsed : nvGspBootloaderParse blb.blob = .ok bl

namespace Firmware

variable (fw : Firmware)

def fwimage (o : Nat) : UInt8 := fw.gsp.blob.bytes (fw.sec.fwimageOff.toNat + o)
def sig (o : Nat) : UInt8 := fw.gsp.blob.bytes (fw.sec.sigOff.toNat + o)
def boot (o : Nat) : UInt8 := fw.blb.blob.bytes (fw.bl.dataAbs.toNat + o)

/-- The copies stay within the files. -/
def CopiesInside : Prop :=
  fw.sec.fwimageOff.toNat + fw.sec.fwimageSize.toNat ≤ fw.gsp.blob.len ∧
    fw.sec.sigOff.toNat + fw.sec.sigSize.toNat ≤ fw.gsp.blob.len ∧
    fw.bl.dataAbs.toNat + fw.bl.dataSize.toNat ≤ fw.blb.blob.len

theorem copies_inside : fw.CopiesInside := by
  obtain ⟨rc, found, returned, sections⟩ :=
    Elf64.sections_spec fw.gsp.blob (show 0 ∉ fwsignatureName by decide) fw.unset
  rw [fw.sections] at returned
  cases returned
  obtain ⟨⟨_, _, _, _, image⟩, _, _, _, _, signature⟩ := sections rfl
  exact ⟨image, signature, bootloader_inside fw.parsed⟩

theorem sizes_small : fw.sec.fwimageSize.toNat ≤ fwMaxSize ∧ fw.sec.sigSize.toNat ≤ fwMaxSize ∧
    fw.bl.dataSize.toNat ≤ fwMaxSize := by
  obtain ⟨image, signature, boot⟩ := fw.copies_inside
  have gspSmall := fw.gsp.small
  have blbSmall := fw.blb.small
  omega

end Firmware

/-- Video memory and FRTS, and what the platform read of the card's config space. -/
structure Card where
  vram : UInt64
  frtsAddr : UInt64
  frtsSize : UInt64
  pci : Option NvGspPciInfo

def nvGspLibosLogSize : UInt64 := 0x10000
def nvVbiosScanMax : UInt64 := 0x100000

def partSize (fw : Firmware) (l2p : UInt32) : Part → UInt64
  | .fwsec | .booter => 0x100000
  | .fwimg => fw.sec.fwimageSize
  | .lvl2 => l2p.toUInt64 * 0x1000
  | .bl => fw.bl.dataSize.toUInt64
  | .sig => fw.sec.sigSize
  | .loginit | .logintr | .logrm => nvGspLibosLogSize
  | .shm => nvGspShmCompute.totalSize
  | .vbios => nvVbiosScanMax
  | .lvl1 | .lvl0 | .wprMeta | .libos | .rmargs => 0x1000

/-- The requests in order; the first that fails ends the bring-up. -/
def allocate (size : Part → UInt64) :
    List Part → NvDmaArena → (Part → Area) → Option (Part → Area)
  | [], _, place => some place
  | part :: rest, ar, place => do
      let (area, ar) ← nvDmaAlloc ar (size part)
      allocate size rest ar (Function.update place part area)

section Stage

variable (fw : Firmware) (card : Card) (stack : Stack) (place : Part → Area)

def va (part : Part) : Nat := (place part).va.toNat

/-- The functions of gsp_rpc.c take the start of the region. -/
def onBuffer (m : Mem) (base : Nat) (buf : Mem) : Mem := fun x =>
  if base ≤ x then buf (x - base) else m x

def metaSrc : NvGspWprMetaSrc where
  radix3Lvl0Dma := (place .lvl0).io
  radix3ElfSize := fw.sec.fwimageSize
  bootloaderDma := (place .bl).io
  bootloaderSize := fw.bl.dataSize.toUInt64
  bootCodeOffset := fw.bl.codeOffset
  bootDataOffset := fw.bl.dataOffset
  bootManifestOffset := fw.bl.manifestOffset
  signatureDma := (place .sig).io
  signatureSize := fw.sec.sigSize
  vgaWorkspaceAddr := card.frtsAddr + card.frtsSize
  vgaWorkspaceSize := 0

/-- `LOGINIT`, `LOGINTR`, `LOGRM` and `RMARGS` -/
def regs : List NvGspLibosRegion :=
  [⟨[0x4c, 0x4f, 0x47, 0x49, 0x4e, 0x49, 0x54], (place .loginit).io, nvGspLibosLogSize⟩,
    ⟨[0x4c, 0x4f, 0x47, 0x49, 0x4e, 0x54, 0x52], (place .logintr).io, nvGspLibosLogSize⟩,
    ⟨[0x4c, 0x4f, 0x47, 0x52, 0x4d], (place .logrm).io, nvGspLibosLogSize⟩,
    ⟨[0x52, 0x4d, 0x41, 0x52, 0x47, 0x53], (place .rmargs).io, 0x1000⟩]

def layout : Int × Option NvGspFbLayout :=
  nvGspFbLayout card.vram card.frtsAddr card.frtsSize fw.bl.dataSize.toUInt64 fw.sec.fwimageSize

def copyImages (m : Mem) : Mem :=
  let m := blit m (va place .fwimg) fw.sec.fwimageSize.toNat fw.fwimage
  let m := blit m (va place .sig) fw.sec.sigSize.toNat fw.sig
  blit m (va place .bl) fw.bl.dataSize.toNat fw.boot

/-- `memset` of the three logs and of the arguments. -/
def clearLogs (m : Mem) : Mem :=
  let m := clear m (va place .loginit) nvGspLibosLogSize.toNat
  let m := clear m (va place .logintr) nvGspLibosLogSize.toNat
  let m := clear m (va place .logrm) nvGspLibosLogSize.toNat
  clear m (va place .rmargs) 0x1000

def fillLog (m : Mem) (part : Part) : Mem :=
  (nvGspPteArrayFill m (va place part) nvGspLibosLogSize 8 (place part).io nvGspLibosLogSize).2

/-- Every failure returns -1. -/
def orFail {α : Type} : Except Int α → Except Int α
  | .ok value => .ok value
  | .error _ => .error (-1)

theorem orFail_ok {α : Type} (value : α) : orFail (.ok value) = .ok value := rfl

def clearRadix3 (l2p : UInt32) (m : Mem) : Mem :=
  let m := clear m (va place .lvl0) 0x1000
  let m := clear m (va place .lvl1) 0x1000
  clear m (va place .lvl2) (l2p.toNat * 0x1000)

def stage (l2p : UInt32) (m : Mem) : Except Int Mem := do
  let m := copyImages fw place m
  let m := clearRadix3 place l2p m
  let m ← orFail (nvGspRadix3Fill m fw.sec.fwimageSize (va place .lvl0) (va place .lvl1)
    (va place .lvl2) (place .fwimg).io (place .lvl2).io (place .lvl1).io)
  let lay ← match layout fw card with
    | (0, some lay) => .ok lay
    | _ => .error (-1)
  let m := clear m (va place .wprMeta) 0x1000
  let m ← orFail (nvGspWprMetaBuild m (va place .wprMeta) 0x1000 lay (metaSrc fw card place))
  let m := clear m (va place .libos) 0x1000
  let (_, m) ← orFail (nvGspLibosBuildArgs m (va place .libos) 0x1000 (regs place))
  let m := clearLogs place m
  let m := fillLog place m .loginit
  let m := fillLog place m .logintr
  let m := fillLog place m .logrm
  let (shmLay, shm) ← orFail (nvGspShmInit (Patch.slice m (va place .shm))
    nvGspShmCompute.totalSize (place .shm).io)
  let m := onBuffer m (va place .shm) shm
  let m ← orFail (nvGspRmargsBuild m (va place .rmargs) 0x1000 (place .shm).io shmLay)
  let shm := preboot (Patch.slice m (va place .shm)) shmLay card.pci stack
  return onBuffer m (va place .shm) shm

end Stage

/-- The places of the parts and the arena's memory before GSP is started; `m` is the
memory as the run of FWSEC leaves it, which comes between the two. -/
def stageBoot (fw : Firmware) (card : Card) (stack : Stack) (ar : NvDmaArena)
    (place : Part → Area) (m : Mem) : Except Int ((Part → Area) × Mem) := do
  let levels ← orFail (nvGspRadix3Levels fw.sec.fwimageSize)
  let place ← Checked.orFail (allocate (partSize fw levels.2) parts ar place) (-1)
  let m ← stage fw card stack place levels.2 m
  return (place, m)

/-- The memory at bus addresses. -/
def busMem (ar : NvDmaArena) (m : Mem) : Mem := fun d => m (ar.va.toNat + (d - ar.dmaAddr.toNat))

/-! The allocations. -/

theorem dma_alloc_place {ar after : NvDmaArena} {sz : UInt64} {area : Area} (arena : InArena ar)
    (small : sz.toNat ≤ fwMaxSize) (allocated : nvDmaAlloc ar sz = some (area, after)) :
    Allocated ar sz.toNat area after :=
  dma_alloc_spec arena (Nat.le_trans small (by decide)) allocated

theorem allocate_other {size : Part → UInt64} {rest : List Part} {ar : NvDmaArena}
    {place found : Part → Area} (allocated : allocate size rest ar place = some found)
    {part : Part} (other : part ∉ rest) : found part = place part := by
  induction rest generalizing ar place with
  | nil =>
      cases allocated
      rfl
  | cons head rest ih =>
      rw [allocate, Option.bind_eq_bind, Option.bind_eq_some_iff] at allocated
      obtain ⟨⟨area, after⟩, _, later⟩ := allocated
      rw [List.mem_cons, not_or] at other
      rw [ih later other.2, Function.update_of_ne other.1]

/-- Each part has its own stretch of the arena, behind those before it. -/
structure Offsets (ar : NvDmaArena) (size : Part → UInt64) (ps : List Part)
    (place : Part → Area) (off : Part → Nat) : Prop where
  starts : ∀ part ∈ ps, StartsAt ar (place part) (off part)
  above : ∀ part ∈ ps, ar.off.toNat ≤ off part
  room : ∀ part ∈ ps, off part + (size part).toNat ≤ ar.cap.toNat
  behind : ps.Pairwise fun p q => off p + (size p).toNat ≤ off q

theorem allocate_offsets {size : Part → UInt64} (small : ∀ part, (size part).toNat ≤ fwMaxSize)
    {ps : List Part} (distinct : ps.Nodup) {ar : NvDmaArena} (arena : InArena ar)
    {place found : Part → Area} (allocated : allocate size ps ar place = some found) :
    ∃ off, Offsets ar size ps found off := by
  induction ps generalizing ar place with
  | nil => exact ⟨fun _ => 0, ⟨by simp, by simp, by simp, .nil⟩⟩
  | cons head rest ih =>
      rw [allocate, Option.bind_eq_bind, Option.bind_eq_some_iff] at allocated
      obtain ⟨⟨area, after⟩, first, later⟩ := allocated
      obtain ⟨fresh, others⟩ := List.nodup_cons.mp distinct
      obtain ⟨vaAt, ioAt, room, ⟨sameVa, sameIo, sameCap⟩, inside⟩ :=
        dma_alloc_place arena (small head) first
      obtain ⟨off, starts, above, fits, behind⟩ := ih others inside later
      have here : found head = area := by
        rw [allocate_other later fresh, Function.update_self]
      have top := inside.taken
      rw [sameCap] at fits top
      refine ⟨fun part => if part = head then ar.off.toNat else off part, ?_, ?_, ?_, ?_⟩
      · intro part member
        by_cases first : part = head
        · subst part
          rw [if_pos rfl, here]
          exact ⟨vaAt, ioAt⟩
        · rw [if_neg first]
          have start := starts part (List.mem_of_ne_of_mem first member)
          rwa [StartsAt, sameVa, sameIo] at start
      · intro part member
        by_cases first : part = head
        · rw [if_pos first]
        · rw [if_neg first]
          have start := above part (List.mem_of_ne_of_mem first member)
          omega
      · intro part member
        by_cases first : part = head
        · rw [if_pos first, first]
          omega
        · rw [if_neg first]
          exact fits part (List.mem_of_ne_of_mem first member)
      · have apart : ∀ part ∈ rest, part ≠ head := by
          rintro part member rfl
          exact fresh member
        refine List.pairwise_cons.mpr ⟨?_, ?_⟩
        · intro part member
          have start := above part member
          rw [if_pos rfl, if_neg (apart part member)]
          omega
        · refine behind.imp_of_mem ?_
          intro p q first second order
          rwa [if_neg (apart p first), if_neg (apart q second)]

/-! The stores as patches of their parts. -/

section Patched

variable (fw : Firmware) (card : Card) (stack : Stack) (place : Part → Area) (n2 l2p : UInt32)
  (lay : NvGspFbLayout)

def radix3Patch : Patch :=
  (tablePatch (va place .lvl2) (place .fwimg).io n2.toNat).andThen
    ((tablePatch (va place .lvl1) (place .lvl2).io l2p.toNat).andThen
      (Patch.store (va place .lvl0) 8 (place .lvl1).io.toNat))

def metaPatch : Patch :=
  (Patch.clear (va place .wprMeta) nvGspWprMetaSize.toNat).andThen
    (fieldsPatch (va place .wprMeta) (quads (metaWords lay (metaSrc fw card place))))

def argPatches : List (List Nat × Patch) :=
  ([0, 1, 2, 3], Patch.clear (va place .libos) 128) ::
    (regs place).zipIdx.map fun (region, i) =>
      ([i], fieldsPatch (va place .libos + i * 32) (argFields region))

def logPatch (part : Part) : Patch := tablePatch (va place part + 8) (place part).io 16

def shmPatch (dma : UInt64) : Patch :=
  Patch.all [Patch.clear 0 0x81000, tablePatch 0 dma 129,
    fieldsPatch 0x1000 (queueHdr nvGspShmCompute.msgCount),
    fieldsPatch 0x41000 (queueHdr nvGspShmCompute.msgCount)]

def rmargsPatch : Patch :=
  (Patch.clear (va place .rmargs) nvGspRmargsSize.toNat).andThen
    (fieldsPatch (va place .rmargs) (rmargsFields (place .shm).io nvGspShmCompute))

def stagePatches : List (List Part × Patch) :=
  [([.fwimg], Patch.blit (va place .fwimg) fw.sec.fwimageSize.toNat fw.fwimage),
    ([.sig], Patch.blit (va place .sig) fw.sec.sigSize.toNat fw.sig),
    ([.bl], Patch.blit (va place .bl) fw.bl.dataSize.toNat fw.boot),
    ([.lvl0], Patch.clear (va place .lvl0) 0x1000),
    ([.lvl1], Patch.clear (va place .lvl1) 0x1000),
    ([.lvl2], Patch.clear (va place .lvl2) (l2p.toNat * 0x1000)),
    ([.lvl2, .lvl1, .lvl0], radix3Patch place n2 l2p),
    ([.wprMeta], Patch.clear (va place .wprMeta) 0x1000),
    ([.wprMeta], metaPatch fw card place lay),
    ([.libos], Patch.clear (va place .libos) 0x1000),
    ([.libos], Patch.sequence (argPatches place)),
    ([.loginit], Patch.clear (va place .loginit) nvGspLibosLogSize.toNat),
    ([.logintr], Patch.clear (va place .logintr) nvGspLibosLogSize.toNat),
    ([.logrm], Patch.clear (va place .logrm) nvGspLibosLogSize.toNat),
    ([.rmargs], Patch.clear (va place .rmargs) 0x1000),
    ([.loginit], logPatch place .loginit),
    ([.logintr], logPatch place .logintr),
    ([.logrm], logPatch place .logrm),
    ([.shm], Patch.shift (va place .shm) (shmPatch (place .shm).io)),
    ([.rmargs], rmargsPatch place)]

def stageOrder : List (List Part) :=
  [[.fwimg], [.sig], [.bl], [.lvl0], [.lvl1], [.lvl2], [.lvl2, .lvl1, .lvl0], [.wprMeta],
    [.wprMeta], [.libos], [.libos], [.loginit], [.logintr], [.logrm], [.rmargs], [.loginit],
    [.logintr], [.logrm], [.shm], [.rmargs]]

/-- Before the commands are queued. -/
def built (m : Mem) : Mem := (Patch.sequence (stagePatches fw card place n2 l2p lay)).write m

def queued (m : Mem) : Mem :=
  onBuffer m (va place .shm)
    (preboot (Patch.slice m (va place .shm)) nvGspShmCompute card.pci stack)

theorem radix3_built (m : Mem) (levels : nvGspRadix3Levels fw.sec.fwimageSize = .ok (n2, l2p)) :
    nvGspRadix3Fill m fw.sec.fwimageSize (va place .lvl0) (va place .lvl1) (va place .lvl2)
      (place .fwimg).io (place .lvl2).io (place .lvl1).io =
        .ok ((radix3Patch place n2 l2p).write m) := by
  rw [nvGspRadix3Fill, levels]
  change Except.ok (st64 (fillLevel (fillLevel m _ _ _) _ _ _) _ _) = _
  rw [table_patch, table_patch, st64_eq_store]
  rfl

theorem meta_built (m : Mem) :
    nvGspWprMetaBuild m (va place .wprMeta) 0x1000 lay (metaSrc fw card place) =
      .ok ((metaPatch fw card place lay).write m) := by
  rw [nvGspWprMetaBuild, if_neg (by decide)]
  simp only [storeAt_patch]
  rfl

theorem libos_built (m : Mem) : nvGspLibosBuildArgs m (va place .libos) 0x1000 (regs place) =
    .ok (128, (Patch.sequence (argPatches place)).write m) := by
  have size : UInt64.ofNat (regs place).length * nvGspLibosArgSize = 128 := rfl
  simp only [nvGspLibosBuildArgs, size, storeAt_patch]
  rw [if_neg (by decide), Patch.sequence, Patch.all_fold, List.foldl_map]
  rfl

theorem log_filled (m : Mem) (part : Part) :
    fillLog place m part = (logPatch place part).write m :=
  table_patch m (va place part + 8) (place part).io 16

theorem shm_built (m : Mem) (dma : UInt64) :
    shmInit m dma nvGspShmCompute = (shmPatch dma).write m := by
  have unfolded : shmInit m dma nvGspShmCompute = initQueueHdr (initQueueHdr (fillLevel
      (clear m 0 0x81000) 0 dma 129) 0x1000 nvGspShmCompute.msgCount) 0x41000
      nvGspShmCompute.msgCount := rfl
  rw [unfolded, table_patch, initQueueHdr, initQueueHdr, storeAt_patch, storeAt_patch, shmPatch,
    Patch.all_fold]
  simp only [List.foldl_cons, List.foldl_nil, Patch.clear_write]

theorem rmargs_built (m : Mem) :
    nvGspRmargsBuild m (va place .rmargs) 0x1000 (place .shm).io nvGspShmCompute =
      .ok ((rmargsPatch place).write m) := by
  rw [nvGspRmargsBuild, if_neg (by decide), storeAt_patch]
  rfl

theorem shift_write (m : Mem) (base : Nat) (p : Patch) :
    (Patch.shift base p).write m = onBuffer m base (p.write (Patch.slice m base)) := rfl

theorem stage_eq (m : Mem) (levels : nvGspRadix3Levels fw.sec.fwimageSize = .ok (n2, l2p))
    (laid : layout fw card = (0, some lay)) :
    stage fw card stack place l2p m =
      .ok (queued card stack place (built fw card place n2 l2p lay m)) := by
  have init : ∀ m, nvGspShmInit m nvGspShmCompute.totalSize (place .shm).io =
      .ok (nvGspShmCompute, (shmPatch (place .shm).io).write m) := by
    intro m
    rw [← shm_built]
    rfl
  simp only [stage, radix3_built fw place n2 l2p _ levels, laid, meta_built, libos_built,
    log_filled, init, orFail, Checked.ok_bind, rmargs_built]
  simp only [built, Patch.sequence, Patch.all_fold, stagePatches, List.map_cons, List.map_nil,
    List.foldl_cons, List.foldl_nil, Patch.clear_write, Patch.blit_write, shift_write, queued,
    copyImages, clearRadix3, clearLogs, pure, Except.pure]

end Patched

end GspDriver.BootTree
