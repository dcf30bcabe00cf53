import GspDriver.StoreFields
import GspDriver.Elf64
import GspDriver.CmdqElement
import GspDriver.CmdqFlow
import GspDriver.RmCalls

/-!
The shared region before GSP starts: `nv_gsp_shm_init` of gsp_rpc.c and the two
commands that the bring-up leaves in the command queue. Addresses are from the
start of the region. The buffers of the two payloads lie on the stack and hold
anything at first.
-/

namespace GspDriver.QueueStart

open Bytes LittleEndian Loop RingQueue GspRpc GspRm Radix3 StoreFields
open CmdqElement CmdqFrame CmdqFlow
open MemoryList (Store)
open MsgQueue (Pending)
open RmCalls (bytesAt)

def nvGspRpcErrBounds : Int := -2

def queueHdr (msgCount : UInt32) : List Store :=
  [.word 0 0, .word 4 nvGspQueueSize, .word 8 nvGspQueueMsgsize, .word 12 msgCount,
    .word nvMsgqTxWriteptrOff 0, .word 20 1, .word 24 32, .word 28 nvGspQueueEntryoff,
    .word nvGspMsgqRxhdroff 0]

def initQueueHdr (m : Mem) (q : Nat) (msgCount : UInt32) : Mem := storeAt m q (queueHdr msgCount)

def shmInit (m : Mem) (dmaBase : UInt64) (lay : NvGspShmLayout) : Mem :=
  let m := clear m 0 lay.totalSize.toNat
  let m := fillLevel m 0 dmaBase lay.ptesNr.toNat
  let m := initQueueHdr m lay.cmdqOff.toNat lay.msgCount
  initQueueHdr m lay.msgqOff.toNat lay.msgCount

def nvGspShmInit (m : Mem) (buflen : UInt64) (dmaBase : UInt64) :
    Except Int (NvGspShmLayout × Mem) :=
  let lay := nvGspShmCompute
  if lay.totalSize > buflen then .error nvGspRpcErrBounds
  else .ok (lay, shmInit m dmaBase lay)

/-! The payloads of the two commands. -/

/-- `nv_gsp_pci_info_t` -/
structure NvGspPciInfo where
  bar0 : UInt64
  bar1 : UInt64
  bar3 : UInt64
  devid : UInt64

def nvGspSysinfoSize : UInt32 := 664

def sysinfoFields (pci : NvGspPciInfo) : List Store :=
  [.quad 0 pci.bar0, .quad 8 pci.bar1, .quad 16 pci.bar3, .quad 24 pci.devid,
    .quad 56 0x00007ffffffff000, .word 64 0x088000, .word 68 0x001000]

def nvGspBuildSysinfo (buf : Mem) (pci : NvGspPciInfo) : Mem :=
  storeAt (clear buf 0 nvGspSysinfoSize.toNat) 0 (sysinfoFields pci)

/-- `RMSecBusResetEnable` and `RMForcePcieConfigSave` -/
def registryNames : List (List UInt8) :=
  [[0x52, 0x4d, 0x53, 0x65, 0x63, 0x42, 0x75, 0x73, 0x52, 0x65, 0x73, 0x65, 0x74, 0x45, 0x6e,
    0x61, 0x62, 0x6c, 0x65],
   [0x52, 0x4d, 0x46, 0x6f, 0x72, 0x63, 0x65, 0x50, 0x63, 0x69, 0x65, 0x43, 0x6f, 0x6e, 0x66,
    0x69, 0x67, 0x53, 0x61, 0x76, 0x65]]

def cstrcpy (m : Mem) (d : Nat) (s : List UInt8) : Mem × UInt32 :=
  (put (putBytes m d s.length fun i => s.getD i 0) (d + s.length) 0, UInt32.ofNat (s.length + 1))

/-- The next entry and its name: its number, the offset behind the names, the buffer. -/
def registryTurn (s : Nat × UInt32 × Mem) (name : List UInt8) : Nat × UInt32 × Mem :=
  let (i, so, m) := s
  let m := storeAt m (8 + i * 16) [.word 0 so, .byte 4 1, .word 8 1, .word 12 4]
  let (m, len) := cstrcpy m so.toNat name
  (i + 1, so + len, m)

/-- Length of the payload and the buffer. -/
def nvGspBuildRegistry (buf : Mem) (buflen : UInt32) : UInt32 × Mem :=
  let num : UInt32 := 2
  let hdr : UInt32 := 8
  let strOff := hdr + num * 16
  if buflen < strOff + 64 then (0, buf)
  else
    let m := clear buf 0 strOff.toNat
    let m := storeAt m 0 [.word 0 hdr, .word 4 num]
    let (_, so, m) := registryNames.foldl registryTurn (0, strOff, m)
    (so, m)

/-! The two commands. -/

def nvVgpuMsgFunctionGspSetSystemInfo : UInt32 := 72
def nvVgpuMsgFunctionSetRegistry : UInt32 := 73

/-- What the stack holds where the payloads are built. -/
structure Stack where
  sysinfo : Mem
  reg : Mem

def orZeros (pci : Option NvGspPciInfo) : NvGspPciInfo := pci.getD ⟨0, 0, 0, 0x100⟩

def preboot (m : Mem) (lay : NvGspShmLayout) (pci : Option NvGspPciInfo) (stack : Stack) : Mem :=
  let cmdq := lay.cmdqOff.toNat
  let sysinfo := nvGspBuildSysinfo stack.sysinfo (orZeros pci)
  let (reglen, reg) := nvGspBuildRegistry stack.reg 256
  let (s0, m) := nvGspCmdqWrite m cmdq 0 0 nvVgpuMsgFunctionGspSetSystemInfo (some sysinfo)
    nvGspSysinfoSize
  let (s1, m) := nvGspCmdqWrite m cmdq s0 1 nvVgpuMsgFunctionSetRegistry (some reg) reglen
  nvGspCmdqSetWriteptr m lay (s0 + s1)

/-! What GSP reads. -/

structure QueueHeader where
  version : UInt32
  size : UInt32
  msgSize : UInt32
  msgCount : UInt32
  writePtr : UInt32
  flags : UInt32
  rxHdrOff : UInt32
  entryOff : UInt32
  readPtr : UInt32
  deriving DecidableEq

def readHeader (m : Mem) (q : Nat) : QueueHeader where
  version := ld32 m (q + 0)
  size := ld32 m (q + 4)
  msgSize := ld32 m (q + 8)
  msgCount := ld32 m (q + 12)
  writePtr := ld32 m (q + nvMsgqTxWriteptrOff)
  flags := ld32 m (q + 20)
  rxHdrOff := ld32 m (q + 24)
  entryOff := ld32 m (q + 28)
  readPtr := ld32 m (q + nvGspMsgqRxhdroff)

/-- A header with the driver's geometry. -/
def freshHeader (writePtr : UInt32) : QueueHeader :=
  ⟨0, 0x40000, 0x1000, 63, writePtr, 1, 32, 0x1000, 0⟩

/-- The fields of GspSystemInfo that are not zero. -/
def readSysinfo (p : Mem) : NvGspPciInfo × UInt64 × UInt32 × UInt32 :=
  (⟨ld64 p 0, ld64 p 8, ld64 p 16, ld64 p 24⟩, ld64 p 56, ld32 p 64, ld32 p 68)

/-- What the driver tells: the card, TASK_SIZE of a user and the mirror of the config space. -/
def told (pci : NvGspPciInfo) : NvGspPciInfo × UInt64 × UInt32 × UInt32 :=
  (pci, 0x00007ffffffff000, 0x088000, 0x001000)

/-- Name, type, data and length of an entry of a packed registry table. -/
structure RegistryEntry where
  name : Option (List UInt8)
  type : UInt8
  data : UInt32
  length : UInt32
  deriving DecidableEq

def readEntry (p : Mem) (room i : Nat) : RegistryEntry :=
  let e := 8 + 16 * i
  let name := (ld32 p e).toNat
  ⟨Elf64.cString p name (room - name), p (e + 4), ld32 p (e + 8), ld32 p (e + 12)⟩

def readRegistry (p : Mem) (room : Nat) : List RegistryEntry :=
  (List.range (ld32 p 4).toNat).map (readEntry p room)

/-- Both settings are on. -/
def settings : List RegistryEntry := registryNames.map fun name => ⟨some name, 1, 1, 4⟩

/-! The registry does not depend on what the stack held. -/

open Patches

def namePatch (d : Nat) (s : List UInt8) : Patch :=
  (Patch.blit d s.length fun i => s.getD i 0).andThen (Patch.store (d + s.length) 1 0)

theorem cstrcpy_patch (m : Mem) (d : Nat) (s : List UInt8) :
    cstrcpy m d s = ((namePatch d s).write m, UInt32.ofNat (s.length + 1)) := by
  have copied : (putBytes m d s.length fun i => s.getD i 0) =
      blit m d s.length fun i => s.getD i 0 := by
    funext x
    rw [putBytes_apply, blit]
  have ended : ∀ m : Mem, put m (d + s.length) 0 = store m (d + s.length) 1 0 :=
    fun m => put_eq_store m _ 0
  rw [cstrcpy, copied, ended]
  rfl

def entryPatch (i so : Nat) (name : List UInt8) : Patch :=
  (fieldsPatch (8 + i * 16)
    [.word 0 (UInt32.ofNat so), .byte 4 1, .word 8 1, .word 12 4]).andThen (namePatch so name)

def registryPatch : Patch :=
  Patch.all ([Patch.clear 0 40, fieldsPatch 0 [.word 0 8, .word 4 2]] ++
    [entryPatch 0 40 (registryNames.getD 0 []), entryPatch 1 60 (registryNames.getD 1 [])])

theorem registry_patch (buf : Mem) :
    nvGspBuildRegistry buf 256 = (82, registryPatch.write buf) := by
  have turn : ∀ (i : Nat) (so : UInt32) (m : Mem) (name : List UInt8),
      registryTurn (i, so, m) name =
        (i + 1, so + UInt32.ofNat (name.length + 1), (entryPatch i so.toNat name).write m) := by
    intro i so m name
    simp only [registryTurn, cstrcpy_patch, storeAt_patch, entryPatch, UInt32.ofNat_toNat]
    rfl
  simp only [nvGspBuildRegistry, registryNames, List.foldl_cons, List.foldl_nil, turn,
    storeAt_patch]
  rfl

/-- The header is cleared, the names and their ends fill the rest. -/
theorem registry_covers {x : Nat} (inside : x < 82) : registryPatch.covers x := by
  have named : ∀ {d : Nat} {s : List UInt8}, d ≤ x → x < d + s.length + 1 →
      (namePatch d s).covers x := by
    intro d s from_ below
    by_cases last : x = d + s.length
    · exact Or.inr ⟨last.ge, by omega⟩
    · exact Or.inl ⟨from_, by omega⟩
  by_cases header : x < 40
  · exact Or.inl ⟨Nat.zero_le x, by omega⟩
  · by_cases first : x < 60
    · exact Or.inr (Or.inr (Or.inl (Or.inr (named (by omega) first))))
    · exact Or.inr (Or.inr (Or.inr (Or.inl (Or.inr (named (by omega) inside)))))

theorem registry_fixed (buf : Mem) {x : Nat} (inside : x < 82) :
    (nvGspBuildRegistry buf 256).2 x = registryPatch.write (fun _ => 0) x := by
  rw [registry_patch]
  exact registryPatch.fixed _ _ x (registry_covers inside)

def bootRegistry : List UInt8 := (List.range 82).map (registryPatch.write fun _ => 0)

theorem registry_read : readRegistry (bytesAt bootRegistry) bootRegistry.length = settings := by
  rfl

theorem registry_payload (buf : Mem) :
    payloadBytes (some (nvGspBuildRegistry buf 256).2) 82 = bootRegistry :=
  List.map_congr_left fun _ member => registry_fixed buf (List.mem_range.mp member)

/-! The system info. -/

theorem sysinfo_spaced (pci : NvGspPciInfo) : Spaced ((sysinfoFields pci).map extent) :=
  show Spaced [(0, 8), (8, 8), (16, 8), (24, 8), (56, 8), (64, 4), (68, 4)] by decide

theorem sysinfo_read (buf : Mem) (pci : NvGspPciInfo) :
    readSysinfo (nvGspBuildSysinfo buf pci) = told pci := by
  have spaced := sysinfo_spaced pci
  have read : ∀ m : Mem, readSysinfo m = (⟨ld64 m (0 + 0), ld64 m (0 + 8), ld64 m (0 + 16),
      ld64 m (0 + 24)⟩, ld64 m (0 + 56), ld32 m (0 + 64), ld32 m (0 + 68)) := fun _ => rfl
  rw [read, nvGspBuildSysinfo, quad_at spaced 0 rfl, quad_at spaced 1 rfl, quad_at spaced 2 rfl,
    quad_at spaced 3 rfl, quad_at spaced 4 rfl, word_at spaced 5 rfl, word_at spaced 6 rfl]
  rfl

/-- The fields that the driver leaves out are zero. -/
theorem sysinfo_zero (buf : Mem) (pci : NvGspPciInfo) {x : Nat} (below : x < 664)
    (unset : 32 ≤ x ∧ x < 56 ∨ 72 ≤ x) : nvGspBuildSysinfo buf pci x = 0 := by
  rw [nvGspBuildSysinfo, field_miss]
  · exact clear_inside _ _ _ _ ⟨Nat.zero_le x, below⟩
  · intro s member
    have listed : extent s ∈ [(0, 8), (8, 8), (16, 8), (24, 8), (56, 8), (64, 4), (68, 4)] :=
      List.mem_map_of_mem member
    simp only [extent, List.mem_cons, Prod.mk.injEq, List.not_mem_nil, or_false] at listed
    omega

def sysinfoPatch (pci : NvGspPciInfo) : Patch :=
  (Patch.clear 0 nvGspSysinfoSize.toNat).andThen (fieldsPatch 0 (sysinfoFields pci))

theorem sysinfo_patch (buf : Mem) (pci : NvGspPciInfo) :
    nvGspBuildSysinfo buf pci = (sysinfoPatch pci).write buf :=
  storeAt_patch _ _ _

def bootSysinfo (pci : NvGspPciInfo) : List UInt8 :=
  (List.range nvGspSysinfoSize.toNat).map (nvGspBuildSysinfo (fun _ => 0) pci)

theorem sysinfo_payload (buf : Mem) (pci : NvGspPciInfo) :
    payloadBytes (some (nvGspBuildSysinfo buf pci)) nvGspSysinfoSize = bootSysinfo pci := by
  have fixed : ∀ x < nvGspSysinfoSize.toNat,
      nvGspBuildSysinfo buf pci x = nvGspBuildSysinfo (fun _ => 0) pci x := by
    intro x below
    rw [sysinfo_patch, sysinfo_patch]
    exact (sysinfoPatch pci).fixed _ _ x (Or.inl ⟨Nat.zero_le x, by omega⟩)
  rw [payloadBytes, bootSysinfo]
  exact List.map_congr_left fun x member => fixed x (List.mem_range.mp member)

theorem bytesAt_range (m : Mem) {n x : Nat} (inside : x < n) :
    bytesAt ((List.range n).map m) x = m x := by
  simp [bytesAt, inside]

theorem readSysinfo_congr {m m' : Mem} (same : ∀ x < 72, m' x = m x) :
    readSysinfo m' = readSysinfo m := by
  have quad : ∀ o, o + 8 ≤ 72 → ld64 m' o = ld64 m o := by
    intro o inside
    exact ld64_congr fun i below => same (o + i) (by omega)
  have word : ∀ o, o + 4 ≤ 72 → ld32 m' o = ld32 m o := by
    intro o inside
    exact ld32_congr fun i below => same (o + i) (by omega)
  rw [readSysinfo, readSysinfo, quad 0 (by decide), quad 8 (by decide), quad 16 (by decide),
    quad 24 (by decide), quad 56 (by decide), word 64 (by decide), word 68 (by decide)]

theorem boot_sysinfo_read (pci : NvGspPciInfo) :
    readSysinfo (bytesAt (bootSysinfo pci)) = told pci := by
  rw [← sysinfo_read (fun _ => 0) pci]
  apply readSysinfo_congr
  intro x below
  have size : nvGspSysinfoSize.toNat = 664 := rfl
  exact bytesAt_range _ (by omega)

theorem boot_sysinfo_zero (pci : NvGspPciInfo) {x : Nat} (unset : 32 ≤ x ∧ x < 56 ∨ 72 ≤ x) :
    bytesAt (bootSysinfo pci) x = 0 := by
  have size : nvGspSysinfoSize.toNat = 664 := rfl
  by_cases below : x < 664
  · exact (bytesAt_range _ (by omega)).trans (sysinfo_zero _ pci below unset)
  · have length : (bootSysinfo pci).length = 664 := by
      rw [bootSysinfo, List.length_map, List.length_range, size]
    rw [bytesAt, List.getD_eq_default _ _ (by omega)]

/-! The region. -/

theorem totalSize_eq : nvGspShmCompute.totalSize.toNat = 0x81000 := by decide

theorem header_spaced (msgCount : UInt32) : Spaced ((queueHdr msgCount).map extent) :=
  show Spaced [(0, 4), (4, 4), (8, 4), (12, 4), (16, 4), (20, 4), (24, 4), (28, 4), (32, 4)] by
    decide

theorem header_read (m : Mem) (q : Nat) :
    readHeader (initQueueHdr m q nvGspShmCompute.msgCount) q = freshHeader 0 := by
  have spaced := header_spaced nvGspShmCompute.msgCount
  rw [readHeader, initQueueHdr, word_at spaced 0 rfl, word_at spaced 1 rfl, word_at spaced 2 rfl,
    word_at spaced 3 rfl, word_at spaced 4 rfl, word_at spaced 5 rfl, word_at spaced 6 rfl,
    word_at spaced 7 rfl, word_at spaced 8 rfl]
  rfl

theorem header_within (msgCount : UInt32) : Within 36 ((queueHdr msgCount).map extent) :=
  show Within 36 [(0, 4), (4, 4), (8, 4), (12, 4), (16, 4), (20, 4), (24, 4), (28, 4), (32, 4)] by
    decide

theorem header_outside (m : Mem) {q x : Nat} {msgCount : UInt32} (outside : x < q ∨ q + 36 ≤ x) :
    initQueueHdr m q msgCount x = m x :=
  field_outside (header_within msgCount) outside

theorem readHeader_congr {m m' : Mem} {q : Nat} (same : ∀ i < 36, m' (q + i) = m (q + i)) :
    readHeader m' q = readHeader m q := by
  have word : ∀ o, o + 4 ≤ 36 → ld32 m' (q + o) = ld32 m (q + o) := by
    intro o inside
    apply ld32_congr
    intro i below
    rw [Nat.add_assoc]
    exact same (o + i) (by omega)
  rw [readHeader, readHeader, word 0 (by decide), word 4 (by decide), word 8 (by decide),
    word 12 (by decide), word nvMsgqTxWriteptrOff (by decide), word 20 (by decide),
    word 24 (by decide), word 28 (by decide), word nvGspMsgqRxhdroff (by decide)]

/-- Both headers, and behind the table nothing but them. -/
theorem shm_headers (m : Mem) (dmaBase : UInt64) :
    readHeader (shmInit m dmaBase nvGspShmCompute) 0x1000 = freshHeader 0 ∧
      readHeader (shmInit m dmaBase nvGspShmCompute) 0x41000 = freshHeader 0 := by
  constructor
  · rw [← header_read (fillLevel (clear m 0 0x81000) 0 dmaBase 129) 0x1000]
    apply readHeader_congr
    intro i below
    exact header_outside _ (Or.inl (show 0x1000 + i < 0x41000 by omega))
  · exact header_read _ 0x41000

theorem shm_pages (m : Mem) (dmaBase : UInt64) {i : Nat} (inside : i < 129) :
    ld64 (shmInit m dmaBase nvGspShmCompute) (8 * i) =
      dmaBase + UInt64.ofNat i * nvGspPageSize := by
  have below : ∀ x < 0x1000, shmInit m dmaBase nvGspShmCompute x =
      fillLevel (clear m 0 0x81000) 0 dmaBase 129 x := by
    intro x low
    exact (header_outside _ (Or.inl (show x < 0x41000 by omega))).trans
      (header_outside _ (Or.inl low))
  have read := table_read (clear m 0 0x81000) 0 dmaBase inside
  rw [Nat.zero_add] at read
  rw [← read]
  exact ld64_congr fun k byte => below _ (by omega)

/-- `nv_gsp_shm_init` stays within the region. -/
theorem shm_outside (m : Mem) (dmaBase : UInt64) {x : Nat} (outside : 0x81000 ≤ x) :
    shmInit m dmaBase nvGspShmCompute x = m x := by
  have table : ¬ (tablePatch 0 dmaBase 129).covers x := by
    intro inside
    have within := table_covers inside
    omega
  have filled := (tablePatch 0 dmaBase 129).kept (clear m 0 0x81000) x table
  rw [← table_patch, clear_outside _ _ _ _ (by omega)] at filled
  exact (header_outside _ (Or.inr (show 0x41000 + 36 ≤ x by omega))).trans
    ((header_outside _ (Or.inr (show 0x1000 + 36 ≤ x by omega))).trans filled)

/-! The commands. -/

/-- An element of one slot is read within its slot. -/
theorem decode_page {lay : NvGspShmLayout} {m m' : Mem} {e : Nat}
    (short : (decodeElement lay m e).payload.length ≤ 4016)
    (same : ∀ i < 0x1000, m' (e + i) = m (e + i)) :
    decodeElement lay m' e = decodeElement lay m e := by
  have word : ∀ o, o + 4 ≤ 0x1000 → ld32 m' (e + o) = ld32 m (e + o) := by
    intro o inside
    apply ld32_congr
    intro i below
    rw [Nat.add_assoc]
    exact same (o + i) (by omega)
  have single : ∀ m : Mem, decodeElement lay m e =
      ⟨if ld32 m (e + 40) = 0 ∨ ld32 m (e + 40) > lay.msgCount then 1 else ld32 m (e + 40),
        ld32 m (e + 36), ld32 m (e + 60),
        (List.range (if ld32 m (e + 56) ≥ nvGspRpcHdrSize then ld32 m (e + 56) - nvGspRpcHdrSize
          else 0).toNat).map fun i => m (e + (80 + i))⟩ := by
    intro m
    simp only [← Nat.add_assoc]
    rfl
  rw [single] at short
  rw [single, single, word 40 (by decide), word 36 (by decide), word 60 (by decide),
    word 56 (by decide)]
  congr 1
  apply List.map_congr_left
  intro i member
  rw [List.length_map, List.length_range] at short
  exact same (80 + i) (by have below := List.mem_range.mp member; omega)

section Commands

variable (m : Mem) (pci : Option NvGspPciInfo) (stack : Stack)

def first : Mem :=
  (nvGspCmdqWrite m cmdqBase 0 0 nvVgpuMsgFunctionGspSetSystemInfo
    (some (nvGspBuildSysinfo stack.sysinfo (orZeros pci))) nvGspSysinfoSize).2

def second : Mem :=
  (nvGspCmdqWrite (first m pci stack) cmdqBase 1 1 nvVgpuMsgFunctionSetRegistry
    (some (nvGspBuildRegistry stack.reg 256).2) 82).2

theorem preboot_eq : preboot m nvGspShmCompute pci stack =
    nvGspCmdqSetWriteptr (second m pci stack) nvGspShmCompute 2 := by
  simp only [preboot, second, first, registry_patch]
  rfl

theorem first_outside {x : Nat} (outside : x < 0x2000 ∨ 0x3000 ≤ x) :
    first m pci stack x = m x := by
  apply cmdqWrite_outside
  change x < 0x2000 ∨ 0x2000 + 80 ≤ x ∧ 0x2000 + 0x1000 ≤ x ∧ (_ ∨ 0x2000 + 80 + 664 ≤ x)
  omega

theorem second_outside {x : Nat} (outside : x < 0x3000 ∨ 0x4000 ≤ x) :
    second m pci stack x = first m pci stack x := by
  apply cmdqWrite_outside
  change x < 0x3000 ∨ 0x3000 + 80 ≤ x ∧ 0x3000 + 0x1000 ≤ x ∧ (_ ∨ 0x3000 + 80 + 82 ≤ x)
  omega

theorem pointer_outside {x : Nat} (outside : x < 0x1010 ∨ 0x1014 ≤ x) :
    preboot m nvGspShmCompute pci stack x = second m pci stack x := by
  rw [preboot_eq]
  exact st32_outside _ _ _ _ outside

theorem preboot_outside {x : Nat} (slots : x < 0x2000 ∨ 0x4000 ≤ x)
    (pointer : x < 0x1010 ∨ 0x1014 ≤ x) : preboot m nvGspShmCompute pci stack x = m x := by
  rw [pointer_outside m pci stack pointer, second_outside m pci stack (by omega),
    first_outside m pci stack (by omega)]

theorem sysinfo_decodes :
    decodeElement nvGspShmCompute (preboot m nvGspShmCompute pci stack) (entryAddr cmdqBase 0) =
      ⟨1, 0, nvVgpuMsgFunctionGspSetSystemInfo, bootSysinfo (orZeros pci)⟩ := by
  have fits : ElementFits 0 nvGspSysinfoSize := by decide
  have written : decodeElement nvGspShmCompute (first m pci stack) (entryAddr cmdqBase 0) =
      ⟨1, 0, nvVgpuMsgFunctionGspSetSystemInfo, bootSysinfo (orZeros pci)⟩ := by
    rw [first, written_decodes _ _ _ _ _ fits, sysinfo_payload]
    rfl
  have place : entryAddr cmdqBase 0 = 0x2000 := by decide
  rw [← written]
  apply decode_page
  · rw [written, bootSysinfo, List.length_map, List.length_range]
    decide
  · intro i below
    rw [place, pointer_outside _ _ _ (by omega), second_outside _ _ _ (by omega)]

theorem registry_decodes :
    decodeElement nvGspShmCompute (preboot m nvGspShmCompute pci stack) (entryAddr cmdqBase 1) =
      ⟨1, 1, nvVgpuMsgFunctionSetRegistry, bootRegistry⟩ := by
  have fits : ElementFits 1 82 := by decide
  have written : decodeElement nvGspShmCompute (second m pci stack) (entryAddr cmdqBase 1) =
      ⟨1, 1, nvVgpuMsgFunctionSetRegistry, bootRegistry⟩ := by
    rw [second, written_decodes _ _ _ _ _ fits, registry_payload]
    rfl
  have place : entryAddr cmdqBase 1 = 0x3000 := by decide
  rw [← written]
  apply decode_page
  · rw [written, bootRegistry, List.length_map, List.length_range]
    decide
  · intro i below
    rw [place, pointer_outside _ _ _ (by omega)]

theorem preboot_pointer : ld32 (preboot m nvGspShmCompute pci stack) 0x1010 = 2 := by
  rw [preboot_eq]
  exact ld32_st32 _ _ _

theorem preboot_header : readHeader (preboot m nvGspShmCompute pci stack) 0x1000 =
    { readHeader m 0x1000 with writePtr := 2 } := by
  have kept : ∀ o, o + 4 ≤ 36 → o + 4 ≤ 16 ∨ 20 ≤ o →
      ld32 (preboot m nvGspShmCompute pci stack) (0x1000 + o) = ld32 m (0x1000 + o) := by
    intro o inside apart
    exact ld32_congr fun i below => preboot_outside m pci stack (by omega) (by omega)
  have pointer : ld32 (preboot m nvGspShmCompute pci stack) (0x1000 + nvMsgqTxWriteptrOff) = 2 :=
    preboot_pointer m pci stack
  rw [readHeader, kept 0 (by decide) (by decide), kept 4 (by decide) (by decide),
    kept 8 (by decide) (by decide), kept 12 (by decide) (by decide), pointer,
    kept 20 (by decide) (by decide), kept 24 (by decide) (by decide),
    kept 28 (by decide) (by decide), kept nvGspMsgqRxhdroff (by decide) (by decide)]
  rfl

end Commands

/-! The flow of commands that starts here. -/

/-- The channel of layer 3: it takes its pointer from the region. -/
def layer3Chan (m : Mem) (lay : NvGspShmLayout) (rptr : UInt32) : NvGspRpcChan :=
  let wptr := ld32 m (lay.cmdqOff.toNat + nvMsgqTxWriteptrOff)
  { shm := m, lay := lay, cmdqWptr := wptr, seq := wptr, msgqRptr := rptr }

/-- A command of one slot, with what the slot holds. -/
def slotItem (m : Mem) (slot : Nat) : Item :=
  { slots := 1, bytes := fun o => m (cmdqRing.addr slot o) }

/-- GSP has read nothing yet. -/
def started (m : Mem) : Flow :=
  { ch := layer3Chan m nvGspShmCompute 0
    gspRptr := 0
    outstanding := [slotItem m 0, slotItem m 1] }

theorem slotItem_held (m : Mem) (slot : Nat) : cmdqRing.Holds m slot [slotItem m slot] := by
  intro o inside
  rw [SlotRing.flat, if_pos (show o < cmdqRing.slotBytes * (slotItem m slot).slots from inside)]
  rfl

theorem started_inv {m : Mem} (pointer : ld32 m 0x1010 = 2) : FlowInv (started m) := by
  have shown : (started m).ch.cmdqWptr = 2 := pointer
  refine ⟨⟨rfl, ?_⟩, show 0 < 63 by decide, rfl, ?_, show 2 < 63 by decide, ?_, ?_⟩
  · rw [shown]
    decide
  · rw [shown]
    rfl
  · intro item member
    have either : item = slotItem m 0 ∨ item = slotItem m 1 := by
      simpa [started] using member
    rcases either with rfl | rfl
    · exact Nat.le_refl 1
    · exact Nat.le_refl 1
  · exact SlotRing.holds_append (slotItem_held m 0) (slotItem_held m 1)

theorem reaches_inv {s t : Flow} (inv : FlowInv s) (run : Reaches Room s t) : FlowInv t := by
  induction run with
  | refl => exact inv
  | tail _ step ih => exact step_inv step ih

theorem started_pending {m : Mem} (pointer : ld32 m 0x41010 = 0) :
    Pending (layer3Chan m nvGspShmCompute 0) [] := by
  refine ⟨rfl, show 0 < 63 by decide, ?_, ?_, by decide⟩
  · exact fun o inside => absurd inside (Nat.not_lt_zero o)
  · change (nvGspMsgqWriteptr m nvGspShmCompute).toNat = _
    rw [MsgQueue.writeptr_eq m rfl, pointer]
    rfl

/-- What GSP finds in the region, and how the conversation goes on from there. The
message queue is empty at slot 0, where the drain begins to read. -/
structure Started (m : Mem) (dmaBase : UInt64) (pci : NvGspPciInfo) : Prop where
  pages : ∀ i < 129, ld64 m (8 * i) = dmaBase + UInt64.ofNat i * nvGspPageSize
  commands : readHeader m cmdqBase = freshHeader 2
  messages : readHeader m MsgQueue.msgqBase = freshHeader 0
  sysinfo : ∃ bytes, decodeElement nvGspShmCompute m (entryAddr cmdqBase 0) =
      ⟨1, 0, nvVgpuMsgFunctionGspSetSystemInfo, bytes⟩ ∧
    bytes.length = 664 ∧ readSysinfo (bytesAt bytes) = told pci ∧
    ∀ x, 32 ≤ x ∧ x < 56 ∨ 72 ≤ x → bytesAt bytes x = 0
  registry : ∃ bytes, decodeElement nvGspShmCompute m (entryAddr cmdqBase 1) =
      ⟨1, 1, nvVgpuMsgFunctionSetRegistry, bytes⟩ ∧
    readRegistry (bytesAt bytes) bytes.length = settings
  runs : ∀ t, Reaches Room (started m) t → FlowInv t
  quiet : Pending (layer3Chan m nvGspShmCompute 0) []

theorem preboot_started (m : Mem) (dmaBase : UInt64) (pci : Option NvGspPciInfo) (stack : Stack) :
    Started (preboot (shmInit m dmaBase nvGspShmCompute) nvGspShmCompute pci stack) dmaBase
      (orZeros pci) := by
  obtain ⟨commands, messages⟩ := shm_headers m dmaBase
  have quiet : readHeader (preboot (shmInit m dmaBase nvGspShmCompute) nvGspShmCompute pci stack)
      0x41000 = freshHeader 0 := by
    rw [← messages]
    apply readHeader_congr
    exact fun i below => preboot_outside _ pci stack (by omega) (by omega)
  refine ⟨?_, ?_, quiet, ?_, ?_, ?_, ?_⟩
  · intro i inside
    rw [← shm_pages m dmaBase inside]
    exact ld64_congr fun k byte => preboot_outside _ pci stack (by omega) (by omega)
  · rw [cmdqBase_eq, preboot_header, commands]
    rfl
  · refine ⟨_, sysinfo_decodes _ pci stack, ?_, boot_sysinfo_read _, fun x => boot_sysinfo_zero _⟩
    rw [bootSysinfo, List.length_map, List.length_range]
    rfl
  · exact ⟨_, registry_decodes _ pci stack, registry_read⟩
  · intro t run
    exact reaches_inv (started_inv (preboot_pointer _ pci stack)) run
  · exact started_pending (congrArg QueueHeader.writePtr quiet)

/-- The region is refused as too small, or it comes up whatever it and the stack held. -/
theorem region_started (m : Mem) (buflen dmaBase : UInt64) (pci : Option NvGspPciInfo)
    (stack : Stack) :
    match nvGspShmInit m buflen dmaBase with
    | .error e => e = nvGspRpcErrBounds ∧ buflen < nvGspShmCompute.totalSize
    | .ok (lay, shm) => lay = nvGspShmCompute ∧ nvGspShmCompute.totalSize ≤ buflen ∧
        Started (preboot shm lay pci stack) dmaBase (orZeros pci) ∧
        ∀ x, lay.totalSize.toNat ≤ x → preboot shm lay pci stack x = m x := by
  have checked : nvGspShmInit m buflen dmaBase =
      if nvGspShmCompute.totalSize > buflen then .error nvGspRpcErrBounds
      else .ok (nvGspShmCompute, shmInit m dmaBase nvGspShmCompute) := rfl
  rw [checked]
  by_cases small : nvGspShmCompute.totalSize > buflen
  · rw [if_pos small]
    exact ⟨rfl, small⟩
  · rw [if_neg small]
    refine ⟨rfl, UInt64.not_lt.mp small, preboot_started m dmaBase pci stack, ?_⟩
    intro x outside
    rw [totalSize_eq] at outside
    rw [preboot_outside _ pci stack (by omega) (by omega)]
    exact shm_outside m dmaBase outside

end GspDriver.QueueStart
