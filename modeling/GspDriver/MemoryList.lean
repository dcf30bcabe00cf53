import GspDriver.RmCalls
import GspDriver.Base.Words

/-!
`nv_gsp_rm_vram_memlist` of gsp_rm.c: one request that lists every page of a
range. The writes to the static `req` are kept in order, so that the buffer and
the places that were written come from one list. The page count is cut to 32
bits and its product with 8 may wrap, both before the length is compared with
the buffer.
-/

namespace GspDriver.MemoryList

open Bytes LittleEndian Words GspRpc GspRm RmCalls

def nvVgpuMsgFunctionAllocMemory : UInt32 := 4
def nvAllocmemPagecountOff : Nat := 40
def nvAllocmemPtearrOff : UInt32 := 48
def nvGspPageShift : UInt64 := 12
def nvGspRmVramHandle : UInt32 := 0x00ca0001
def nv01MemoryListFbmem : UInt32 := 0x82
def nvos02FlagsFbmemContigNomap : UInt32 := 0x40000200
def nvMmuPteKindGenericMemory : UInt32 := 6
def reqSize : UInt32 := 8192

/-! Stores to a buffer, as a list. -/

inductive Store where
  | byte (off : Nat) (v : UInt8)
  | word (off : Nat) (v : UInt32)
  | quad (off : Nat) (v : UInt64)

namespace Store

def off : Store → Nat
  | .byte off _ | .word off _ | .quad off _ => off

def width : Store → Nat
  | .byte _ _ => 1
  | .word _ _ => 4
  | .quad _ _ => 8

def value : Store → Nat
  | .byte _ v => v.toNat
  | .word _ v => v.toNat
  | .quad _ v => v.toNat

def apply (m : Mem) : Store → Mem
  | .byte off v => put m off v
  | .word off v => st32 m off v
  | .quad off v => st64 m off v

/-- Two stores share no byte. -/
def Apart (one two : Store) : Prop := one.off + one.width ≤ two.off ∨ two.off + two.width ≤ one.off

end Store

def written (m : Mem) (stores : List Store) : Mem := stores.foldl Store.apply m

/-- What a call leaves behind, but for `req`. -/
structure MemlistReturn where
  rc : Except RmError Unit
  handle : Option UInt32
  rpcResult : Option UInt32
  ch : NvGspRpcChan

/-- A call: its stores to `req`, the request that was handed to the RPC, and
what came back, `none` if the polls ran out. -/
structure Memlist where
  writes : List Store
  sent : Option (List UInt8)
  returned : Option MemlistReturn

def pageCount (size : UInt64) : UInt32 := (size >>> nvGspPageShift).toUInt32

def memlistLen (size : UInt64) : UInt32 := nvAllocmemPtearrOff + pageCount size * 8

def memlistFields (hClient hDevice : UInt32) (size : UInt64) : List Store :=
  [.word 0 hClient, .word 4 hDevice, .word 8 nvGspRmVramHandle, .word 12 nv01MemoryListFbmem,
    .word 16 nvos02FlagsFbmemContigNomap, .word 20 0, .word 24 nvMmuPteKindGenericMemory,
    .quad 32 size, .word nvAllocmemPagecountOff (pageCount size),
    .word 44 ((pageCount size &&& 0xffff) <<< 16)]

def memlistPages (phys size : UInt64) : List Store :=
  (List.range (pageCount size).toNat).map fun i =>
    .quad (nvAllocmemPtearrOff.toNat + i * 8) ((phys >>> nvGspPageShift) + UInt64.ofNat i)

def memlistWrites (hClient hDevice : UInt32) (phys size : UInt64) : List Store :=
  (List.range (memlistLen size).toNat).map (fun i => .byte i 0) ++
    (memlistFields hClient hDevice size ++ memlistPages phys size)

def nvGspRmVramMemlist (polls : Nat) (world : Nat → Mem → Mem) (ch : NvGspRpcChan) (req : Mem)
    (hClient hDevice : UInt32) (phys size : UInt64) : Memlist :=
  if size = 0 ∨ size &&& 0xfff ≠ 0 ∨ phys &&& 0xfff ≠ 0 then
    { writes := [], sent := none
      returned := some { rc := .error .arg, handle := none, rpcResult := none, ch } }
  else if memlistLen size > reqSize then
    { writes := [], sent := none
      returned := some { rc := .error .bounds, handle := none, rpcResult := none, ch } }
  else
    let writes := memlistWrites hClient hDevice phys size
    let req := written req writes
    { writes
      sent := some ((List.range (memlistLen size).toNat).map req)
      returned :=
        (nvGspRpcCall polls world ch nvVgpuMsgFunctionAllocMemory (some req) (memlistLen size) 0
            rmTimeoutUs).map fun returned =>
          match returned.1 with
          | .errTimeout =>
              { rc := .error .timeout, handle := none, rpcResult := none, ch := returned.2 }
          | .errBounds =>
              { rc := .error .bounds, handle := none, rpcResult := none, ch := returned.2 }
          | .ok _ _ rres =>
              { rc := if rres = 0 then .ok () else .error .bounds
                handle := some nvGspRmVramHandle
                rpcResult := some rres
                ch := returned.2 } }

/-! A store that no later one meets is read back. -/

theorem apply_eq_store (m : Mem) (s : Store) : s.apply m = store m s.off s.width s.value := by
  cases s with
  | byte off v =>
      funext x
      by_cases here : x = off
      · subst x
        simp [Store.apply, put, store, Store.off, Store.width, Store.value]
      · rw [Store.apply, put, if_neg here, store_outside]
        simp only [Store.off, Store.width]
        omega
  | word off v => exact st32_eq_store m off v
  | quad off v => exact st64_eq_store m off v

theorem written_miss (stores : List Store) (m : Mem) {a n : Nat}
    (apart : ∀ s ∈ stores, a + n ≤ s.off ∨ s.off + s.width ≤ a) :
    load (written m stores) a n = load m a n := by
  induction stores generalizing m with
  | nil => rfl
  | cons s rest ih =>
      have kept := ih (s.apply m) fun other member => apart other (List.mem_cons_of_mem s member)
      have here := apart s List.mem_cons_self
      rw [apply_eq_store, load_store_apart _ _ _ _ _ _ here] at kept
      rw [written, List.foldl_cons, ← written, apply_eq_store]
      exact kept

theorem written_hit (before later : List Store) (m : Mem) (s : Store)
    (apart : ∀ other ∈ later, s.Apart other) :
    load (written m (before ++ s :: later)) s.off s.width = s.value % 256 ^ s.width := by
  rw [written, List.foldl_append, List.foldl_cons, ← written, written_miss later _ apart,
    apply_eq_store, load_store_same]

/-! The words of the sent request. -/

theorem sent_load (buffer : Mem) {len a n : Nat} (inside : a + n ≤ len) :
    load (bytesAt ((List.range len).map buffer)) a n = load buffer a n := by
  apply load_congr
  intro i below
  rw [bytesAt, List.getD_eq_getElem?_getD, List.getElem?_map, List.getElem?_range (by omega)]
  rfl

theorem pageCount_toNat (size : UInt64) :
    (pageCount size).toNat = size.toNat / 4096 % 2 ^ 32 := by
  have page : 2 ^ nvGspPageShift.toNat = 4096 := rfl
  rw [pageCount, UInt64.toNat_toUInt32, shr_toNat (by decide), page]

/-- The length that is compared with the buffer. -/
theorem memlistLen_toNat (size : UInt64) :
    (memlistLen size).toNat = (48 + 8 * (size.toNat / 4096)) % 2 ^ 32 := by
  have start : nvAllocmemPtearrOff.toNat = 48 := rfl
  have eight : (8 : UInt32).toNat = 8 := rfl
  rw [memlistLen, UInt32.toNat_add, UInt32.toNat_mul, pageCount_toNat, start, eight]
  omega

theorem page_value (phys : UInt64) {i : Nat} (small : i < 2 ^ 32) :
    ((phys >>> nvGspPageShift) + UInt64.ofNat i).toNat = phys.toNat / 4096 + i := by
  have page : 2 ^ nvGspPageShift.toNat = 4096 := rfl
  have high := phys.toNat_lt
  have frame : (phys >>> nvGspPageShift).toNat = phys.toNat / 4096 := by
    rw [shr_toNat (by decide), page]
  have index : (UInt64.ofNat i).toNat = i := ofNat_toNat (by omega)
  rw [add_toNat (by omega), frame, index]

section Written

variable (hClient hDevice : UInt32) (phys size : UInt64) (req : Mem)

theorem count_written : ld32 (written req (memlistWrites hClient hDevice phys size))
    nvAllocmemPagecountOff = pageCount size := by
  have apart : ∀ other ∈ Store.word 44 ((pageCount size &&& 0xffff) <<< 16) ::
      memlistPages phys size, (Store.word nvAllocmemPagecountOff (pageCount size)).Apart other := by
    intro other member
    left
    rcases List.mem_cons.mp member with rfl | page
    · exact Nat.le_refl 44
    · obtain ⟨i, _, rfl⟩ := List.mem_map.mp page
      show 40 + 4 ≤ 48 + i * 8
      omega
  have hit := written_hit ((List.range (memlistLen size).toNat).map (fun i => .byte i 0) ++
    (memlistFields hClient hDevice size).take 8) _ req _ apart
  apply UInt32.toNat_inj.mp
  rw [ld32_toNat, memlistWrites]
  rw [List.append_assoc] at hit
  exact hit.trans (Nat.mod_eq_of_lt (pageCount size).toNat_lt)

theorem page_written {i : Nat} (listed : i < (pageCount size).toNat) :
    (ld64 (written req (memlistWrites hClient hDevice phys size)) (48 + 8 * i)).toNat =
      phys.toNat / 4096 + i := by
  obtain ⟨before, later, split⟩ := List.append_of_mem (List.mem_range.mpr listed)
  -- the entries go up, so what is stored after this one lies behind it
  have sorted := @List.pairwise_lt_range (pageCount size).toNat
  rw [split] at sorted
  have above := (List.pairwise_cons.mp (List.pairwise_append.mp sorted).2.1).1
  let entry (i : Nat) : Store :=
    .quad (nvAllocmemPtearrOff.toNat + i * 8) ((phys >>> nvGspPageShift) + UInt64.ofNat i)
  have apart : ∀ other ∈ later.map entry, (entry i).Apart other := by
    intro other member
    obtain ⟨j, there, rfl⟩ := List.mem_map.mp member
    have next := above j there
    left
    show 48 + i * 8 + 8 ≤ 48 + j * 8
    omega
  have pages : memlistPages phys size = before.map entry ++ entry i :: later.map entry := by
    rw [memlistPages, split, List.map_append, List.map_cons]
  have small : i < 2 ^ 32 := listed.trans (pageCount size).toNat_lt
  have hit := written_hit ((List.range (memlistLen size).toNat).map (fun i => .byte i 0) ++
    (memlistFields hClient hDevice size ++ before.map entry)) _ req _ apart
  rw [ld64_toNat, memlistWrites, pages]
  rw [List.append_assoc, List.append_assoc] at hit
  have place : (entry i).off = 48 + 8 * i := by
    show 48 + i * 8 = _
    omega
  rw [place] at hit
  refine hit.trans ?_
  show ((phys >>> nvGspPageShift) + UInt64.ofNat i).toNat % 256 ^ 8 = _
  rw [page_value phys small]
  have high := phys.toNat_lt
  exact Nat.mod_eq_of_lt (by omega)

theorem writes_within (fits : 48 + 8 * (size.toNat / 4096) ≤ 8192) :
    ∀ s ∈ memlistWrites hClient hDevice phys size, s.off + s.width ≤ reqSize.toNat := by
  have count := pageCount_toNat size
  have length := memlistLen_toNat size
  have limit : reqSize.toNat = 8192 := rfl
  have fields : ∀ s ∈ memlistFields hClient hDevice size, s.off + s.width ≤ 48 := by
    simp [memlistFields, Store.off, Store.width, nvAllocmemPagecountOff]
  intro s member
  rw [memlistWrites, List.mem_append, List.mem_append] at member
  rcases member with cleared | field | page
  · obtain ⟨i, below, rfl⟩ := List.mem_map.mp cleared
    have below := List.mem_range.mp below
    show i + 1 ≤ _
    omega
  · have := fields s field
    omega
  · obtain ⟨i, below, rfl⟩ := List.mem_map.mp page
    have below := List.mem_range.mp below
    show 48 + i * 8 + 8 ≤ _
    omega

end Written

/-! When the request is right. -/

/-- A request that lists the range page by page, written inside the buffer. -/
structure Lists (phys size : UInt64) (writes : List Store) (bytes : List UInt8) : Prop where
  count : (ld32 (bytesAt bytes) nvAllocmemPagecountOff).toNat = size.toNat / 4096
  covers : 48 + 8 * (size.toNat / 4096) ≤ bytes.length
  pages : ∀ i < size.toNat / 4096,
    (ld64 (bytesAt bytes) (48 + 8 * i)).toNat = phys.toNat / 4096 + i
  within : ∀ s ∈ writes, s.off + s.width ≤ reqSize.toNat

/-- Nothing was sent or changed and an error came back, or the request is right. -/
def ListsOrFails (ch : NvGspRpcChan) (phys size : UInt64) (call : Memlist) : Prop :=
  match call.sent with
  | none => ∃ error, call.returned =
      some { rc := .error error, handle := none, rpcResult := none, ch }
  | some bytes => Lists phys size call.writes bytes

theorem lists_of_fits (hClient hDevice : UInt32) (phys size : UInt64) (req : Mem)
    (fits : 48 + 8 * (size.toNat / 4096) ≤ 8192) :
    Lists phys size (memlistWrites hClient hDevice phys size)
      ((List.range (memlistLen size).toNat).map
        (written req (memlistWrites hClient hDevice phys size))) := by
  have count := pageCount_toNat size
  have length : (memlistLen size).toNat = 48 + 8 * (size.toNat / 4096) :=
    (memlistLen_toNat size).trans (Nat.mod_eq_of_lt (by omega))
  have whole : (pageCount size).toNat = size.toNat / 4096 :=
    count.trans (Nat.mod_eq_of_lt (by omega))
  refine ⟨?_, ?_, fun i below => ?_, writes_within hClient hDevice phys size fits⟩
  · rw [ld32_toNat, sent_load _ (by rw [length]; show 40 + 4 ≤ _; omega), ← ld32_toNat,
      count_written, whole]
  · rw [List.length_map, List.length_range, length]
  · rw [ld64_toNat, sent_load _ (by rw [length]; omega), ← ld64_toNat]
    exact page_written hClient hDevice phys size req (whole ▸ below)

/-- The request is right, or was never sent, exactly when its length does not
wrap around to one that the buffer holds. -/
theorem memlist_lists_iff (polls : Nat) (world : Nat → Mem → Mem) (ch : NvGspRpcChan) (req : Mem)
    (hClient hDevice : UInt32) (phys size : UInt64) (physAligned : phys.toNat % 4096 = 0)
    (sizeAligned : size.toNat % 4096 = 0) :
    ListsOrFails ch phys size
        (nvGspRmVramMemlist polls world ch req hClient hDevice phys size) ↔
      48 + 8 * (size.toNat / 4096) ≤ 8192 ∨
        8192 < (48 + 8 * (size.toNat / 4096)) % 2 ^ 32 := by
  have mask : (0xfff : UInt64).toNat = 2 ^ 12 - 1 := rfl
  have pages : ∀ x : UInt64, x.toNat % 4096 = 0 → x &&& 0xfff = 0 := by
    intro x aligned
    apply UInt64.toNat_inj.mp
    rw [and_mask_toNat x mask]
    exact aligned
  have limit : reqSize.toNat = 8192 := rfl
  have length := memlistLen_toNat size
  rw [nvGspRmVramMemlist]
  by_cases empty : size = 0
  · rw [if_pos (Or.inl empty), empty]
    exact iff_of_true ⟨.arg, rfl⟩ (Or.inl (by decide))
  rw [if_neg (by simp [empty, pages size sizeAligned, pages phys physAligned])]
  -- The check sees the length modulo 2^32.
  by_cases large : memlistLen size > reqSize
  · rw [if_pos large]
    rw [gt_iff_lt, UInt32.lt_iff_toNat_lt, length, limit] at large
    exact iff_of_true ⟨.bounds, rfl⟩ (Or.inr large)
  · rw [if_neg large]
    rw [gt_iff_lt, UInt32.not_lt, UInt32.le_iff_toNat_le, length, limit] at large
    constructor
    · intro lists
      have covers := lists.covers
      rw [List.length_map, List.length_range, length] at covers
      exact Or.inl (by omega)
    · intro room
      exact lists_of_fits hClient hDevice phys size req (room.resolve_right (by omega))

theorem memlist_lists_iff_page : ListsOrFails ⟨fun _ => 0, nvGspShmCompute, 0, 0, 0⟩ 0x10000 0x1000
    (nvGspRmVramMemlist 1 (fun _ shm => shm) ⟨fun _ => 0, nvGspShmCompute, 0, 0, 0⟩ (fun _ => 0) 1 2
      0x10000 0x1000) :=
  (memlist_lists_iff 1 (fun _ shm => shm) ⟨fun _ => 0, nvGspShmCompute, 0, 0, 0⟩ (fun _ => 0) 1 2
    0x10000 0x1000 (by decide) (by decide)).mpr (Or.inl (by decide))

/-- A range of 2^32 pages is sent as an empty list. -/
theorem memlist_wraps : ∃ call bytes,
    call = nvGspRmVramMemlist 1 (fun _ shm => shm) ⟨fun _ => 0, nvGspShmCompute, 0, 0, 0⟩
      (fun _ => 0) 1 2 0 0x100000000000 ∧
    call.sent = some bytes ∧ bytes.length = 48 ∧
    ld32 (bytesAt bytes) nvAllocmemPagecountOff = 0 ∧
    ¬ ListsOrFails ⟨fun _ => 0, nvGspShmCompute, 0, 0, 0⟩ 0 0x100000000000 call := by
  refine ⟨_, _, rfl, rfl, by rfl, by decide +kernel, ?_⟩
  intro lists
  have count := lists.count
  revert count
  decide +kernel

end GspDriver.MemoryList
