import GspDriver.LittleEndian
import GspDriver.Base.Radix

/-!
The radix-3 table of the firmware image: `nv_gsp_radix3_levels` and
`nv_gsp_radix3_fill` of gsp_fw.c, over the areas that the bring-up takes from
its DMA arena. The driver writes through the arena's own addresses, the GSP
follows bus addresses; both are one buffer.
-/

namespace GspDriver.Radix3

open Words Bytes LittleEndian Radix

def nvGspErrArg : Int := -1
def nvGspErrCap : Int := -5
def nvGspPageSize : UInt64 := 4096
def nvGspRadix3EntriesPerPage : UInt64 := 512

/-- The entries of level 2, and its pages, which are the entries of level 1. -/
def nvGspRadix3Levels (fwimageSize : UInt64) : Except Int (UInt32 × UInt32) :=
  if fwimageSize = 0 then .error nvGspErrArg
  else
    let pages := (fwimageSize + nvGspPageSize - 1) / nvGspPageSize
    let l2Bytes := pages * 8
    let l2Pages := (l2Bytes + nvGspPageSize - 1) / nvGspPageSize
    if l2Pages > nvGspRadix3EntriesPerPage then .error nvGspErrCap
    else .ok (pages.toUInt32, l2Pages.toUInt32)

/-- Each entry points at the next page from `dma` on. -/
def fillLevel (m : Mem) (table : Nat) (dma : UInt64) (count : Nat) : Mem :=
  (List.range count).foldl
    (fun m i => st64 m (table + i * 8) (dma + UInt64.ofNat i * nvGspPageSize)) m

def nvGspRadix3Fill (m : Mem) (fwimageSize : UInt64) (lvl0 lvl1 lvl2 : Nat)
    (dmaFwimage dmaLvl2 dmaLvl1 : UInt64) : Except Int Mem := do
  let (n2, l2Pages) ← nvGspRadix3Levels fwimageSize
  let m := fillLevel m lvl2 dmaFwimage n2.toNat
  let m := fillLevel m lvl1 dmaLvl2 l2Pages.toNat
  return st64 m lvl0 dmaLvl1

/-! The arena of nv_dma.h. -/

structure NvDmaArena where
  va : UInt64
  dmaAddr : UInt64
  off : UInt64
  cap : UInt64
  deriving DecidableEq

/-- An allocation's address for the driver and for the GPU. -/
structure Area where
  va : UInt64
  io : UInt64
  deriving DecidableEq

def nvDmaAlloc (a : NvDmaArena) (sz : UInt64) : Option (Area × NvDmaArena) :=
  let o := a.off
  let next := (o + sz + 0xfff) &&& ~~~0xfff
  if next > a.cap then none else some (⟨a.va + o, a.dmaAddr + o⟩, { a with off := next })

structure Radix3Areas where
  fwimg : Area
  lvl2 : Area
  lvl1 : Area
  lvl0 : Area
  deriving DecidableEq

/-- The four allocations of the bring-up, in its order. -/
def radix3Areas (ar : NvDmaArena) (fwimageSize : UInt64) (l2p : UInt32) :
    Option (Radix3Areas × NvDmaArena) := do
  let (fwimg, ar) ← nvDmaAlloc ar fwimageSize
  let (lvl2, ar) ← nvDmaAlloc ar (l2p.toUInt64 * 0x1000)
  let (lvl1, ar) ← nvDmaAlloc ar 0x1000
  let (lvl0, ar) ← nvDmaAlloc ar 0x1000
  return (⟨fwimg, lvl2, lvl1, lvl0⟩, ar)

def clearTables (m : Mem) (l2p : UInt32) (areas : Radix3Areas) : Mem :=
  let m := clear m areas.lvl0.va.toNat 0x1000
  let m := clear m areas.lvl1.va.toNat 0x1000
  clear m areas.lvl2.va.toNat (l2p.toNat * 0x1000)

/-- The bring-up clears the tables and fills them. -/
def stageRadix3 (m : Mem) (fwimageSize : UInt64) (l2p : UInt32) (areas : Radix3Areas) :
    Except Int Mem :=
  nvGspRadix3Fill (clearTables m l2p areas) fwimageSize areas.lvl0.va.toNat areas.lvl1.va.toNat
    areas.lvl2.va.toNat areas.fwimg.io areas.lvl2.io areas.lvl1.io

/-! The GSP's lookup: 512 entries of eight bytes in a page, three levels. -/

def radix3Levels : List Level :=
  [ { shift := 30, fan := 512, locate := fun table i => table + 8 * i, decode := some },
    { shift := 21, fan := 512, locate := fun table i => table + 8 * i, decode := some },
    { shift := 12, fan := 512, locate := fun table i => table + 8 * i, decode := some } ]

/-- The arena's bytes at a bus address. -/
def busRead (ar : NvDmaArena) (m : Mem) (d : Nat) : Nat :=
  load m (ar.va.toNat + (d - ar.dmaAddr.toNat)) 8

def lookup (read : Nat → Nat) (root o : Nat) : Option Nat :=
  (walk read radix3Levels root o).map (· + o % 4096)

/-! The sizes. -/

def imagePages (size : Nat) : Nat := (size + 4095) / 4096

def tablePages (size : Nat) : Nat := (8 * imagePages size + 4095) / 4096

theorem levels_spec {size : UInt64} (small : size.toNat < 2 ^ 63) :
    (size.toNat = 0 ∧ nvGspRadix3Levels size = .error nvGspErrArg) ∨
    (2 ^ 30 < size.toNat ∧ nvGspRadix3Levels size = .error nvGspErrCap) ∨
    (0 < size.toNat ∧ size.toNat ≤ 2 ^ 30 ∧ tablePages size.toNat ≤ 512 ∧
      ∃ n2 l2p, nvGspRadix3Levels size = .ok (n2, l2p) ∧ n2.toNat = imagePages size.toNat ∧
        l2p.toNat = tablePages size.toNat) := by
  have page : nvGspPageSize.toNat = 4096 := rfl
  have entries : nvGspRadix3EntriesPerPage.toNat = 512 := rfl
  have eight : (8 : UInt64).toNat = 8 := rfl
  have one : (1 : UInt64).toNat = 1 := rfl
  have roundUp : ∀ x : UInt64, x.toNat + 4096 ≤ 2 ^ 64 →
      ((x + nvGspPageSize - 1) / nvGspPageSize).toNat = (x.toNat + 4095) / 4096 := by
    intro x fits
    have rearranged : x + nvGspPageSize - 1 = x + (nvGspPageSize - 1) := by
      rw [add_sub_assoc]
    have pred : (nvGspPageSize - 1).toNat = 4095 := by decide
    rw [UInt64.toNat_div, rearranged, add_toNat (by omega), pred, page]
  -- Eight bytes for each page of the image, and these again in pages.
  have pages := roundUp size (by omega)
  have bytes : ((size + nvGspPageSize - 1) / nvGspPageSize * 8).toNat =
      8 * imagePages size.toNat := by
    rw [mul_toNat (by rw [pages, eight]; omega), pages, eight, imagePages, Nat.mul_comm]
  have tables := roundUp ((size + nvGspPageSize - 1) / nvGspPageSize * 8)
    (by rw [bytes, imagePages]; omega)
  rw [bytes, ← tablePages] at tables
  rw [← imagePages] at pages
  rw [nvGspRadix3Levels]
  by_cases zero : size = 0
  · rw [if_pos zero]
    exact Or.inl ⟨by rw [zero, UInt64.toNat_zero], rfl⟩
  have positive := pos_toNat zero
  rw [if_neg zero]
  generalize (size + nvGspPageSize - 1) / nvGspPageSize = p at pages tables
  dsimp only
  generalize (p * 8 + nvGspPageSize - 1) / nvGspPageSize = t at tables
  -- 512 tables of 512 entries cover 2^30 bytes.
  have capacity : t > nvGspRadix3EntriesPerPage ↔ 2 ^ 30 < size.toNat := by
    rw [gt_iff_lt, UInt64.lt_iff_toNat_lt, tables, entries, tablePages, imagePages]
    omega
  by_cases large : t > nvGspRadix3EntriesPerPage
  · rw [if_pos large]
    exact Or.inr (Or.inl ⟨capacity.mp large, rfl⟩)
  · have fits : size.toNat ≤ 2 ^ 30 := by
      rw [capacity] at large
      omega
    have bound : tablePages size.toNat ≤ 512 ∧ imagePages size.toNat ≤ 2 ^ 18 := by
      simp only [tablePages, imagePages]
      omega
    rw [if_neg large]
    refine Or.inr (Or.inr ⟨positive, fits, bound.1, p.toUInt32, t.toUInt32, rfl, ?_, ?_⟩)
    · rw [UInt64.toNat_toUInt32, pages]
      omega
    · rw [UInt64.toNat_toUInt32, tables]
      omega

/-! One level, as the batch of its entries. -/

def levelEntries (table : Nat) (dma : UInt64) (count : Nat) : List (Nat × Nat) :=
  (List.range count).map fun i => (table + i * 8, (dma + UInt64.ofNat i * nvGspPageSize).toNat)

theorem fillLevel_entries (m : Mem) (table : Nat) (dma : UInt64) (count : Nat) :
    fillLevel m table dma count = storeEntries m (levelEntries table dma count) := by
  rw [storeEntries, levelEntries, List.foldl_map]
  simp only [fillLevel, st64_eq_store]

theorem level_inside {table count : Nat} {dma : UInt64} {entry : Nat × Nat}
    (member : entry ∈ levelEntries table dma count) :
    table ≤ entry.1 ∧ entry.1 + 8 ≤ table + 8 * count := by
  obtain ⟨i, inside, rfl⟩ := List.mem_map.mp member
  have below := List.mem_range.mp inside
  dsimp only
  omega

theorem level_miss (m : Mem) {table count a : Nat} {dma : UInt64}
    (apart : a + 8 ≤ table ∨ table + 8 * count ≤ a) :
    load (fillLevel m table dma count) a 8 = load m a 8 := by
  rw [fillLevel_entries]
  apply entries_miss
  intro entry member
  have inside := level_inside member
  omega

/-- The entries do not overlap, so each holds its own page. -/
theorem level_hit (m : Mem) {table count i : Nat} {dma : UInt64} (inside : i < count)
    (fits : dma.toNat + i * 4096 < 2 ^ 64) :
    load (fillLevel m table dma count) (table + 8 * i) 8 = dma.toNat + i * 4096 := by
  have page : nvGspPageSize.toNat = 4096 := rfl
  have index : (UInt64.ofNat i).toNat = i := ofNat_toNat (by omega)
  have offset : (UInt64.ofNat i * nvGspPageSize).toNat = i * 4096 := by
    rw [mul_toNat (by rw [index, page]; omega), index, page]
  have value : (dma + UInt64.ofNat i * nvGspPageSize).toNat = dma.toNat + i * 4096 := by
    rw [add_toNat (by rw [offset]; exact fits), offset]
  rw [fillLevel_entries, entries_hit m _ (table + 8 * i) (dma.toNat + i * 4096)]
  · exact Nat.mod_eq_of_lt fits
  · exact List.mem_map.mpr ⟨i, List.mem_range.mpr inside, by rw [value, Nat.mul_comm i 8]⟩
  · intro entry member
    obtain ⟨j, _, rfl⟩ := List.mem_map.mp member
    by_cases same : j = i
    · exact Or.inl (by rw [same, value, Nat.mul_comm i 8])
    · dsimp only
      omega

/-! The arena. -/

/-- The arena of a real buffer, and the part of it that is taken. -/
structure InArena (ar : NvDmaArena) : Prop where
  taken : ar.off.toNat ≤ ar.cap.toNat
  capacity : ar.cap.toNat ≤ 2 ^ 63
  vaFits : ar.va.toNat + ar.cap.toNat < 2 ^ 64
  dmaFits : ar.dmaAddr.toNat + ar.cap.toNat < 2 ^ 64

/-- What an allocation returns: the same part of the buffer twice, and the arena behind it. -/
structure Allocated (ar : NvDmaArena) (sz : Nat) (area : Area) (after : NvDmaArena) : Prop where
  va : area.va.toNat = ar.va.toNat + ar.off.toNat
  io : area.io.toNat = ar.dmaAddr.toNat + ar.off.toNat
  room : ar.off.toNat + sz ≤ after.off.toNat
  same : after.va = ar.va ∧ after.dmaAddr = ar.dmaAddr ∧ after.cap = ar.cap
  inside : InArena after

theorem dma_alloc_spec {ar after : NvDmaArena} {sz : UInt64} {area : Area} (arena : InArena ar)
    (small : sz.toNat ≤ 2 ^ 32) (allocated : nvDmaAlloc ar sz = some (area, after)) :
    Allocated ar sz.toNat area after := by
  obtain ⟨taken, capacity, vaFits, dmaFits⟩ := arena
  have mask : (0xfff : UInt64).toNat = 2 ^ 12 - 1 := rfl
  have sum := add_toNat (x := ar.off) (y := sz) (by omega)
  have total := add_toNat (x := ar.off + sz) (y := 0xfff) (by rw [sum, mask]; omega)
  have rounded := and_not_mask_toNat (ar.off + sz + 0xfff) mask
  rw [total, sum, mask] at rounded
  simp only [nvDmaAlloc] at allocated
  split at allocated
  · cases allocated
  rename_i room
  rw [gt_iff_lt, UInt64.not_lt, UInt64.le_iff_toNat_le, rounded] at room
  cases allocated
  refine ⟨add_toNat (by omega), add_toNat (by omega), ?_, ⟨rfl, rfl, rfl⟩,
    ⟨?_, capacity, vaFits, dmaFits⟩⟩
  · rw [rounded]
    omega
  · rw [rounded]
    exact room

/-- An area starts at an offset of the arena, for the driver and for the GPU. -/
def StartsAt (ar : NvDmaArena) (area : Area) (o : Nat) : Prop :=
  area.va.toNat = ar.va.toNat + o ∧ area.io.toNat = ar.dmaAddr.toNat + o

/-- The areas lie behind one another: the image, level 2, level 1, level 0. -/
structure Placed (ar : NvDmaArena) (size pages : Nat) (areas : Radix3Areas) (f t2 t1 t0 : Nat) :
    Prop where
  fwimg : StartsAt ar areas.fwimg f
  lvl2 : StartsAt ar areas.lvl2 t2
  lvl1 : StartsAt ar areas.lvl1 t1
  lvl0 : StartsAt ar areas.lvl0 t0
  image : f + size ≤ t2
  tables : t2 + 4096 * pages ≤ t1
  table : t1 + 4096 ≤ t0
  top : t0 + 4096 ≤ ar.cap.toNat

theorem areas_placed {ar after : NvDmaArena} {size : UInt64} {l2p : UInt32} {areas : Radix3Areas}
    (arena : InArena ar) (image : size.toNat ≤ 2 ^ 30) (few : l2p.toNat ≤ 512)
    (allocated : radix3Areas ar size l2p = some (areas, after)) :
    ∃ f t2 t1 t0, Placed ar size.toNat l2p.toNat areas f t2 t1 t0 := by
  have page : (0x1000 : UInt64).toNat = 4096 := rfl
  have tables : (l2p.toUInt64 * 0x1000).toNat = 4096 * l2p.toNat := by
    rw [mul_toNat (by rw [UInt32.toNat_toUInt64, page]; omega), UInt32.toNat_toUInt64, page,
      Nat.mul_comm]
  simp only [radix3Areas, Option.bind_eq_bind, Option.bind_eq_some_iff, Option.pure_def,
    Option.some.injEq, Prod.mk.injEq, Prod.exists] at allocated
  obtain ⟨fwimg, ar1, first, lvl2, ar2, second, lvl1, ar3, third, lvl0, ar4, fourth, rfl, rfl⟩ :=
    allocated
  obtain ⟨va1, io1, room1, ⟨sameVa1, sameIo1, sameCap1⟩, arena1⟩ :=
    dma_alloc_spec arena (by omega) first
  obtain ⟨va2, io2, room2, ⟨sameVa2, sameIo2, sameCap2⟩, arena2⟩ :=
    dma_alloc_spec arena1 (by omega) second
  obtain ⟨va3, io3, room3, ⟨sameVa3, sameIo3, sameCap3⟩, arena3⟩ :=
    dma_alloc_spec arena2 (by omega) third
  obtain ⟨va4, io4, room4, ⟨_, _, sameCap4⟩, arena4⟩ := dma_alloc_spec arena3 (by omega) fourth
  have taken := arena4.taken
  rw [tables] at room2
  rw [page] at room3 room4
  rw [sameVa1] at va2
  rw [sameIo1] at io2
  rw [sameVa2, sameVa1] at va3
  rw [sameIo2, sameIo1] at io3
  rw [sameVa3, sameVa2, sameVa1] at va4
  rw [sameIo3, sameIo2, sameIo1] at io4
  rw [sameCap4, sameCap3, sameCap2, sameCap1] at taken
  exact ⟨ar.off.toNat, ar1.off.toNat, ar2.off.toNat, ar3.off.toNat, ⟨va1, io1⟩, ⟨va2, io2⟩,
    ⟨va3, io3⟩, ⟨va4, io4⟩, room1, room2, room3, Nat.le_trans room4 taken⟩

/-! The filled tables. -/

section Fill

variable {size : UInt64} {n2 l2p : UInt32} {ar : NvDmaArena} {areas : Radix3Areas}

def filled (m : Mem) (areas : Radix3Areas) (n2 l2p : UInt32) : Mem :=
  st64 (fillLevel (fillLevel m areas.lvl2.va.toNat areas.fwimg.io n2.toNat)
    areas.lvl1.va.toNat areas.lvl2.io l2p.toNat) areas.lvl0.va.toNat areas.lvl1.io

theorem filled_entries (m : Mem) : filled m areas n2 l2p = storeEntries m
    (levelEntries areas.lvl2.va.toNat areas.fwimg.io n2.toNat ++
      levelEntries areas.lvl1.va.toNat areas.lvl2.io l2p.toNat ++
      [(areas.lvl0.va.toNat, areas.lvl1.io.toNat)]) := by
  rw [filled, fillLevel_entries, fillLevel_entries, st64_eq_store]
  simp only [storeEntries, List.foldl_append, List.foldl_cons, List.foldl_nil]

variable {f t2 t1 t0 : Nat} (arena : InArena ar)
  (placed : Placed ar size.toNat l2p.toNat areas f t2 t1 t0)
  (image : size.toNat ≤ 2 ^ 30) (pages : n2.toNat = imagePages size.toNat)
  (tables : l2p.toNat = tablePages size.toNat)
include arena placed image pages tables

/-- The walk follows level 0's entry, the entry of the offset's table and the entry of its page. -/
theorem filled_lookup (m : Mem) {o : Nat} (inside : o < size.toNat) :
    lookup (busRead ar (filled m areas n2 l2p)) areas.lvl0.io.toNat o =
      some (areas.fwimg.io.toNat + o) := by
  obtain ⟨⟨_, imageIo⟩, ⟨va2, io2⟩, ⟨va1, io1⟩, ⟨va0, io0⟩, above, below, next, top⟩ := placed
  have dmaFits := arena.dmaFits
  rw [imagePages] at pages
  rw [tablePages, imagePages] at tables
  -- The image is at most one entry of the root.
  have lvl0 : busRead ar (filled m areas n2 l2p) (areas.lvl0.io.toNat + 8 * (o / 2 ^ 30 % 512)) =
      areas.lvl1.io.toNat := by
    have root : o / 2 ^ 30 % 512 = 0 := by omega
    have back : ar.va.toNat + (areas.lvl0.io.toNat + 8 * 0 - ar.dmaAddr.toNat) =
        areas.lvl0.va.toNat := by omega
    rw [root, busRead, back, filled, st64_eq_store, load_store_same]
    omega
  have lvl1 : busRead ar (filled m areas n2 l2p) (areas.lvl1.io.toNat + 8 * (o / 2 ^ 21 % 512)) =
      areas.lvl2.io.toNat + o / 2 ^ 21 * 4096 := by
    have index : o / 2 ^ 21 % 512 = o / 2 ^ 21 := by omega
    have back : ar.va.toNat + (areas.lvl1.io.toNat + 8 * (o / 2 ^ 21) - ar.dmaAddr.toNat) =
        areas.lvl1.va.toNat + 8 * (o / 2 ^ 21) := by omega
    rw [index, busRead, back, filled, st64_eq_store, load_store_apart _ _ _ _ _ _ (by omega),
      level_hit _ (by omega) (by omega)]
  have lvl2 : busRead ar (filled m areas n2 l2p)
      (areas.lvl2.io.toNat + o / 2 ^ 21 * 4096 + 8 * (o / 2 ^ 12 % 512)) =
      areas.fwimg.io.toNat + o / 4096 * 4096 := by
    have back : ar.va.toNat + (areas.lvl2.io.toNat + o / 2 ^ 21 * 4096 + 8 * (o / 2 ^ 12 % 512) -
        ar.dmaAddr.toNat) = areas.lvl2.va.toNat + 8 * (o / 4096) := by omega
    rw [busRead, back, filled, st64_eq_store, load_store_apart _ _ _ _ _ _ (by omega),
      level_miss _ (by omega), level_hit _ (by omega) (by omega)]
  simp only [lookup, walk, radix3Levels, lvl0, lvl1, lvl2, Option.map_some]
  exact congrArg some (by omega)

end Fill

/-- The bytes of the three table areas. -/
def InTables (areas : Radix3Areas) (l2p : UInt32) (x : Nat) : Prop :=
  (areas.lvl2.va.toNat ≤ x ∧ x < areas.lvl2.va.toNat + l2p.toNat * 4096) ∨
    (areas.lvl1.va.toNat ≤ x ∧ x < areas.lvl1.va.toNat + 4096) ∨
    (areas.lvl0.va.toNat ≤ x ∧ x < areas.lvl0.va.toNat + 4096)

theorem entries_inTables {areas : Radix3Areas} {n2 l2p : UInt32}
    (pages : n2.toNat * 8 ≤ l2p.toNat * 4096) (few : l2p.toNat ≤ 512) {entry : Nat × Nat}
    (member : entry ∈ levelEntries areas.lvl2.va.toNat areas.fwimg.io n2.toNat ++
      levelEntries areas.lvl1.va.toNat areas.lvl2.io l2p.toNat ++
      [(areas.lvl0.va.toNat, areas.lvl1.io.toNat)]) :
    ∀ i < 8, InTables areas l2p (entry.1 + i) := by
  intro i byte
  rw [InTables]
  rcases List.mem_append.mp member with upper | root
  · rcases List.mem_append.mp upper with page | table
    · have inside := level_inside page
      omega
    · have inside := level_inside table
      omega
  · obtain rfl := List.mem_singleton.mp root
    dsimp only
    omega

/-- The bring-up's tables hold one entry for each page of the image, one for
each page of level 2, and the root, all within their areas; through them every
byte of the image is found. -/
theorem radix3_translates {size : UInt64} (small : size.toNat < 2 ^ 63) :
    ((∃ n2 l2p, nvGspRadix3Levels size = .ok (n2, l2p)) ↔
      0 < size.toNat ∧ size.toNat ≤ 2 ^ 30) ∧
    ∀ n2 l2p, nvGspRadix3Levels size = .ok (n2, l2p) →
      ∀ ar areas after, InArena ar → radix3Areas ar size l2p = some (areas, after) →
        ∀ m, ∃ staged, stageRadix3 m size l2p areas = .ok staged ∧
          (∃ pages tables root, staged = storeEntries (clearTables m l2p areas)
              (pages ++ tables ++ [root]) ∧
            pages = levelEntries areas.lvl2.va.toNat areas.fwimg.io (imagePages size.toNat) ∧
            tables = levelEntries areas.lvl1.va.toNat areas.lvl2.io (tablePages size.toNat) ∧
            root = (areas.lvl0.va.toNat, areas.lvl1.io.toNat) ∧
            tables.length ≤ 512 ∧
            ∀ entry ∈ pages ++ tables ++ [root], ∀ i < 8, InTables areas l2p (entry.1 + i)) ∧
          ∀ o < size.toNat, lookup (busRead ar staged) areas.lvl0.io.toNat o =
            some (areas.fwimg.io.toNat + o) := by
  rcases levels_spec small with ⟨zero, refused⟩ | ⟨large, refused⟩ | ⟨positive, fits, few, found⟩
  · rw [refused]
    refine ⟨⟨fun ⟨_, _, accepted⟩ => (by cases accepted), fun sized => ?_⟩, ?_⟩
    · omega
    · intro _ _ accepted
      cases accepted
  · rw [refused]
    refine ⟨⟨fun ⟨_, _, accepted⟩ => (by cases accepted), fun sized => ?_⟩, ?_⟩
    · omega
    · intro _ _ accepted
      cases accepted
  obtain ⟨n2, l2p, counted, pages, tables⟩ := found
  rw [counted]
  refine ⟨⟨fun _ => ⟨positive, fits⟩, fun _ => ⟨n2, l2p, rfl⟩⟩, ?_⟩
  intro n l same ar areas after arena allocated m
  cases same
  obtain ⟨f, t2, t1, t0, placed⟩ := areas_placed arena fits (by omega) allocated
  have staged : stageRadix3 m size l2p areas =
      .ok (filled (clearTables m l2p areas) areas n2 l2p) := by
    rw [stageRadix3, nvGspRadix3Fill, counted]
    rfl
  refine ⟨_, staged, ⟨_, _, _, filled_entries _, ?_, ?_, rfl, ?_, ?_⟩, fun o inside => ?_⟩
  · rw [pages]
  · rw [tables]
  · rw [levelEntries, List.length_map, List.length_range, tables]
    exact few
  · intro entry member
    refine entries_inTables ?_ (by omega) member
    rw [pages, tables, tablePages]
    omega
  · exact filled_lookup arena placed fits pages tables _ inside

/-- An arena of 64 MiB at bus address 4 GiB, an image of 36 MiB and one byte. -/
def freshArena : NvDmaArena := ⟨0xffffff8000000000, 0x100000000, 0x200000, 0x4000000⟩

def imageAreas : Radix3Areas :=
  ⟨⟨0xffffff8000200000, 0x100200000⟩, ⟨0xffffff8002601000, 0x102601000⟩,
    ⟨0xffffff8002614000, 0x102614000⟩, ⟨0xffffff8002615000, 0x102615000⟩⟩

theorem radix3_translates_arena :
    ∃ staged, stageRadix3 (fun _ => 0xff) 0x2400001 19 imageAreas = .ok staged ∧
      lookup (busRead freshArena staged) 0x102615000 0x2400000 = some (0x100200000 + 0x2400000) := by
  obtain ⟨_, tables⟩ := @radix3_translates 0x2400001 (by decide)
  have arena : InArena freshArena := ⟨by decide, by decide, by decide, by decide⟩
  obtain ⟨staged, filled, _, found⟩ := tables 9217 19 (by decide) freshArena imageAreas
    { freshArena with off := 0x2616000 } arena (by decide) fun _ => 0xff
  exact ⟨staged, filled, found 0x2400000 (by decide)⟩

end GspDriver.Radix3
