import GspDriver.GmmuPlan

/-!
The single-branch builders of gmmu.c: one table of each level, given by the
caller, and up to one leaf table of pages. They index, clear and encode on
their own; what they have in common with the planner's range is only the
hardware that walks the tables afterwards.
-/

namespace GspDriver.GmmuMap

open Bytes Loop Words Pramin Radix Gmmu GmmuRange GmmuBuild GmmuTranslate GmmuFrame GmmuPlan

structure NvGmmuTables where
  pd3Phys : UInt64
  pd2Phys : UInt64
  pd1Phys : UInt64
  pd0Phys : UInt64
  sptPhys : UInt64

def nvGmmuPd3Shift : UInt32 := 47
def nvGmmuPd2Shift : UInt32 := 38
def nvGmmuPd1Shift : UInt32 := 29
def nvGmmuSptShift : UInt32 := 12
def nvGmmuPd3Entries : UInt32 := (1 : UInt32) <<< 2
def nvGmmuPd2Entries : UInt32 := (1 : UInt32) <<< 9
def nvGmmuPd1Entries : UInt32 := (1 : UInt32) <<< 9
def nvGmmuPd0Entries : UInt32 := (1 : UInt32) <<< 8

def nvGmmuPdeIndex (va : UInt64) (levelShift entries : UInt32) : UInt32 :=
  ((va >>> levelShift.toUInt64) &&& (entries - 1).toUInt64).toUInt32

/-- The branch of PD3, PD2, PD1 and PD0. The large half of a PD0 entry is off. -/
def gmmuWritePdeChain (s : Aperture) (t : NvGmmuTables) (va : UInt64) : Aperture :=
  let i3 := nvGmmuPdeIndex va nvGmmuPd3Shift nvGmmuPd3Entries
  let s := nvPraminWr64 s (t.pd3Phys + i3.toUInt64 * nvGmmuPdeSize) (nvGmmuMakePdeVram t.pd2Phys)
  let i2 := nvGmmuPdeIndex va nvGmmuPd2Shift nvGmmuPd2Entries
  let s := nvPraminWr64 s (t.pd2Phys + i2.toUInt64 * nvGmmuPdeSize) (nvGmmuMakePdeVram t.pd1Phys)
  let i1 := nvGmmuPdeIndex va nvGmmuPd1Shift nvGmmuPd1Entries
  let s := nvPraminWr64 s (t.pd1Phys + i1.toUInt64 * nvGmmuPdeSize) (nvGmmuMakePdeVram t.pd0Phys)
  let i0 := nvGmmuPdeIndex va nvGmmuPd0Shift.toUInt32 nvGmmuPd0Entries
  let pd0e := t.pd0Phys + i0.toUInt64 * nvGmmuPd0eSize
  let s := nvPraminWr64 s pd0e 0
  nvPraminWr64 s (pd0e + nvGmmuPd0SmallOff) (nvGmmuMakePdeVram t.sptPhys)

/-- The five calls that both builders begin with. Only the used part of PD3 is cleared. -/
def zeroTables (s : Aperture) (t : NvGmmuTables) : Aperture :=
  let s := nvGmmuZeroTable s t.pd3Phys (nvGmmuPd3Entries * nvGmmuPdeSize.toUInt32)
  let s := nvGmmuZeroTable s t.pd2Phys (nvGmmuPd2Entries * nvGmmuPdeSize.toUInt32)
  let s := nvGmmuZeroTable s t.pd1Phys (nvGmmuPd1Entries * nvGmmuPdeSize.toUInt32)
  let s := nvGmmuZeroTable s t.pd0Phys (nvGmmuPd0Entries * nvGmmuPd0eSize.toUInt32)
  nvGmmuZeroTable s t.sptPhys (nvGmmuSptEntries.toUInt32 * nvGmmuPteSize.toUInt32)

def nvGmmuBuild1page (s : Aperture) (t : NvGmmuTables) (va pagePhys : UInt64) : Int × Aperture :=
  let s := zeroTables s t
  let s := gmmuWritePdeChain s t va
  let index := nvGmmuPdeIndex va nvGmmuSptShift nvGmmuSptEntries.toUInt32
  (0, nvPraminWr64 s (t.sptPhys + index.toUInt64 * nvGmmuPteSize)
    (nvGmmuMakePteVram pagePhys false false))

def nvGmmuMapRange (s : Aperture) (t : NvGmmuTables) (va pagePhys : UInt64) (npages : UInt32) :
    Int × Aperture :=
  let is0 := nvGmmuPdeIndex va nvGmmuSptShift nvGmmuSptEntries.toUInt32
  if is0.toUInt64 + npages.toUInt64 > nvGmmuSptEntries then (-1, s)
  else
    let s := zeroTables s t
    let s := gmmuWritePdeChain s t va
    let s := forCount npages.toNat (fun k s =>
      let pte := nvGmmuMakePteVram (pagePhys + UInt64.ofNat k * 0x1000) false false
      nvPraminWr64 s (t.sptPhys + (is0 + UInt32.ofNat k).toUInt64 * nvGmmuPteSize) pte) s
    (0, s)

/-! The branch as a batch of entries over cleared tables. -/

def tableAt (t : NvGmmuTables) (n : Nat) : Nat :=
  ([t.pd3Phys, t.pd2Phys, t.pd1Phys, t.pd0Phys, t.sptPhys].map UInt64.toNat).getD n 0

/-- Five pages that the caller set aside for the tables. -/
structure TablePages (t : NvGmmuTables) : Prop where
  page : ∀ n < 5, 4096 ∣ tableAt t n
  below : ∀ n < 5, tableAt t n < 2 ^ 40
  distinct : ∀ n < 5, ∀ k < 5, tableAt t n = tableAt t k → n = k

/-- The pages to map: in one leaf table, and within the reach of the window. -/
structure Mappable (va phys : UInt64) (npages : UInt32) : Prop where
  vaPage : 4096 ∣ va.toNat
  physPage : 4096 ∣ phys.toNat
  inside : va.toNat < 2 ^ 49
  some : 1 ≤ npages.toNat
  room : phys.toNat + 4096 * npages.toNat ≤ 2 ^ 40
  oneTable : va.toNat / 4096 % 512 + npages.toNat ≤ 512

def nodeAt (t : NvGmmuTables) (va phys n q : Nat) : Nat :=
  if n < 5 then tableAt t n else phys + 4096 * (q - va / 4096)

/-- The entry for prefix `q` of the level below `n`, and where it lies. -/
def slotEntry (t : NvGmmuTables) (va phys n q : Nat) : Nat × Nat :=
  (tableAt t n + slotOffset n (q % fanOf n),
    nodeAt t va phys (n + 1) q / 16 + if n = 4 then 1 else 2)

def chainEntries (t : NvGmmuTables) (va phys : Nat) : List (Nat × Nat) :=
  [slotEntry t va phys 0 (va / 2 ^ 47), slotEntry t va phys 1 (va / 2 ^ 38),
    slotEntry t va phys 2 (va / 2 ^ 29),
    (tableAt t 3 + 16 * (va / 2 ^ 21 % 256), 0), slotEntry t va phys 3 (va / 2 ^ 21)]

def pageEntries (t : NvGmmuTables) (va phys npages : Nat) : List (Nat × Nat) :=
  (List.range npages).map fun k => slotEntry t va phys 4 (va / 4096 + k)

def mapEntries (t : NvGmmuTables) (va phys npages : Nat) : List (Nat × Nat) :=
  chainEntries t va phys ++ pageEntries t va phys npages

def zeroed (m : Mem) (t : NvGmmuTables) : Mem :=
  clear (clear (clear (clear (clear m (tableAt t 0) 32) (tableAt t 1) 4096) (tableAt t 2) 4096)
    (tableAt t 3) 4096) (tableAt t 4) 4096

theorem zeroed_table {m : Mem} {t : NvGmmuTables} {n i : Nat} (level : n < 5)
    (inside : i < if n = 0 then 32 else 4096) : zeroed m t (tableAt t n + i) = 0 := by
  have bound : i < 4096 ∧ (n = 0 → i < 32) := by
    split at inside <;> omega
  simp only [zeroed, clear]
  interval_cases n <;> split_ifs <;> first | rfl | omega

section Writes

variable {s : Aperture} {regs : UInt32 → UInt32} {m : Mem}

theorem index_toNat (va : UInt64) {levelShift entries : UInt32} {k : Nat}
    (small : levelShift.toUInt64.toNat < 64) (mask : (entries - 1).toUInt64.toNat = 2 ^ k - 1)
    (width : k ≤ 32) :
    (nvGmmuPdeIndex va levelShift entries).toNat =
      va.toNat / 2 ^ levelShift.toUInt64.toNat % 2 ^ k := by
  have field := and_mask_toNat (va >>> levelShift.toUInt64) mask
  have bound := Nat.mod_lt (va.toNat / 2 ^ levelShift.toUInt64.toNat) (Nat.two_pow_pos k)
  have word : 2 ^ k ≤ 2 ^ 32 := Nat.pow_le_pow_right (by omega) width
  rw [nvGmmuPdeIndex, UInt64.toNat_toUInt32, field, shr_toNat small]
  exact Nat.mod_eq_of_lt (by omega)

variable {base : UInt64} (page : 4096 ∣ base.toNat) (below : base.toNat < 2 ^ 40)
include page below

theorem entry_tracks (tracks : Tracks s regs m) (index : UInt32) (value : UInt64)
    (inside : index.toNat < 512) :
    Tracks (nvPraminWr64 s (base + index.toUInt64 * nvGmmuPdeSize) value) regs
      (store m (base.toNat + 8 * index.toNat) 8 value.toNat) := by
  have size : nvGmmuPdeSize.toNat = 8 := by decide
  have number : index.toUInt64.toNat = index.toNat := UInt32.toNat_toUInt64 index
  have offset : (index.toUInt64 * nvGmmuPdeSize).toNat = 8 * index.toNat := by
    rw [mul_toNat (by rw [number, size]; omega), number, size, Nat.mul_comm]
  have place : (base + index.toUInt64 * nvGmmuPdeSize).toNat = base.toNat + 8 * index.toNat := by
    rw [add_toNat (by omega), offset]
  have written := wr64_tracks s regs m tracks (base + index.toUInt64 * nvGmmuPdeSize) value
    (by rw [reach]; omega)
  rwa [place] at written

theorem dual_tracks (tracks : Tracks s regs m) (index : UInt32) (value : UInt64)
    (inside : index.toNat < 256) :
    Tracks (nvPraminWr64 (nvPraminWr64 s (base + index.toUInt64 * nvGmmuPd0eSize) 0)
        (base + index.toUInt64 * nvGmmuPd0eSize + nvGmmuPd0SmallOff) value) regs
      (store (store m (base.toNat + 16 * index.toNat) 8 0)
        (base.toNat + (16 * index.toNat + 8)) 8 value.toNat) := by
  have size : nvGmmuPd0eSize.toNat = 16 := by decide
  have half : nvGmmuPd0SmallOff.toNat = 8 := by decide
  have number : index.toUInt64.toNat = index.toNat := UInt32.toNat_toUInt64 index
  have offset : (index.toUInt64 * nvGmmuPd0eSize).toNat = 16 * index.toNat := by
    rw [mul_toNat (by rw [number, size]; omega), number, size, Nat.mul_comm]
  have place : (base + index.toUInt64 * nvGmmuPd0eSize).toNat = base.toNat + 16 * index.toNat := by
    rw [add_toNat (by omega), offset]
  have small : (base + index.toUInt64 * nvGmmuPd0eSize + nvGmmuPd0SmallOff).toNat =
      base.toNat + (16 * index.toNat + 8) := by
    rw [add_toNat (by omega), place, half, Nat.add_assoc]
  have large := wr64_tracks s regs m tracks (base + index.toUInt64 * nvGmmuPd0eSize) 0
    (by rw [reach]; omega)
  have both := wr64_tracks _ regs _ large
    (base + index.toUInt64 * nvGmmuPd0eSize + nvGmmuPd0SmallOff) value (by rw [reach]; omega)
  rwa [place, small, UInt64.toNat_zero] at both

theorem zero_tracks (tracks : Tracks s regs m) (bytes : UInt32) (whole : 4 ∣ bytes.toNat)
    (few : bytes.toNat ≤ 4096) :
    Tracks (nvGmmuZeroTable s base bytes) regs (clear m base.toNat bytes.toNat) :=
  fill_tracks s regs m tracks base bytes whole (by rw [reach]; omega)

end Writes

section Map

variable {t : NvGmmuTables} (tables : TablePages t) {va phys : UInt64} {npages : UInt32}
  (mappable : Mappable va phys npages)
include tables

theorem zero_tables_track {s : Aperture} {regs : UInt32 → UInt32} {m : Mem}
    (tracks : Tracks s regs m) : Tracks (zeroTables s t) regs (zeroed m t) := by
  obtain ⟨page, below, _⟩ := tables
  have first := zero_tracks (page 0 (by omega)) (below 0 (by omega)) tracks
    (nvGmmuPd3Entries * nvGmmuPdeSize.toUInt32) (by decide) (by decide)
  have second := zero_tracks (page 1 (by omega)) (below 1 (by omega)) first
    (nvGmmuPd2Entries * nvGmmuPdeSize.toUInt32) (by decide) (by decide)
  have third := zero_tracks (page 2 (by omega)) (below 2 (by omega)) second
    (nvGmmuPd1Entries * nvGmmuPdeSize.toUInt32) (by decide) (by decide)
  have fourth := zero_tracks (page 3 (by omega)) (below 3 (by omega)) third
    (nvGmmuPd0Entries * nvGmmuPd0eSize.toUInt32) (by decide) (by decide)
  exact zero_tracks (page 4 (by omega)) (below 4 (by omega)) fourth
    (nvGmmuSptEntries.toUInt32 * nvGmmuPteSize.toUInt32) (by decide) (by decide)

theorem chain_tracks {s : Aperture} {regs : UInt32 → UInt32} {m : Mem} (tracks : Tracks s regs m) :
    Tracks (gmmuWritePdeChain s t va) regs
      (storeEntries m (chainEntries t va.toNat phys.toNat)) := by
  obtain ⟨page, below, _⟩ := tables
  have i3 : (nvGmmuPdeIndex va nvGmmuPd3Shift nvGmmuPd3Entries).toNat = va.toNat / 2 ^ 47 % 2 ^ 2 :=
    index_toNat va (by decide) (by decide) (by omega)
  have i2 : (nvGmmuPdeIndex va nvGmmuPd2Shift nvGmmuPd2Entries).toNat = va.toNat / 2 ^ 38 % 2 ^ 9 :=
    index_toNat va (by decide) (by decide) (by omega)
  have i1 : (nvGmmuPdeIndex va nvGmmuPd1Shift nvGmmuPd1Entries).toNat = va.toNat / 2 ^ 29 % 2 ^ 9 :=
    index_toNat va (by decide) (by decide) (by omega)
  have i0 : (nvGmmuPdeIndex va nvGmmuPd0Shift.toUInt32 nvGmmuPd0Entries).toNat =
      va.toNat / 2 ^ 21 % 2 ^ 8 := index_toNat va (by decide) (by decide) (by omega)
  have first := entry_tracks (page 0 (by omega)) (below 0 (by omega)) tracks
    (nvGmmuPdeIndex va nvGmmuPd3Shift nvGmmuPd3Entries)
    (nvGmmuMakePdeVram t.pd2Phys) (by omega)
  have second := entry_tracks (page 1 (by omega)) (below 1 (by omega)) first
    (nvGmmuPdeIndex va nvGmmuPd2Shift nvGmmuPd2Entries)
    (nvGmmuMakePdeVram t.pd1Phys) (by omega)
  have third := entry_tracks (page 2 (by omega)) (below 2 (by omega)) second
    (nvGmmuPdeIndex va nvGmmuPd1Shift nvGmmuPd1Entries)
    (nvGmmuMakePdeVram t.pd0Phys) (by omega)
  have fourth := dual_tracks (page 3 (by omega)) (below 3 (by omega)) third
    (nvGmmuPdeIndex va nvGmmuPd0Shift.toUInt32 nvGmmuPd0Entries)
    (nvGmmuMakePdeVram t.sptPhys) (by omega)
  rw [i3, i2, i1, i0, pde_toNat _ (page 1 (by omega)), pde_toNat _ (page 2 (by omega)),
    pde_toNat _ (page 3 (by omega)), pde_toNat _ (page 4 (by omega))] at fourth
  exact fourth

include mappable

theorem page_tracks {s : Aperture} {regs : UInt32 → UInt32} {m : Mem} (tracks : Tracks s regs m)
    {k : Nat} (below : k < npages.toNat) :
    Tracks (nvPraminWr64 s
        (t.sptPhys + (nvGmmuPdeIndex va nvGmmuSptShift nvGmmuSptEntries.toUInt32 +
          UInt32.ofNat k).toUInt64 * nvGmmuPteSize)
        (nvGmmuMakePteVram (phys + UInt64.ofNat k * 0x1000) false false)) regs
      (storeEntries m [slotEntry t va.toNat phys.toNat 4 (va.toNat / 4096 + k)]) := by
  obtain ⟨page, under, _⟩ := tables
  obtain ⟨_, physPage, _, _, room, oneTable⟩ := mappable
  have start : (nvGmmuPdeIndex va nvGmmuSptShift nvGmmuSptEntries.toUInt32).toNat =
      va.toNat / 2 ^ 12 % 2 ^ 9 := index_toNat va (by decide) (by decide) (by omega)
  have number : (UInt32.ofNat k).toNat = k := by
    rw [UInt32.toNat_ofNat']
    omega
  have index : (nvGmmuPdeIndex va nvGmmuSptShift nvGmmuSptEntries.toUInt32 +
      UInt32.ofNat k).toNat = (va.toNat / 4096 + k) % 512 := by
    rw [UInt32.toNat_add, start, number]
    omega
  have count : (UInt64.ofNat k).toNat = k := ofNat_toNat (by omega)
  have size : (0x1000 : UInt64).toNat = 4096 := by decide
  have offset : (UInt64.ofNat k * 0x1000).toNat = 4096 * k := by
    rw [mul_toNat (by rw [count, size]; omega), count, size, Nat.mul_comm]
  have target : (phys + UInt64.ofNat k * 0x1000).toNat = phys.toNat + 4096 * k := by
    rw [add_toNat (by omega), offset]
  have written := entry_tracks (page 4 (by omega)) (under 4 (by omega)) tracks
    (nvGmmuPdeIndex va nvGmmuSptShift nvGmmuSptEntries.toUInt32 + UInt32.ofNat k)
    (nvGmmuMakePteVram (phys + UInt64.ofNat k * 0x1000) false false) (by omega)
  have past : phys.toNat + 4096 * k =
      nodeAt t va.toNat phys.toNat 5 (va.toNat / 4096 + k) := by
    rw [nodeAt, if_neg (by omega), Nat.add_sub_cancel_left]
  rw [index, pte_toNat _ (by omega), target, past] at written
  exact written

/-- The guard passes, and the writes are the batch. -/
theorem map_tracks {s : Aperture} (coherent : Coherent s) :
    ∃ built, nvGmmuMapRange s t va phys npages = (0, built) ∧
      Tracks built s.io.regs
        (storeEntries (zeroed s.io.vram t) (mapEntries t va.toNat phys.toNat npages.toNat)) := by
  have start : (nvGmmuPdeIndex va nvGmmuSptShift nvGmmuSptEntries.toUInt32).toNat =
      va.toNat / 2 ^ 12 % 2 ^ 9 := index_toNat va (by decide) (by decide) (by omega)
  have most : nvGmmuSptEntries.toNat = 512 := by decide
  have oneTable := mappable.oneTable
  have passes : ¬ (nvGmmuPdeIndex va nvGmmuSptShift nvGmmuSptEntries.toUInt32).toUInt64 +
      npages.toUInt64 > nvGmmuSptEntries := by
    rw [gt_iff_lt, UInt64.not_lt, UInt64.le_iff_toNat_le, most, add_toNat, UInt32.toNat_toUInt64,
      UInt32.toNat_toUInt64, start]
    · omega
    · rw [UInt32.toNat_toUInt64, UInt32.toNat_toUInt64, start]
      omega
  simp only [nvGmmuMapRange, if_neg passes]
  refine ⟨_, rfl, ?_⟩
  -- The tables are cleared, the chain links them, and the loop writes the pages.
  have cleared := zero_tables_track tables (tracks_self coherent)
  have chained : Tracks (gmmuWritePdeChain (zeroTables s t) t va) s.io.regs
      (storeEntries (zeroed s.io.vram t) (chainEntries t va.toNat phys.toNat)) :=
    chain_tracks tables cleared
  have mapped := forCount_relation npages.toNat
    (fun k s => nvPraminWr64 s
      (t.sptPhys + (nvGmmuPdeIndex va nvGmmuSptShift nvGmmuSptEntries.toUInt32 +
        UInt32.ofNat k).toUInt64 * nvGmmuPteSize)
      (nvGmmuMakePteVram (phys + UInt64.ofNat k * 0x1000) false false))
    (fun k m => storeEntries m [slotEntry t va.toNat phys.toNat 4 (va.toNat / 4096 + k)]) _ _
    (fun state mem => Tracks state s.io.regs mem) chained
    (fun k below state mem pair => page_tracks tables mappable pair below)
  have batch : storeEntries (zeroed s.io.vram t) (mapEntries t va.toNat phys.toNat npages.toNat) =
      storeEntries (storeEntries (zeroed s.io.vram t) (chainEntries t va.toNat phys.toNat))
        (pageEntries t va.toNat phys.toNat npages.toNat) := List.foldl_append
  rw [batch, pageEntries, storeEntries_map]
  exact mapped

end Map

/-- One page is a range of one page. -/
theorem build_1page_eq (s : Aperture) (t : NvGmmuTables) (va pagePhys : UInt64) :
    nvGmmuBuild1page s t va pagePhys = nvGmmuMapRange s t va pagePhys 1 := by
  have start : (nvGmmuPdeIndex va nvGmmuSptShift nvGmmuSptEntries.toUInt32).toNat =
      va.toNat / 2 ^ 12 % 2 ^ 9 := index_toNat va (by decide) (by decide) (by omega)
  have most : nvGmmuSptEntries.toNat = 512 := by decide
  have one : (1 : UInt32).toUInt64.toNat = 1 := by decide
  have passes : ¬ (nvGmmuPdeIndex va nvGmmuSptShift nvGmmuSptEntries.toUInt32).toUInt64 +
      (1 : UInt32).toUInt64 > nvGmmuSptEntries := by
    rw [gt_iff_lt, UInt64.not_lt, UInt64.le_iff_toNat_le, most, add_toNat, UInt32.toNat_toUInt64,
      start, one]
    · omega
    · rw [UInt32.toNat_toUInt64, start, one]
      omega
  have once : (1 : UInt32).toNat = 0 + 1 := by decide
  simp only [nvGmmuMapRange, if_neg passes, once, forCount_succ, nvGmmuBuild1page]
  simp [forCount]

/-! The hardware over the batch. -/

section Walk

variable {t : NvGmmuTables} {va phys npages : Nat}

variable (vaPage : 4096 ∣ va) (some : 1 ≤ npages) (oneTable : va / 4096 % 512 + npages ≤ 512)
include vaPage some oneTable

/-- The pages share every table above them. -/
theorem one_shared (n q : Nat) (level : n < 5) :
    Meets va (va + 4096 * npages - 1) (shiftOf n) q ↔ q = va / 2 ^ shiftOf n := by
  have leaf : (va + 4096 * npages - 1) / 2 ^ 21 = va / 2 ^ 21 := by omega
  have wide := (shiftOf_bounds n level).1
  have scale : 2 ^ shiftOf n = 2 ^ 21 * 2 ^ (shiftOf n - 21) := by
    rw [← pow_add]
    congr 1
    omega
  have same : (va + 4096 * npages - 1) / 2 ^ shiftOf n = va / 2 ^ shiftOf n := by
    rw [scale, ← Nat.div_div_eq_div_mul, ← Nat.div_div_eq_div_mul, leaf]
  rw [Meets, same]
  omega

omit oneTable in
theorem page_shared (q : Nat) :
    Meets va (va + 4096 * npages - 1) (shiftOf 5) q ↔ ∃ k < npages, q = va / 4096 + k := by
  have page : shiftOf 5 = 12 := rfl
  have ends : (va + 4096 * npages - 1) / 2 ^ 12 = va / 4096 + npages - 1 := by omega
  rw [Meets, page, ends]
  constructor
  · rintro ⟨above, below⟩
    exact ⟨q - va / 4096, by omega, by omega⟩
  · rintro ⟨k, below, rfl⟩
    omega

theorem mem_mapEntries (entry : Nat × Nat) :
    entry ∈ mapEntries t va phys npages ↔
      (∃ n < 5, ∃ q, Meets va (va + 4096 * npages - 1) (shiftOf (n + 1)) q ∧
        entry = slotEntry t va phys n q) ∨
      entry = (tableAt t 3 + 16 * (va / 2 ^ 21 % 256), 0) := by
  have single := one_shared vaPage some oneTable
  have leaf : ∀ q, Meets va (va + 4096 * npages - 1) (shiftOf 5) q ↔
      ∃ k < npages, q = va / 4096 + k := page_shared vaPage some
  rw [mapEntries, List.mem_append]
  constructor
  · rintro (chain | page)
    · simp only [chainEntries, List.mem_cons, List.not_mem_nil, or_false] at chain
      rcases chain with rfl | rfl | rfl | rfl | rfl
      · exact Or.inl ⟨0, by omega, _, (single 1 _ (by omega)).mpr rfl, rfl⟩
      · exact Or.inl ⟨1, by omega, _, (single 2 _ (by omega)).mpr rfl, rfl⟩
      · exact Or.inl ⟨2, by omega, _, (single 3 _ (by omega)).mpr rfl, rfl⟩
      · exact Or.inr rfl
      · exact Or.inl ⟨3, by omega, _, (single 4 _ (by omega)).mpr rfl, rfl⟩
    · obtain ⟨k, below, rfl⟩ := List.mem_map.mp page
      exact Or.inl ⟨4, by omega, _, (leaf _).mpr ⟨k, List.mem_range.mp below, rfl⟩, rfl⟩
  · rintro (⟨n, level, q, meets, rfl⟩ | rfl)
    · by_cases last : n = 4
      · subst n
        obtain ⟨k, below, rfl⟩ := (leaf q).mp meets
        exact Or.inr (List.mem_map.mpr ⟨k, List.mem_range.mpr below, rfl⟩)
      · obtain rfl := (single (n + 1) q (by omega)).mp meets
        left
        interval_cases n <;> simp [chainEntries, shiftOf] at last ⊢
    · left
      simp [chainEntries]

variable (tables : TablePages t)
include tables

/-- Entries of the branch that are read do not overlap, nor do they overlap the
large half that PD0 keeps off. -/
theorem slot_apart {n k q p : Nat} (left : n < 5) (right : k < 5)
    (leftMeets : Meets va (va + 4096 * npages - 1) (shiftOf n) (q / fanOf n))
    (rightMeets : Meets va (va + 4096 * npages - 1) (shiftOf k) (p / fanOf k))
    (distinct : ¬ (n = k ∧ q = p)) :
    (slotEntry t va phys n q).1 + 8 ≤ (slotEntry t va phys k p).1 ∨
      (slotEntry t va phys k p).1 + 8 ≤ (slotEntry t va phys n q).1 := by
  have leftSlot : slotOffset n (q % fanOf n) + 8 ≤ 4096 :=
    slotOffset_bound left (Nat.mod_lt q (fanOf_pos left))
  have rightSlot : slotOffset k (p % fanOf k) + 8 ≤ 4096 :=
    slotOffset_bound right (Nat.mod_lt p (fanOf_pos right))
  simp only [slotEntry]
  -- One table holds a number once; tables of two levels are two pages.
  by_cases same : n = k
  · subst k
    have leftParent := (one_shared vaPage some oneTable n _ left).mp leftMeets
    have rightParent := (one_shared vaPage some oneTable n _ left).mp rightMeets
    have indices : q % fanOf n ≠ p % fanOf n := by
      intro equal
      have leftWhole := Nat.div_add_mod q (fanOf n)
      have rightWhole := Nat.div_add_mod p (fanOf n)
      rw [leftParent, equal, ← rightParent] at leftWhole
      exact distinct ⟨rfl, leftWhole.symm.trans rightWhole⟩
    have slots := slotOffset_apart (n := n) indices
    omega
  · have pages := mt (tables.distinct n left k right) same
    have leftPage := tables.page n left
    have rightPage := tables.page k right
    omega

omit vaPage some oneTable in
theorem half_apart {n q : Nat} (level : n < 5) :
    (slotEntry t va phys n q).1 + 8 ≤ tableAt t 3 + 16 * (va / 2 ^ 21 % 256) ∨
      tableAt t 3 + 16 * (va / 2 ^ 21 % 256) + 8 ≤ (slotEntry t va phys n q).1 := by
  have inner : slotOffset n (q % fanOf n) + 8 ≤ 4096 :=
    slotOffset_bound level (Nat.mod_lt q (fanOf_pos level))
  simp only [slotEntry]
  by_cases dual : n = 3
  · subst n
    simp only [slotOffset, ↓reduceIte]
    omega
  · have pages := mt (tables.distinct n level 3 (by omega)) dual
    have page := tables.page n level
    have dualPage := tables.page 3 (by omega)
    omega

theorem slot_value (m : Mem) {n q : Nat} (level : n < 5)
    (meets : Meets va (va + 4096 * npages - 1) (shiftOf n) (q / fanOf n)) :
    load (storeEntries (zeroed m t) (mapEntries t va phys npages))
        (tableAt t n + slotOffset n (q % fanOf n)) 8 =
      if Meets va (va + 4096 * npages - 1) (shiftOf (n + 1)) q then
        (slotEntry t va phys n q).2 % 256 ^ 8
      else 0 := by
  have members := @mem_mapEntries t va phys npages vaPage some oneTable
  apply entries_value
  · exact fun child => (members _).mpr (Or.inl ⟨n, level, q, child, rfl⟩)
  · intro entry member
    rcases (members entry).mp member with ⟨k, under, p, child, rfl⟩ | rfl
    -- The batch stores a slot at most once, and the dual entry's second half beside all slots.
    · by_cases same : n = k ∧ q = p
      · obtain ⟨rfl, rfl⟩ := same
        exact Or.inl ⟨child, rfl⟩
      · exact Or.inr (slot_apart vaPage some oneTable tables level under meets
          (meets_parent (scale k under) child) same)
    · exact Or.inr (@half_apart t va phys tables n q level)
  · intro i inside
    have index := Nat.mod_lt q (fanOf_pos level)
    rw [Nat.add_assoc]
    apply zeroed_table level
    have bound := slotOffset_bound level index
    split
    · subst n
      simp only [slotOffset, fanOf] at index ⊢
      simp at index ⊢
      omega
    · omega

theorem slot_linked (m : Mem) (physPage : 4096 ∣ phys) (room : phys + 4096 * npages ≤ 2 ^ 40)
    (n : Nat) (level : n < 5) (q : Nat)
    (meets : Meets va (va + 4096 * npages - 1) (shiftOf n) (q / fanOf n)) :
    targetOf n (load (storeEntries (zeroed m t) (mapEntries t va phys npages))
        (nodeAt t va phys n (q / fanOf n) + slotOffset n (q % fanOf n)) 8) =
      if Meets va (va + 4096 * npages - 1) (shiftOf (n + 1)) q then
        Option.some (nodeAt t va phys (n + 1) q)
      else none := by
  rw [nodeAt, if_pos level, slot_value vaPage some oneTable tables m level meets]
  by_cases child : Meets va (va + 4096 * npages - 1) (shiftOf (n + 1)) q
  · rw [if_pos child, if_pos child]
    apply target_page
    · rw [nodeAt]
      split
      · exact tables.page _ ‹_›
      · exact Nat.dvd_add physPage (Nat.dvd_mul_right _ _)
    · rw [nodeAt, reach]
      split
      · have page := tables.page (n + 1) ‹_›
        have below := tables.below (n + 1) ‹_›
        omega
      · obtain rfl : n = 4 := by omega
        obtain ⟨k, under, rfl⟩ := (page_shared vaPage some q).mp child
        omega
  · rw [if_neg child, if_neg child, target_zero]

theorem branch_linked (m : Mem) (physPage : 4096 ∣ phys) (room : phys + 4096 * npages ≤ 2 ^ 40) :
    Linked va (va + 4096 * npages - 1)
      (fun place => load (storeEntries (zeroed m t) (mapEntries t va phys npages)) place 8)
      (nodeAt t va phys) 0 (shiftOf 0) gmmuLevels := by
  have linked := slot_linked vaPage some oneTable tables m physPage room
  rw [gmmuLevels_eq]
  refine ⟨scale 0 (by omega), linked 0 (by omega), ?_⟩
  refine ⟨scale 1 (by omega), linked 1 (by omega), ?_⟩
  refine ⟨scale 2 (by omega), linked 2 (by omega), ?_⟩
  refine ⟨scale 3 (by omega), linked 3 (by omega), ?_⟩
  exact ⟨scale 4 (by omega), linked 4 (by omega), trivial⟩

end Walk

/-- The range, and nothing but the range, is mapped. -/
theorem map_translates {t : NvGmmuTables} (tables : TablePages t) {va phys : UInt64}
    {npages : UInt32} (mappable : Mappable va phys npages) {s : Aperture} (coherent : Coherent s) :
    ∃ built, nvGmmuMapRange s t va phys npages = (0, built) ∧
      ∀ a < 2 ^ 49, translate built.io.vram t.pd3Phys.toNat a =
        if va.toNat ≤ a ∧ a < va.toNat + 4096 * npages.toNat then
          some (phys.toNat + (a - va.toNat))
        else none := by
  obtain ⟨built, returned, tracks⟩ := map_tracks tables mappable coherent
  obtain ⟨vaPage, physPage, inside, positive, room, oneTable⟩ := mappable
  refine ⟨built, returned, ?_⟩
  have linked := branch_linked vaPage positive oneTable tables s.io.vram physPage room
  rw [← tracks.vram_eq] at linked
  have walk := linked_translates vaPage (Nat.dvd_mul_right 4096 npages.toNat) (by omega) (by omega)
    linked (fun q => if_neg (by decide))
  exact walk

/-- The planner asks one table of each level for such a range. -/
theorem branch_tables {va npages : Nat} (vaPage : 4096 ∣ va) (some : 1 ≤ npages)
    (oneTable : va / 4096 % 512 + npages ≤ 512) : touchedBytes va (4096 * npages) = 0x5000 := by
  have single : ∀ n < 5, (touched va (4096 * npages) n).card = 1 := by
    intro n level
    have ends : (va + 4096 * npages - 1) / 2 ^ shiftOf n = va / 2 ^ shiftOf n :=
      (one_shared vaPage some oneTable n _ level).mp
        (meets_of_mem _ ⟨by omega, Nat.le_refl _⟩)
    rw [touched_eq (by omega), ends, Finset.Icc_self, Finset.card_singleton]
  have sum : touchedBytes va (4096 * npages) = ∑ _n ∈ Finset.range 5, 4096 :=
    Finset.sum_congr rfl fun n member => by rw [single n (Finset.mem_range.mp member)]
  rw [sum, Finset.sum_const, Finset.card_range]
  rfl

/-- For five pages set aside by the caller, or an arena of five pages given to
the planner, the hardware finds the same translation of every address. -/
theorem builders_agree (va phys tablePhys capacity : UInt64) (npages : UInt32) (t : NvGmmuTables)
    (s other : Aperture) (coherent : Coherent s) (otherCoherent : Coherent other)
    (mappable : Mappable va phys npages) (tables : TablePages t)
    (arenaPage : 4096 ∣ tablePhys.toNat) (arenaRoom : tablePhys.toNat + 0x5000 ≤ 2 ^ 40)
    (apart : phys.toNat + 4096 * npages.toNat ≤ tablePhys.toNat ∨
      tablePhys.toNat + 0x5000 ≤ phys.toNat)
    (enough : 0x5000 ≤ capacity.toNat) :
    ∃ r planned mapped,
      nvGmmuRangePlan va (npages.toUInt64 * 0x1000) tablePhys capacity = (0, r) ∧
      nvGmmuRangeBuild other r phys = (0, planned) ∧
      nvGmmuMapRange s t va phys npages = (0, mapped) ∧
      (npages = 1 → nvGmmuBuild1page s t va phys = (0, mapped)) ∧
      ∀ a < 2 ^ 49, translate mapped.io.vram t.pd3Phys.toNat a =
        translate planned.io.vram (r.levelPhys 0).toNat a := by
  obtain ⟨mapped, returned, walked⟩ := map_translates tables mappable coherent
  obtain ⟨vaPage, physPage, inside, positive, room, oneTable⟩ := mappable
  have page : (0x1000 : UInt64).toNat = 4096 := by decide
  have count : npages.toUInt64.toNat = npages.toNat := UInt32.toNat_toUInt64 npages
  have size : (npages.toUInt64 * 0x1000).toNat = 4096 * npages.toNat := by
    rw [mul_toNat (by rw [count, page]; omega), count, page, Nat.mul_comm]
  have total := branch_tables vaPage positive oneTable
  -- The planner's own conditions follow from the range and the arena.
  have plannable : Plannable va.toNat (npages.toUInt64 * 0x1000).toNat tablePhys.toNat := by
    rw [size]
    exact ⟨by omega, vaPage, Nat.dvd_mul_right _ _, arenaPage, by omega, by omega,
      by rw [total]; omega⟩
  rcases plan_decides va (npages.toUInt64 * 0x1000) tablePhys with
    ⟨_, r, exact, planned, plans⟩ | ⟨refused, _⟩
  · have tableBytes : r.tableBytes.toNat = 0x5000 := by rw [exact.total, size, total]
    have rangeBytes : r.bytes.toNat = 4096 * npages.toNat := by rw [exact.bytes_eq, size]
    have sufficient : ¬ capacity < r.tableBytes := by
      rw [UInt64.lt_iff_toNat_lt]
      omega
    have placed : Placed r phys := by
      constructor
      · exact physPage
      · rw [rangeBytes, reach]
        exact room
      · rw [rangeBytes, tableBytes, exact.arena_eq]
        exact apart
    have plan := plans capacity
    rw [if_neg sufficient] at plan
    have accepted := (build_accepts planned other phys).mpr placed
    have built : nvGmmuRangeBuild other r phys = (0, (nvGmmuRangeBuild other r phys).2) :=
      Prod.ext accepted rfl
    refine ⟨r, _, mapped, plan, built, returned, ?_, ?_⟩
    · rintro rfl
      rw [build_1page_eq, returned]
    · intro a addressable
      rw [walked a addressable, built_translates planned otherCoherent built a addressable,
        exact.va_eq, rangeBytes]
  · exact absurd plannable refused

/-- Two pages below the 2 MiB boundary, tables above the data and in no order. -/
theorem builders_agree_two :
    ∃ r planned mapped,
      nvGmmuRangePlan 0x1fe000 0x2000 0x200000 0x5000 = (0, r) ∧
      nvGmmuRangeBuild blankAperture r 0x180000000 = (0, planned) ∧
      nvGmmuMapRange blankAperture ⟨0x305000, 0x301000, 0x304000, 0x302000, 0x303000⟩
        0x1fe000 0x180000000 2 = (0, mapped) ∧
      ((2 : UInt32) = 1 → nvGmmuBuild1page blankAperture
        ⟨0x305000, 0x301000, 0x304000, 0x302000, 0x303000⟩ 0x1fe000 0x180000000 = (0, mapped)) ∧
      ∀ a < 2 ^ 49, translate mapped.io.vram 0x305000 a =
        translate planned.io.vram (r.levelPhys 0).toNat a :=
  builders_agree 0x1fe000 0x180000000 0x200000 0x5000 2
    ⟨0x305000, 0x301000, 0x304000, 0x302000, 0x303000⟩ blankAperture blankAperture
    (Or.inl rfl) (Or.inl rfl)
    ⟨by decide, by decide, by decide, by decide, by decide, by decide⟩
    ⟨by decide, by decide, by decide⟩ (by decide) (by decide) (by decide) (by decide)

end GspDriver.GmmuMap
