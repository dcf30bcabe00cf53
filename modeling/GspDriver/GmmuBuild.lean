import GspDriver.GmmuRange

/-!
Construction of a planned range as one batch of entries. The entry for prefix
`q` in the level above it sits in the table of `q`'s own prefix; distinct
entries never overlap, so the order in which the driver writes them, level by
level through a sliding window, does not matter.
-/

namespace GspDriver.GmmuBuild

open Bytes LittleEndian Loop Words Pramin Radix Gmmu GmmuRange

def table (r : NvGmmuRange) (n p : Nat) : Nat :=
  r.tablePhys.toNat +
    4096 * (before (low r) (high r) n + (p - first (low r) (shiftOf n)))

/-- The table of level `n` for prefix `q`, or past the last level its page. -/
def node (r : NvGmmuRange) (phys : UInt64) (n q : Nat) : Nat :=
  if n < 5 then table r n q else phys.toNat + 4096 * (q - first (low r) 12)

def entryAt (r : NvGmmuRange) (n q : Nat) : Nat :=
  table r n (q / fanOf n) + slotOffset n (q % fanOf n)

def valueAt (r : NvGmmuRange) (phys : UInt64) (n q : Nat) : Nat :=
  node r phys (n + 1) q / 16 + if n = 4 then 1 else 2

def levelEntries (r : NvGmmuRange) (phys : UInt64) (n : Nat) : List (Nat × Nat) :=
  (List.range (span (low r) (high r) (shiftOf (n + 1)))).map fun i =>
    (entryAt r n (first (low r) (shiftOf (n + 1)) + i),
      valueAt r phys n (first (low r) (shiftOf (n + 1)) + i))

def entries (r : NvGmmuRange) (phys : UInt64) : List (Nat × Nat) :=
  (List.range 5).flatMap (levelEntries r phys)

/-! Placement of the entries. -/

section Placement

variable {r : NvGmmuRange} (planned : Planned r)
include planned

theorem low_le_high : low r ≤ high r := by
  have := planned.nonempty
  simp only [low, high]
  omega

theorem high_lt : high r < 2 ^ 49 := by
  have := planned.inside
  have := planned.nonempty
  simp only [high]
  omega

theorem table_place {n p : Nat} (level : n < 5)
    (meets : Meets (low r) (high r) (shiftOf n) p) :
    r.tablePhys.toNat ≤ table r n p ∧
      table r n p + 4096 ≤ r.tablePhys.toNat + r.tableBytes.toNat := by
  have within : before (low r) (high r) (n + 1) ≤ before (low r) (high r) 5 :=
    before_mono level
  obtain ⟨i, below, shape⟩ := (meets_iff_offset (low_le_high planned)).mp meets
  rw [before] at within
  rw [table, planned.total, shape]
  omega

theorem table_page (n p : Nat) : 4096 ∣ table r n p :=
  Nat.dvd_add planned.arenaPage (Nat.dvd_mul_right _ _)

theorem node_page {phys : UInt64} (physPage : 2 ^ 12 ∣ phys.toNat) (n q : Nat) :
    4096 ∣ node r phys n q := by
  rw [node]
  split
  · exact table_page planned n q
  · exact Nat.dvd_add physPage (Nat.dvd_mul_right _ _)

theorem page_span : span (low r) (high r) 12 * 4096 = r.bytes.toNat := by
  obtain ⟨v, vaShape⟩ := planned.vaPage
  obtain ⟨b, bytesShape⟩ := planned.bytesPage
  have := planned.nonempty
  have lowest : low r / 2 ^ 12 = v := by
    simp only [low]
    omega
  have highest : high r / 2 ^ 12 = v + b - 1 := by
    simp only [high]
    omega
  rw [span, lowest, highest]
  omega

theorem page_first : first (low r) 12 * 4096 = r.va.toNat := by
  obtain ⟨v, vaShape⟩ := planned.vaPage
  rw [first, low]
  omega

theorem node_bound {phys : UInt64} (room : phys.toNat + r.bytes.toNat ≤ reach) {n q : Nat}
    (level : n ≤ 5) (meets : Meets (low r) (high r) (shiftOf n) q) :
    node r phys n q + 4096 ≤ reach := by
  rw [node]
  split
  · rename_i below
    have place := table_place planned below meets
    have := planned.fits
    omega
  · obtain rfl : n = 5 := by omega
    obtain ⟨i, below, shape⟩ := (meets_iff_offset (low_le_high planned)).mp meets
    have pages := page_span planned
    change i < span (low r) (high r) 12 at below
    change q = first (low r) 12 + i at shape
    omega

omit planned in
theorem fanOf_pos {n : Nat} (level : n < 5) : 0 < fanOf n := by
  obtain ⟨k, shape, _⟩ := fanOf_pow n level
  rw [shape]
  exact Nat.two_pow_pos k

omit planned in
theorem slotOffset_bound {n index : Nat} (level : n < 5) (inside : index < fanOf n) :
    slotOffset n index + 8 ≤ 4096 := by
  interval_cases n <;> simp [fanOf, slotOffset] at * <;> omega

omit planned in
theorem slotOffset_apart {n i j : Nat} (distinct : i ≠ j) :
    slotOffset n i + 8 ≤ slotOffset n j ∨ slotOffset n j + 8 ≤ slotOffset n i := by
  simp only [slotOffset]
  split <;> omega

theorem entry_place {n q : Nat} (level : n < 5)
    (meets : Meets (low r) (high r) (shiftOf n) (q / fanOf n)) :
    r.tablePhys.toNat ≤ entryAt r n q ∧
      entryAt r n q + 8 ≤ r.tablePhys.toNat + r.tableBytes.toNat := by
  have place := table_place planned level meets
  have inner : slotOffset n (q % fanOf n) + 8 ≤ 4096 :=
    slotOffset_bound level (Nat.mod_lt q (fanOf_pos level))
  rw [entryAt]
  omega

/-- Entries of distinct tables lie in distinct pages of the arena, and entries
of one table at distinct offsets. -/
theorem entry_apart {n m q p : Nat} (left : n < 5) (right : m < 5)
    (leftMeets : Meets (low r) (high r) (shiftOf n) (q / fanOf n))
    (rightMeets : Meets (low r) (high r) (shiftOf m) (p / fanOf m))
    (distinct : ¬ (n = m ∧ q = p)) :
    entryAt r n q + 8 ≤ entryAt r m p ∨ entryAt r m p + 8 ≤ entryAt r n q := by
  have ordered := low_le_high planned
  obtain ⟨i, below, leftShape⟩ := (meets_iff_offset ordered).mp leftMeets
  obtain ⟨j, under, rightShape⟩ := (meets_iff_offset ordered).mp rightMeets
  have leftSlot : slotOffset n (q % fanOf n) + 8 ≤ 4096 :=
    slotOffset_bound left (Nat.mod_lt q (fanOf_pos left))
  have rightSlot : slotOffset m (p % fanOf m) + 8 ≤ 4096 :=
    slotOffset_bound right (Nat.mod_lt p (fanOf_pos right))
  by_cases same : before (low r) (high r) n + i = before (low r) (high r) m + j
  · obtain ⟨rfl, rfl⟩ := place_inj below under same
    have parents : q / fanOf n = p / fanOf n := by rw [leftShape, rightShape]
    have indices : q % fanOf n ≠ p % fanOf n := by
      intro equal
      have leftWhole := Nat.div_add_mod q (fanOf n)
      have rightWhole := Nat.div_add_mod p (fanOf n)
      rw [parents, equal] at leftWhole
      exact distinct ⟨rfl, leftWhole.symm.trans rightWhole⟩
    have slots := slotOffset_apart (n := n) indices
    rw [entryAt, entryAt, parents]
    omega
  · rw [entryAt, entryAt, table, table, leftShape, rightShape]
    omega

theorem mem_entries (phys : UInt64) (entry : Nat × Nat) :
    entry ∈ entries r phys ↔ ∃ n < 5, ∃ q, Meets (low r) (high r) (shiftOf (n + 1)) q ∧
      entry = (entryAt r n q, valueAt r phys n q) := by
  simp only [entries, levelEntries, List.mem_flatMap, List.mem_range, List.mem_map]
  constructor
  · rintro ⟨n, level, i, below, rfl⟩
    exact ⟨n, level, _, (meets_iff_offset (low_le_high planned)).mpr ⟨i, below, rfl⟩, rfl⟩
  · rintro ⟨n, level, q, meets, rfl⟩
    obtain ⟨i, below, rfl⟩ := (meets_iff_offset (low_le_high planned)).mp meets
    exact ⟨n, level, i, below, rfl⟩

/-- What the finished arena holds in any entry of any of its tables. -/
theorem entry_value (phys : UInt64) (m : Mem) {n q : Nat} (level : n < 5)
    (meets : Meets (low r) (high r) (shiftOf n) (q / fanOf n)) :
    load (storeEntries (clear m r.tablePhys.toNat r.tableBytes.toNat) (entries r phys))
        (entryAt r n q) 8 =
      if Meets (low r) (high r) (shiftOf (n + 1)) q then valueAt r phys n q % 256 ^ 8 else 0 := by
  have others : ∀ entry ∈ entries r phys,
      (Meets (low r) (high r) (shiftOf (n + 1)) q ∧
        entry = (entryAt r n q, valueAt r phys n q)) ∨
      entryAt r n q + 8 ≤ entry.1 ∨ entry.1 + 8 ≤ entryAt r n q := by
    intro entry member
    obtain ⟨k, under, p, child, rfl⟩ := (mem_entries planned phys entry).mp member
    by_cases same : n = k ∧ q = p
    · obtain ⟨rfl, rfl⟩ := same
      exact Or.inl ⟨child, rfl⟩
    · exact Or.inr (entry_apart planned level under meets
        (meets_parent (scale k under) child) same)
  apply entries_value _ _ _ _ _ _ others
  · intro i inside
    have place := entry_place planned level meets
    exact clear_inside _ _ _ _ (by omega)
  · exact fun child => (mem_entries planned phys _).mpr ⟨n, level, q, child, rfl⟩

end Placement

/-! The driver's three loops write exactly this batch over the cleared arena. -/

theorem pde_toNat (pt : UInt64) (aligned : 4096 ∣ pt.toNat) :
    (nvGmmuMakePdeVram pt).toNat = pt.toNat / 16 + 2 := by
  have shifted : (pt >>> nvGmmuPdeAddrShift).toNat = pt.toNat / 16 := shr_toNat (by decide)
  have flag : nvGmmuPdeApertureVidmem.toNat = 2 := by decide
  rw [nvGmmuMakePdeVram, or_toNat (k := 2) (by rw [shifted]; omega) (by rw [flag]; omega),
    shifted, flag]

theorem pte_toNat (phys : UInt64) (aligned : 4096 ∣ phys.toNat) :
    (nvGmmuMakePteVram phys false false).toNat = phys.toNat / 16 + 1 := by
  have shifted : (phys >>> nvGmmuPteAddrShift).toNat = phys.toNat / 16 := shr_toNat (by decide)
  have flag : nvGmmuPteValid.toNat = 1 := by decide
  simp only [nvGmmuMakePteVram, Bool.false_eq_true, ↓reduceIte]
  rw [or_toNat (k := 2) (by rw [shifted]; omega) (by rw [flag]; omega), shifted, flag]

theorem storeEntries_map (m : Mem) (count : Nat) (entry : Nat → Nat × Nat) :
    storeEntries m ((List.range count).map entry) =
      forCount count (fun i m => store m (entry i).1 8 (entry i).2) m :=
  List.foldl_map

section Writes

variable {r : NvGmmuRange} (planned : Planned r) {s : Aperture} {regs : UInt32 → UInt32} {m : Mem}
include planned

theorem clear_arena (tracks : Tracks s regs m) :
    Tracks (forStep r.tableBytes.toNat 0x1000 (fun offset s =>
        nvGmmuZeroTable s (r.tablePhys + UInt64.ofNat offset) 0x1000) s) regs
      (clear m r.tablePhys.toNat r.tableBytes.toNat) := by
  have total := planned.total
  have fits := planned.fits
  simp only [reach] at fits
  have count : (r.tableBytes.toNat + 0x1000 - 1) / 0x1000 = before (low r) (high r) 5 := by
    omega
  rw [forStep, count, total]
  apply forCount_invariant _ _ _ fun k s =>
    Tracks s regs (clear m r.tablePhys.toNat (4096 * k))
  · have empty : clear m r.tablePhys.toNat (4096 * 0) = m := by
      funext x
      exact clear_outside m _ 0 x (by omega)
    rwa [empty]
  · intro k below state reached
    have offset : (UInt64.ofNat (k * 0x1000)).toNat = k * 4096 := ofNat_toNat (by omega)
    have place : (r.tablePhys + UInt64.ofNat (k * 0x1000)).toNat =
        r.tablePhys.toNat + 4096 * k := by
      rw [add_toNat (by omega), offset]
      omega
    have length : (0x1000 : UInt32).toNat = 4096 := by decide
    have filled := fill_tracks state regs _ reached (r.tablePhys + UInt64.ofNat (k * 0x1000))
      0x1000 (by decide) (by rw [place, length, reach]; omega)
    rw [place, length, clear_append] at filled
    exact filled

/-- The address arithmetic of the driver, with the table number and the index
in machine words, computes the entry's place. -/
theorem entry_toNat {n q : Nat} (level : n < 5) {num index : UInt64}
    (meets : Meets (low r) (high r) (shiftOf n) (q / fanOf n))
    (tableNum : num.toNat = q / fanOf n - first (low r) (shiftOf n))
    (position : index.toNat = q % fanOf n) :
    (let stride := if n = 3 then nvGmmuPd0eSize else nvGmmuPdeSize
     let entry := r.levelPhys n + num * gmmuPageBytes + index * stride
     if n = 3 then entry + nvGmmuPd0SmallOff else entry).toNat = entryAt r n q := by
  have place := table_place planned level meets
  have inner : slotOffset n (q % fanOf n) + 8 ≤ 4096 :=
    slotOffset_bound level (Nat.mod_lt q (fanOf_pos level))
  have base := planned.phys n level
  have fits := planned.fits
  have page : gmmuPageBytes.toNat = 4096 := by decide
  simp only [reach] at fits
  simp only [table] at place
  have pages : (num * gmmuPageBytes).toNat =
      4096 * (q / fanOf n - first (low r) (shiftOf n)) := by
    rw [mul_toNat (by rw [tableNum, page]; omega), tableNum, page, Nat.mul_comm]
  have start : (r.levelPhys n + num * gmmuPageBytes).toNat = table r n (q / fanOf n) := by
    rw [add_toNat (by omega), base, pages, table]
    ring
  rw [← table] at place
  -- Level 3 has entries of 16 bytes, and its small-page half is the second one.
  by_cases dual : n = 3
  · subst n
    have stride : nvGmmuPd0eSize.toNat = 16 := by decide
    have half : nvGmmuPd0SmallOff.toNat = 8 := by decide
    simp only [↓reduceIte, slotOffset] at inner ⊢
    have scaled : (index * nvGmmuPd0eSize).toNat = 16 * (q % fanOf 3) := by
      rw [mul_toNat (by rw [position, stride]; omega), position, stride, Nat.mul_comm]
    have sum := add_toNat (x := r.levelPhys 3 + num * gmmuPageBytes)
      (y := index * nvGmmuPd0eSize) (by omega)
    rw [add_toNat (by omega), sum, start, scaled, half, entryAt, slotOffset, if_pos rfl]
    omega
  · have stride : nvGmmuPdeSize.toNat = 8 := by decide
    simp only [dual, ↓reduceIte, slotOffset] at inner ⊢
    have scaled : (index * nvGmmuPdeSize).toNat = 8 * (q % fanOf n) := by
      rw [mul_toNat (by rw [position, stride]; omega), position, stride, Nat.mul_comm]
    rw [add_toNat (by omega), start, scaled, entryAt, slotOffset, if_neg dual]

section Child

variable {n i : Nat} (below : i < span (low r) (high r) (shiftOf (n + 1)))
include below

theorem child_meets :
    Meets (low r) (high r) (shiftOf (n + 1)) (first (low r) (shiftOf (n + 1)) + i) :=
  (meets_iff_offset (low_le_high planned)).mpr ⟨i, below, rfl⟩

theorem child_address : (first (low r) (shiftOf (n + 1)) + i) * 2 ^ shiftOf (n + 1) < 2 ^ 49 :=
  Nat.lt_of_le_of_lt
    ((Nat.le_div_iff_mul_le (Nat.two_pow_pos _)).mp (child_meets planned below).2)
    (high_lt planned)

variable (level : n < 4)
include level

theorem child_number : (UInt64.ofNat i).toNat = i := by
  have bounds := shiftOf_bounds (n + 1) (by omega)
  have few : i < 2 ^ 28 := Nat.lt_of_lt_of_le below (span_bound bounds.1 (high_lt planned))
  exact ofNat_toNat (by omega)

theorem child_prefix :
    (r.va >>> rangeShift (n + 1) + UInt64.ofNat i).toNat =
      first (low r) (shiftOf (n + 1)) + i := by
  have shift := rangeShift_toNat (n + 1) (by omega)
  have bounds := shiftOf_bounds (n + 1) (by omega)
  have small := child_address planned below
  have number := child_number planned below level
  have firstWord : (r.va >>> rangeShift (n + 1)).toNat = first (low r) (shiftOf (n + 1)) := by
    rw [shr_toNat (by omega), shift]
    rfl
  have shrink := Nat.le_mul_of_pos_right (first (low r) (shiftOf (n + 1)) + i)
    (Nat.two_pow_pos (shiftOf (n + 1)))
  rw [add_toNat (by omega), firstWord, number]

theorem child_parent :
    (((r.va >>> rangeShift (n + 1) + UInt64.ofNat i) <<< rangeShift (n + 1)) >>> rangeShift n -
        r.va >>> rangeShift n).toNat =
      (first (low r) (shiftOf (n + 1)) + i) / fanOf n - first (low r) (shiftOf n) := by
  have shift := rangeShift_toNat (n + 1) (by omega)
  have coarse := rangeShift_toNat n (by omega)
  have bounds := shiftOf_bounds (n + 1) (by omega)
  have wide := shiftOf_bounds n (by omega)
  have small := child_address planned below
  have word := child_prefix planned below level
  have parentMeets := meets_parent (scale n (by omega)) (child_meets planned below)
  have address := @shl_toNat (r.va >>> rangeShift (n + 1) + UInt64.ofNat i)
    (rangeShift (n + 1)) (by omega) (by rw [word, shift]; omega)
  have lowWord : (r.va >>> rangeShift n).toNat = first (low r) (shiftOf n) := by
    rw [shr_toNat (by omega), coarse]
    rfl
  have moved :
      (((r.va >>> rangeShift (n + 1) + UInt64.ofNat i) <<< rangeShift (n + 1)) >>>
        rangeShift n).toNat = (first (low r) (shiftOf (n + 1)) + i) / fanOf n := by
    rw [shr_toNat (by omega), coarse, address, word, shift, scale n (by omega),
      Nat.mul_comm (2 ^ _) (fanOf n), Nat.mul_div_mul_right _ _ (Nat.two_pow_pos _)]
  have above : first (low r) (shiftOf n) ≤ (first (low r) (shiftOf (n + 1)) + i) / fanOf n :=
    parentMeets.1
  rw [sub_toNat (by omega), moved, lowWord]

theorem child_table :
    (r.levelPhys (n + 1) + UInt64.ofNat i * gmmuPageBytes).toNat =
      table r (n + 1) (first (low r) (shiftOf (n + 1)) + i) := by
  have place := table_place planned (by omega) (child_meets planned below)
  have base := planned.phys (n + 1) (by omega)
  have fits := planned.fits
  have number := child_number planned below level
  have page : gmmuPageBytes.toNat = 4096 := by decide
  simp only [reach] at fits
  simp only [table, Nat.add_sub_cancel_left] at place ⊢
  have pages : (UInt64.ofNat i * gmmuPageBytes).toNat = 4096 * i := by
    rw [mul_toNat (by rw [number, page]; omega), number, page, Nat.mul_comm]
  rw [add_toNat (by omega), base, pages]
  ring

/-- The entry of a child table as one 64-bit write, whatever the window is at. -/
theorem linkChild_write (phys : UInt64) :
    ∃ entry value : UInt64,
      (∀ s, linkChild r (n + 1) i s = nvPraminWr64 s entry value) ∧
      entry.toNat = entryAt r n (first (low r) (shiftOf (n + 1)) + i) ∧
      value.toNat = valueAt r phys n (first (low r) (shiftOf (n + 1)) + i) := by
  obtain ⟨k, pow, mask⟩ := fanOf_pow n (by omega)
  have meets := meets_parent (scale n (by omega)) (child_meets planned below)
  have index : ((r.va >>> rangeShift (n + 1) + UInt64.ofNat i) &&&
      (rangeEntries n - 1)).toNat = (first (low r) (shiftOf (n + 1)) + i) % fanOf n := by
    rw [and_mask_toNat _ mask, child_prefix planned below level, pow]
  have entry := entry_toNat planned (by omega) meets (child_parent planned below level) index
  have child := child_table planned below level
  have value := pde_toNat (r.levelPhys (n + 1) + UInt64.ofNat i * gmmuPageBytes)
    (child ▸ table_page planned _ _)
  have shape : valueAt r phys n (first (low r) (shiftOf (n + 1)) + i) =
      table r (n + 1) (first (low r) (shiftOf (n + 1)) + i) / 16 + 2 := by
    rw [valueAt, node, if_pos (by omega), if_neg (by omega)]
  exact ⟨_, _, fun _ => rfl, entry, by rw [value, child, shape]⟩

theorem linkChild_tracks (phys : UInt64) (tracks : Tracks s regs m) :
    Tracks (linkChild r (n + 1) i s) regs
      (store m (entryAt r n (first (low r) (shiftOf (n + 1)) + i)) 8
        (valueAt r phys n (first (low r) (shiftOf (n + 1)) + i))) := by
  obtain ⟨entry, value, write, at_, holds⟩ := linkChild_write planned below level phys
  have meets := meets_parent (scale n (by omega)) (child_meets planned below)
  have place := entry_place planned (by omega) meets
  have fits := planned.fits
  rw [write, ← at_, ← holds]
  exact wr64_tracks s regs m tracks entry value (by omega)

end Child

section Page

variable {phys : UInt64} (physPage : 2 ^ 12 ∣ phys.toNat)
  (room : phys.toNat + r.bytes.toNat ≤ reach) (i : Nat)
  (below : i < span (low r) (high r) (shiftOf 5))
include below

theorem page_meets :
    Meets (low r) (high r) (shiftOf 4) ((first (low r) (shiftOf 5) + i) / fanOf 4) :=
  meets_parent (scale 4 (by omega)) ((meets_iff_offset (low_le_high planned)).mpr ⟨i, below, rfl⟩)

include physPage room

/-- The entry of a page as one 64-bit write. -/
theorem mapPage_write :
    ∃ entry value : UInt64,
      (∀ s, mapPage r phys (i * 0x1000) s = nvPraminWr64 s entry value) ∧
      entry.toNat = entryAt r 4 (first (low r) (shiftOf 5) + i) ∧
      value.toNat = valueAt r phys 4 (first (low r) (shiftOf 5) + i) := by
  have pages : span (low r) (high r) (shiftOf 5) * 4096 = r.bytes.toNat := page_span planned
  have origin : first (low r) (shiftOf 5) * 4096 = r.va.toNat := page_first planned
  have inside := planned.inside
  simp only [reach] at room
  have offset : (UInt64.ofNat (i * 0x1000)).toNat = i * 4096 := ofNat_toNat (by omega)
  have address : (r.va + UInt64.ofNat (i * 0x1000)).toNat =
      (first (low r) (shiftOf 5) + i) * 4096 := by
    rw [add_toNat (by omega), offset]
    omega
  have meets := page_meets planned i below
  have fan : fanOf 4 = 512 := rfl
  -- The number of the page's table and the page's number in it.
  have leaf : ((r.va + UInt64.ofNat (i * 0x1000)) >>> nvGmmuPd0Shift -
      r.va >>> nvGmmuPd0Shift).toNat =
        (first (low r) (shiftOf 5) + i) / fanOf 4 - first (low r) (shiftOf 4) := by
    have current : ((r.va + UInt64.ofNat (i * 0x1000)) >>> nvGmmuPd0Shift).toNat =
        (first (low r) (shiftOf 5) + i) / fanOf 4 := by
      have moved : ((r.va + UInt64.ofNat (i * 0x1000)) >>> nvGmmuPd0Shift).toNat =
          (r.va + UInt64.ofNat (i * 0x1000)).toNat / 2 ^ 21 := shr_toNat (by decide)
      rw [moved, address, fan]
      omega
    have lowest : (r.va >>> nvGmmuPd0Shift).toNat = first (low r) (shiftOf 4) :=
      shr_toNat (by decide)
    have above : first (low r) (shiftOf 4) ≤ (first (low r) (shiftOf 5) + i) / fanOf 4 := meets.1
    rw [sub_toNat (by omega), current, lowest]
  have index : (((r.va + UInt64.ofNat (i * 0x1000)) >>> nvGmmuPageShift) &&&
      (nvGmmuSptEntries - 1)).toNat = (first (low r) (shiftOf 5) + i) % fanOf 4 := by
    have moved : ((r.va + UInt64.ofNat (i * 0x1000)) >>> nvGmmuPageShift).toNat =
        (r.va + UInt64.ofNat (i * 0x1000)).toNat / 2 ^ 12 := shr_toNat (by decide)
    rw [and_mask_toNat (k := 9) _ (by decide), moved, address, fan]
    omega
  have entry := entry_toNat planned (by omega) meets leaf index
  have target : (phys + UInt64.ofNat (i * 0x1000)).toNat =
      node r phys 5 (first (low r) (shiftOf 5) + i) := by
    rw [add_toNat (by omega), offset, node, if_neg (by omega)]
    change _ = phys.toNat + 4096 * (first (low r) 12 + i - first (low r) 12)
    omega
  have value := pte_toNat (phys + UInt64.ofNat (i * 0x1000))
    (target ▸ node_page planned physPage 5 _)
  refine ⟨_, _, fun _ => rfl, entry, ?_⟩
  rw [value, target]
  rfl

theorem mapPage_tracks (tracks : Tracks s regs m) :
    Tracks (mapPage r phys (i * 0x1000) s) regs
      (store m (entryAt r 4 (first (low r) (shiftOf 5) + i)) 8
        (valueAt r phys 4 (first (low r) (shiftOf 5) + i))) := by
  obtain ⟨entry, value, write, at_, holds⟩ := mapPage_write planned physPage room i below
  have place := entry_place planned (by omega) (page_meets planned i below)
  have fits := planned.fits
  rw [write, ← at_, ← holds]
  exact wr64_tracks s regs m tracks entry value (by omega)

end Page

theorem build_tracks {phys : UInt64} (tracks : Tracks s regs m) {built : Aperture}
    (accepted : nvGmmuRangeBuild s r phys = (0, built)) :
    2 ^ 12 ∣ phys.toNat ∧ phys.toNat + r.bytes.toNat ≤ reach ∧
      Tracks built regs
        (storeEntries (clear m r.tablePhys.toNat r.tableBytes.toNat) (entries r phys)) := by
  simp only [nvGmmuRangeBuild] at accepted
  split at accepted
  · simp at accepted
  rename_i admitted
  simp only [not_or, not_not] at admitted
  obtain ⟨_, _, aligned, below, room⟩ := admitted
  split at accepted
  · simp at accepted
  split at accepted
  · simp at accepted
  have physEnd : praminPhysEnd.toNat = 2 ^ 40 := by decide
  have mask : (gmmuPageBytes - 1).toNat = 2 ^ 12 - 1 := by decide
  rw [ge_iff_le, UInt64.not_le, UInt64.lt_iff_toNat_lt, physEnd] at below
  rw [gt_iff_lt, UInt64.not_lt, UInt64.le_iff_toNat_le, sub_toNat (by omega), physEnd] at room
  have physPage : 2 ^ 12 ∣ phys.toNat := dvd_of_and_mask mask aligned
  have fits : phys.toNat + r.bytes.toNat ≤ reach := by
    simp only [reach]
    omega
  refine ⟨physPage, fits, ?_⟩
  have cleared := clear_arena planned tracks
  -- The loops relate an aperture to the memory it tracks: first each level's links,
  have linked : ∀ n < 4, ∀ state mem, Tracks state regs mem →
      Tracks (forCount (r.levelCount (n + 1)).toNat (linkChild r (n + 1)) state) regs
        (storeEntries mem (levelEntries r phys n)) := by
    intro n level state mem reached
    rw [planned.count (n + 1) (by omega), levelEntries, storeEntries_map]
    apply forCount_relation _ _ _ _ _ (fun state mem => Tracks state regs mem) reached
    intro i below state mem pair
    exact linkChild_tracks planned below level phys pair
  have links := forCount_relation (nvGmmuLevels - 1)
    (fun k s => forCount (r.levelCount (k + 1)).toNat (linkChild r (k + 1)) s)
    (fun n mem => storeEntries mem (levelEntries r phys n)) _ _
    (fun state mem => Tracks state regs mem) cleared linked
  have pages : (r.bytes.toNat + 0x1000 - 1) / 0x1000 = span (low r) (high r) (shiftOf 5) := by
    have whole : span (low r) (high r) (shiftOf 5) * 4096 = r.bytes.toNat := page_span planned
    omega
  -- and behind them the pages.
  have mapped := forCount_relation (span (low r) (high r) (shiftOf 5))
    (fun k => mapPage r phys (k * 0x1000))
    (fun i mem => store mem (entryAt r 4 (first (low r) (shiftOf 5) + i)) 8
      (valueAt r phys 4 (first (low r) (shiftOf 5) + i))) _ _
    (fun state mem => Tracks state regs mem) links
    (fun i below state mem pair => mapPage_tracks planned physPage fits i below pair)
  obtain rfl := congrArg Prod.snd accepted
  rw [forStep, pages]
  have batch : storeEntries (clear m r.tablePhys.toNat r.tableBytes.toNat) (entries r phys) =
      storeEntries (forCount (nvGmmuLevels - 1)
        (fun n mem => storeEntries mem (levelEntries r phys n))
        (clear m r.tablePhys.toNat r.tableBytes.toNat)) (levelEntries r phys 4) := by
    simp only [entries, storeEntries, List.foldl_flatMap]
    rw [List.range_succ, List.foldl_append]
    rfl
  rw [batch, levelEntries, storeEntries_map]
  exact mapped

end Writes

end GspDriver.GmmuBuild
