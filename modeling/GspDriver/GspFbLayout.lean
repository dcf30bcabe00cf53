import GspDriver.Base.Words
import GspDriver.Base.FirstFit

/-!
The layout of WPR2 in `nv_gsp_fb_layout` of gsp_fw.c: from FRTS downwards, boot
binary, ELF, heap, the container's start with room for the meta structure, and
the heap outside WPR2. Each step subtracts and rounds down in 64 bits. A step
that goes below address 0 wraps to an address above the one before it, which
the order checks at the end refuse.
-/

namespace GspDriver.GspFbLayout

open Words FirstFit

def nvGspOk : Int := 0
def nvGspErrArg : Int := -1
def nvGspErrBounds : Int := -2

def nvGspWprHeapOsCarveout : UInt64 := (20 : UInt64) <<< 20
def nvGspWprHeapBaseSize : UInt64 := (8 : UInt64) <<< 20
def nvGspWprHeapMinSize : UInt64 := (84 : UInt64) <<< 20
def nvGspHeapSizePerGbFb : UInt64 := (96 : UInt64) <<< 10
def nvGspHeapClientAllocSize : UInt64 := ((48 : UInt64) <<< 10) * 2048
def nvGspWprMetaSize : UInt64 := 256

structure NvGspFbLayout where
  fbSize : UInt64
  frtsAddr : UInt64
  frtsSize : UInt64
  bootAddr : UInt64
  bootSize : UInt64
  elfAddr : UInt64
  elfSize : UInt64
  heapAddr : UInt64
  heapSize : UInt64
  wpr2Addr : UInt64
  wpr2Size : UInt64
  wpr2End : UInt64
  nonwprHeapAddr : UInt64
  nonwprHeapSize : UInt64

def alignDown (v a : UInt64) : UInt64 := v &&& ~~~(a - 1)
def alignUp (v a : UInt64) : UInt64 := (v + a - 1) &&& ~~~(a - 1)

/-- The size that the WPR heap needs. -/
def heapNeed (fbSize : UInt64) : UInt64 :=
  let fbGb := (fbSize + ((1 : UInt64) <<< 30) - 1) >>> 30
  let heap := nvGspWprHeapOsCarveout + nvGspWprHeapBaseSize +
    alignUp (nvGspHeapSizePerGbFb * fbGb) ((1 : UInt64) <<< 20) +
    alignUp nvGspHeapClientAllocSize ((1 : UInt64) <<< 20)
  if heap < nvGspWprHeapMinSize then nvGspWprHeapMinSize else heap

section Layout

variable (fbSize frtsAddr frtsSize bootSize elfSize : UInt64)

def layOut : NvGspFbLayout :=
  let wpr2End := frtsAddr + frtsSize
  let bootAddr := alignDown (frtsAddr - bootSize) 0x1000
  let elfAddr := alignDown (bootAddr - elfSize) 0x10000
  let heapAddr := alignDown (elfAddr - heapNeed fbSize) 0x100000
  let heapSize := alignDown (elfAddr - heapAddr) 0x100000
  let wpr2Addr := alignDown (heapAddr - nvGspWprMetaSize) 0x100000
  let nonwprHeapSize := 0x100000
  { fbSize, frtsAddr, frtsSize, bootAddr, bootSize, elfAddr, elfSize, heapAddr, heapSize
    wpr2Addr, wpr2Size := wpr2End - wpr2Addr, wpr2End
    nonwprHeapAddr := wpr2Addr - nonwprHeapSize, nonwprHeapSize }

/-- The return code and `*out`, which the argument check leaves as it was. -/
def nvGspFbLayout : Int × Option NvGspFbLayout :=
  if fbSize = 0 ∨ frtsSize = 0 ∨ bootSize = 0 ∨ elfSize = 0 then (nvGspErrArg, none)
  else
    let out := layOut fbSize frtsAddr frtsSize bootSize elfSize
    if out.wpr2End > fbSize then (nvGspErrBounds, some out)
    else if ¬ (out.nonwprHeapAddr < out.wpr2Addr ∧ out.wpr2Addr ≤ out.heapAddr ∧
        out.heapAddr < out.elfAddr ∧ out.elfAddr < out.bootAddr ∧ out.bootAddr < out.frtsAddr) then
      (nvGspErrBounds, some out)
    else (nvGspOk, some out)

/-- The subtractions of the layout, in order. -/
def subtractions : List (UInt64 × UInt64) :=
  let out := layOut fbSize frtsAddr frtsSize bootSize elfSize
  [(frtsAddr, bootSize), (out.bootAddr, elfSize), (out.elfAddr, heapNeed fbSize),
    (out.elfAddr, out.heapAddr), (out.heapAddr, nvGspWprMetaSize), (out.wpr2End, out.wpr2Addr),
    (out.wpr2Addr, out.nonwprHeapSize)]

end Layout

/-! The same layout in unbounded integers. -/

def floorTo (a v : Int) : Int := v / a * a

def ceilTo (a v : Nat) : Nat := (v + a - 1) / a * a

def mib : Nat := 2 ^ 20

/-- 28 MiB, 96 KiB for each GiB begun, and 96 MiB for clients; at least 84 MiB. -/
def requirement (fbSize : Nat) : Nat :=
  max (84 * mib) (28 * mib + ceilTo mib (96 * 2 ^ 10 * ((fbSize + 2 ^ 30 - 1) / 2 ^ 30)) + 96 * mib)

structure Ideal where
  bootAddr : Int
  elfAddr : Int
  heapAddr : Int
  heapSize : Int
  wpr2Addr : Int
  wpr2End : Int
  nonwprHeapAddr : Int

def ideal (fbSize frtsAddr frtsSize bootSize elfSize : Nat) : Ideal :=
  let bootAddr := floorTo (2 ^ 12) (frtsAddr - bootSize)
  let elfAddr := floorTo (2 ^ 16) (bootAddr - elfSize)
  let heapAddr := floorTo (2 ^ 20) (elfAddr - requirement fbSize)
  let wpr2Addr := floorTo (2 ^ 20) (heapAddr - 256)
  { bootAddr, elfAddr, heapAddr, wpr2Addr
    heapSize := floorTo (2 ^ 20) (elfAddr - heapAddr)
    wpr2End := frtsAddr + frtsSize
    nonwprHeapAddr := wpr2Addr - 2 ^ 20 }

/-- All addresses are there, and the layout ends within the memory. -/
structure Ideal.Fits (i : Ideal) (fbSize : Nat) : Prop where
  boot : 0 ≤ i.bootAddr
  elf : 0 ≤ i.elfAddr
  heap : 0 ≤ i.heapAddr
  wpr2 : 0 ≤ i.wpr2Addr
  nonwprHeap : 0 ≤ i.nonwprHeapAddr
  ends : i.wpr2End ≤ fbSize

structure Ideal.Matches (i : Ideal) (out : NvGspFbLayout) : Prop where
  boot : (out.bootAddr.toNat : Int) = i.bootAddr
  elf : (out.elfAddr.toNat : Int) = i.elfAddr
  heap : (out.heapAddr.toNat : Int) = i.heapAddr
  heapSize : (out.heapSize.toNat : Int) = i.heapSize
  wpr2 : (out.wpr2Addr.toNat : Int) = i.wpr2Addr
  ends : (out.wpr2End.toNat : Int) = i.wpr2End
  nonwprHeap : (out.nonwprHeapAddr.toNat : Int) = i.nonwprHeapAddr

/-- The heap outside WPR2, the meta structure, the heap, ELF, boot binary and FRTS. -/
def regions (out : NvGspFbLayout) : List Block :=
  [⟨out.nonwprHeapAddr.toNat, out.nonwprHeapAddr.toNat + out.nonwprHeapSize.toNat⟩,
    ⟨out.wpr2Addr.toNat, out.wpr2Addr.toNat + nvGspWprMetaSize.toNat⟩,
    ⟨out.heapAddr.toNat, out.heapAddr.toNat + out.heapSize.toNat⟩,
    ⟨out.elfAddr.toNat, out.elfAddr.toNat + out.elfSize.toNat⟩,
    ⟨out.bootAddr.toNat, out.bootAddr.toNat + out.bootSize.toNat⟩,
    ⟨out.frtsAddr.toNat, out.frtsAddr.toNat + out.frtsSize.toNat⟩]

structure WellLaid (out : NvGspFbLayout) : Prop where
  ordered : (regions out).Pairwise fun low high => low.limit ≤ high.first
  inside : ∀ region ∈ regions out, region.limit ≤ out.fbSize.toNat
  heaps : 2 ^ 20 ∣ out.nonwprHeapAddr.toNat ∧ 2 ^ 20 ∣ out.heapAddr.toNat
  wpr2 : 2 ^ 20 ∣ out.wpr2Addr.toNat
  elf : 2 ^ 16 ∣ out.elfAddr.toNat
  boot : 2 ^ 12 ∣ out.bootAddr.toNat
  enough : requirement out.fbSize.toNat ≤ out.heapSize.toNat

/-! One step down. -/

/-- A subtraction and rounding down that stay above 0. -/
structure Lands (k : Nat) (x s y : UInt64) : Prop where
  ordered : s.toNat ≤ x.toNat
  exact : (y.toNat : Int) = floorTo (2 ^ k) (x.toNat - s.toNat)
  aligned : 2 ^ k ∣ y.toNat
  below : y.toNat + s.toNat ≤ x.toNat

/-- Below 0 in the integers, and then near the top of the address space. -/
structure Wraps (k : Nat) (x s y : UInt64) : Prop where
  crossed : x.toNat < s.toNat
  missing : floorTo (2 ^ k) (x.toNat - s.toNat) < 0
  high : 2 ^ 63 ≤ y.toNat

theorem Wraps.not_present {k : Nat} {x s y : UInt64} (wraps : Wraps k x s y) {v : Int}
    (unbounded : v = floorTo (2 ^ k) (x.toNat - s.toNat)) : ¬ 0 ≤ v := by
  rw [unbounded, not_le]
  exact wraps.missing

theorem lands_of_le {x s a : UInt64} {k : Nat} (unit : (a - 1).toNat = 2 ^ k - 1)
    (ordered : s.toNat ≤ x.toNat) : Lands k x s (alignDown (x - s) a) := by
  have rounded := and_not_mask_toNat (x - s) unit
  have near := Nat.div_mul_le_self (x.toNat - s.toNat) (2 ^ k)
  rw [← alignDown, sub_toNat ordered] at rounded
  constructor
  · exact ordered
  · rw [rounded, floorTo, ← Int.ofNat_sub ordered]
    norm_cast
  · rw [rounded]
    exact Nat.dvd_mul_left _ _
  · omega

theorem step_down {x s a : UInt64} {k : Nat} (unit : (a - 1).toNat = 2 ^ k - 1) (fine : k ≤ 20)
    (small : s.toNat < 2 ^ 40) :
    Lands k x s (alignDown (x - s) a) ∨ Wraps k x s (alignDown (x - s) a) := by
  by_cases ordered : s.toNat ≤ x.toNat
  · exact Or.inl (lands_of_le unit ordered)
  · have rounded := and_not_mask_toNat (x - s) unit
    have near := Nat.lt_div_mul_add (a := (x - s).toNat) (Nat.two_pow_pos k)
    have coarse : 2 ^ k ≤ 2 ^ 20 := Nat.pow_le_pow_right (by omega) fine
    have wrapped : (x - s).toNat = 2 ^ 64 - (s.toNat - x.toNat) := by
      have sum := UInt64.toNat_sub x s
      have word := x.toNat_lt
      omega
    have below : floorTo (2 ^ k) (x.toNat - s.toNat) ≤ x.toNat - s.toNat :=
      Int.ediv_mul_le _ (by positivity)
    rw [← alignDown] at rounded
    exact Or.inr ⟨by omega, by omega, by omega⟩

theorem alignUp_mib {v : UInt64} (small : v.toNat + mib < 2 ^ 64) :
    (alignUp v ((1 : UInt64) <<< 20)).toNat = ceilTo mib v.toNat := by
  have unit : ((1 : UInt64) <<< 20).toNat = 2 ^ 20 := by decide
  have pred : ((1 : UInt64) <<< 20 - 1).toNat = 2 ^ 20 - 1 := by decide
  have one : (1 : UInt64).toNat = 1 := rfl
  rw [mib] at small
  have sum : (v + (1 : UInt64) <<< 20).toNat = v.toNat + 2 ^ 20 := by
    rw [add_toNat (by rw [unit]; exact small), unit]
  rw [alignUp, and_not_mask_toNat _ pred, sub_toNat (by rw [sum, one]; omega), sum, one, ceilTo,
    mib]

theorem fbGb_toNat {fbSize : UInt64} (memory : fbSize.toNat < 2 ^ 52) :
    ((fbSize + (1 : UInt64) <<< 30 - 1) >>> 30).toNat = (fbSize.toNat + 2 ^ 30 - 1) / 2 ^ 30 := by
  have gib : ((1 : UInt64) <<< 30).toNat = 2 ^ 30 := by decide
  have one : (1 : UInt64).toNat = 1 := rfl
  have thirty : (30 : UInt64).toNat = 30 := rfl
  have total := add_toNat (x := fbSize) (y := (1 : UInt64) <<< 30) (by rw [gib]; omega)
  rw [shr_toNat (by rw [thirty]; omega), sub_toNat (by rw [total, gib, one]; omega), total, gib,
    one, thirty]

theorem requirement_bounds {fbSize : Nat} (memory : fbSize < 2 ^ 52) :
    0 < requirement fbSize ∧ requirement fbSize < 2 ^ 40 ∧ mib ∣ requirement fbSize := by
  simp only [requirement, ceilTo, mib]
  omega

theorem heapNeed_toNat {fbSize : UInt64} (memory : fbSize.toNat < 2 ^ 52) :
    (heapNeed fbSize).toNat = requirement fbSize.toNat := by
  have perGb : nvGspHeapSizePerGbFb.toNat = 96 * 2 ^ 10 := by decide
  have fixed : (nvGspWprHeapOsCarveout + nvGspWprHeapBaseSize).toNat = 28 * mib := by decide
  have clients : (alignUp nvGspHeapClientAllocSize ((1 : UInt64) <<< 20)).toNat = 96 * mib := by
    decide
  have least : nvGspWprHeapMinSize.toNat = 84 * mib := by decide
  have gbs := fbGb_toNat memory
  rw [heapNeed, requirement]
  generalize (fbSize + (1 : UInt64) <<< 30 - 1) >>> 30 = fbGb at gbs
  have scaled : (nvGspHeapSizePerGbFb * fbGb).toNat =
      96 * 2 ^ 10 * ((fbSize.toNat + 2 ^ 30 - 1) / 2 ^ 30) := by
    rw [mul_toNat (by rw [perGb, gbs]; omega), perGb, gbs]
  have grown := alignUp_mib (v := nvGspHeapSizePerGbFb * fbGb) (by rw [scaled, mib]; omega)
  rw [scaled] at grown
  have small : ceilTo mib (96 * 2 ^ 10 * ((fbSize.toNat + 2 ^ 30 - 1) / 2 ^ 30)) < 2 ^ 40 := by
    simp only [ceilTo, mib]
    omega
  generalize ceilTo mib (96 * 2 ^ 10 * ((fbSize.toNat + 2 ^ 30 - 1) / 2 ^ 30)) = extra
    at grown small
  have front := add_toNat (x := nvGspWprHeapOsCarveout + nvGspWprHeapBaseSize)
    (y := alignUp (nvGspHeapSizePerGbFb * fbGb) ((1 : UInt64) <<< 20))
    (by rw [fixed, grown, mib]; omega)
  rw [fixed, grown] at front
  have whole := add_toNat (x := nvGspWprHeapOsCarveout + nvGspWprHeapBaseSize +
    alignUp (nvGspHeapSizePerGbFb * fbGb) ((1 : UInt64) <<< 20))
    (y := alignUp nvGspHeapClientAllocSize ((1 : UInt64) <<< 20))
    (by rw [front, clients, mib]; omega)
  rw [front, clients] at whole
  generalize nvGspWprHeapOsCarveout + nvGspWprHeapBaseSize +
    alignUp (nvGspHeapSizePerGbFb * fbGb) ((1 : UInt64) <<< 20) +
    alignUp nvGspHeapClientAllocSize ((1 : UInt64) <<< 20) = heap at whole
  have order : heap < nvGspWprHeapMinSize ↔ 28 * mib + extra + 96 * mib < 84 * mib := by
    rw [UInt64.lt_iff_toNat_lt, whole, least]
  -- The fixed parts alone exceed the least size, so the maximum never takes it.
  have large : ¬ heap < nvGspWprHeapMinSize := by
    rw [order]
    omega
  rw [if_neg large, whole]
  exact (Nat.max_eq_right (by omega)).symm

/-! The whole layout. -/

/-- Every step of the layout stays above 0. -/
structure Landed (fbSize frtsAddr bootSize elfSize : UInt64) (out : NvGspFbLayout) : Prop where
  boot : Lands 12 frtsAddr bootSize out.bootAddr
  elf : Lands 16 out.bootAddr elfSize out.elfAddr
  heap : Lands 20 out.elfAddr (heapNeed fbSize) out.heapAddr
  wpr2 : Lands 20 out.heapAddr nvGspWprMetaSize out.wpr2Addr
  nonwprHeap : 2 ^ 20 ≤ out.wpr2Addr.toNat

def NvGspFbLayout.Ordered (out : NvGspFbLayout) : Prop :=
  out.nonwprHeapAddr < out.wpr2Addr ∧ out.wpr2Addr ≤ out.heapAddr ∧
    out.heapAddr < out.elfAddr ∧ out.elfAddr < out.bootAddr ∧ out.bootAddr < out.frtsAddr

structure Ideal.Present (i : Ideal) : Prop where
  boot : 0 ≤ i.bootAddr
  elf : 0 ≤ i.elfAddr
  heap : 0 ≤ i.heapAddr
  wpr2 : 0 ≤ i.wpr2Addr
  nonwprHeap : 0 ≤ i.nonwprHeapAddr

section Exact

variable {fbSize frtsAddr frtsSize bootSize elfSize : UInt64}
  (memory : fbSize.toNat < 2 ^ 52) (frts : frtsAddr.toNat < 2 ^ 52)
  (boot : bootSize.toNat < 2 ^ 32) (elf : elfSize.toNat ≤ 2 ^ 30)
include memory frts boot elf

/-- The first step that wraps is caught: its address is above the one before. -/
theorem landed_or_refused (frtsSize : UInt64) :
    Landed fbSize frtsAddr bootSize elfSize (layOut fbSize frtsAddr frtsSize bootSize elfSize) ∨
      (¬ (ideal fbSize.toNat frtsAddr.toNat frtsSize.toNat bootSize.toNat elfSize.toNat).Present ∧
        ¬ (layOut fbSize frtsAddr frtsSize bootSize elfSize).Ordered) := by
  have need := heapNeed_toNat memory
  have bounds := requirement_bounds memory
  have metaBytes : nvGspWprMetaSize.toNat = 256 := rfl
  have reserve : (0x100000 : UInt64).toNat = 2 ^ 20 := rfl
  simp only [NvGspFbLayout.Ordered, UInt64.lt_iff_toNat_lt, UInt64.le_iff_toNat_le]
  -- the layout's addresses and the ideal ones, one step at a time
  generalize whole : layOut fbSize frtsAddr frtsSize bootSize elfSize = out
  generalize unbounded : ideal fbSize.toNat frtsAddr.toNat frtsSize.toNat bootSize.toNat
    elfSize.toNat = i
  have frtsEq : out.frtsAddr = frtsAddr := by rw [← whole]; rfl
  have bootStep := step_down (x := frtsAddr) (s := bootSize) (a := 0x1000) (k := 12) (by decide)
    (by omega) (by omega)
  have elfStep := step_down (x := out.bootAddr) (s := elfSize) (a := 0x10000) (k := 16) (by decide)
    (by omega) (by omega)
  have heapStep := step_down (x := out.elfAddr) (s := heapNeed fbSize) (a := 0x100000) (k := 20)
    (by decide) (by omega) (by omega)
  have wpr2Step := step_down (x := out.heapAddr) (s := nvGspWprMetaSize) (a := 0x100000) (k := 20)
    (by decide) (by omega) (by omega)
  rw [show alignDown (frtsAddr - bootSize) 0x1000 = out.bootAddr by rw [← whole]; rfl] at bootStep
  rw [show alignDown (out.bootAddr - elfSize) 0x10000 = out.elfAddr by rw [← whole]; rfl] at elfStep
  rw [show alignDown (out.elfAddr - heapNeed fbSize) 0x100000 = out.heapAddr by
    rw [← whole]; rfl] at heapStep
  rw [show alignDown (out.heapAddr - nvGspWprMetaSize) 0x100000 = out.wpr2Addr by
    rw [← whole]; rfl] at wpr2Step
  rw [frtsEq]
  -- A step that wraps ends at 2^63 or above, and every address it started from is below.
  rcases bootStep with bootLands | wraps
  case inr =>
    have high := wraps.high
    refine Or.inr ⟨fun present => wraps.not_present ?_ present.boot, fun order => by omega⟩
    rw [← unbounded]
    rfl
  have bootBelow := bootLands.below
  rcases elfStep with elfLands | wraps
  case inr =>
    have high := wraps.high
    refine Or.inr ⟨fun present => wraps.not_present ?_ present.elf, fun order => by omega⟩
    rw [← unbounded, bootLands.exact]
    rfl
  have elfBelow := elfLands.below
  have elfExact := elfLands.exact
  rw [bootLands.exact] at elfExact
  rcases heapStep with heapLands | wraps
  case inr =>
    have high := wraps.high
    refine Or.inr ⟨fun present => wraps.not_present ?_ present.heap, fun order => by omega⟩
    rw [← unbounded, elfExact, need]
    rfl
  have heapBelow := heapLands.below
  have heapExact := heapLands.exact
  rw [elfExact, need] at heapExact
  rcases wpr2Step with wpr2Lands | wraps
  case inr =>
    have high := wraps.high
    refine Or.inr ⟨fun present => wraps.not_present ?_ present.wpr2, fun order => by omega⟩
    rw [← unbounded, heapExact, metaBytes]
    rfl
  have wpr2Below := wpr2Lands.below
  have wpr2Exact := wpr2Lands.exact
  rw [heapExact, metaBytes] at wpr2Exact
  by_cases room : 2 ^ 20 ≤ out.wpr2Addr.toNat
  · exact Or.inl ⟨bootLands, elfLands, heapLands, wpr2Lands, room⟩
  · have high : 2 ^ 63 ≤ out.nonwprHeapAddr.toNat := by
      have shape : out.nonwprHeapAddr = out.wpr2Addr - 0x100000 := by rw [← whole]; rfl
      have below := UInt64.toNat_sub out.wpr2Addr 0x100000
      rw [shape]
      omega
    have missing : i.nonwprHeapAddr = out.wpr2Addr.toNat - 2 ^ 20 := by
      rw [← unbounded, wpr2Exact]
      rfl
    refine Or.inr ⟨fun present => ?_, fun order => by omega⟩
    have there := present.nonwprHeap
    omega

end Exact

section Landing

variable {fbSize frtsAddr frtsSize bootSize elfSize : UInt64}
  (memory : fbSize.toNat < 2 ^ 52) (frts : frtsAddr.toNat < 2 ^ 52) (frtsMib : frtsSize.toNat = mib)
  (landed : Landed fbSize frtsAddr bootSize elfSize
    (layOut fbSize frtsAddr frtsSize bootSize elfSize))
include memory landed

omit memory in
theorem landed_heapSize : Lands 20 (layOut fbSize frtsAddr frtsSize bootSize elfSize).elfAddr
    (layOut fbSize frtsAddr frtsSize bootSize elfSize).heapAddr
    (layOut fbSize frtsAddr frtsSize bootSize elfSize).heapSize := by
  have below := landed.heap.below
  exact lands_of_le (a := 0x100000) (by decide) (by omega)

omit memory in
theorem landed_nonwprHeap :
    (layOut fbSize frtsAddr frtsSize bootSize elfSize).nonwprHeapAddr.toNat =
      (layOut fbSize frtsAddr frtsSize bootSize elfSize).wpr2Addr.toNat - 2 ^ 20 :=
  sub_toNat (y := 0x100000) landed.nonwprHeap

theorem landed_ordered (boot : 0 < bootSize.toNat) (elf : 0 < elfSize.toNat) :
    (layOut fbSize frtsAddr frtsSize bootSize elfSize).Ordered := by
  have need := heapNeed_toNat memory
  have bounds := requirement_bounds memory
  have nonwpr := landed_nonwprHeap landed
  obtain ⟨bootLands, elfLands, heapLands, wpr2Lands, room⟩ := landed
  have bootBelow := bootLands.below
  have elfBelow := elfLands.below
  have heapBelow := heapLands.below
  have wpr2Below := wpr2Lands.below
  have frtsEq : (layOut fbSize frtsAddr frtsSize bootSize elfSize).frtsAddr = frtsAddr := rfl
  generalize layOut fbSize frtsAddr frtsSize bootSize elfSize = out at *
  simp only [NvGspFbLayout.Ordered, UInt64.lt_iff_toNat_lt, UInt64.le_iff_toNat_le, frtsEq]
  omega

include frts frtsMib

omit memory landed in
theorem wpr2End_toNat (fbSize bootSize elfSize : UInt64) :
    (layOut fbSize frtsAddr frtsSize bootSize elfSize).wpr2End.toNat =
      frtsAddr.toNat + 2 ^ 20 := by
  rw [mib] at frtsMib
  have sum := add_toNat (x := frtsAddr) (y := frtsSize) (by omega)
  rw [frtsMib] at sum
  exact sum

theorem landed_matches :
    (ideal fbSize.toNat frtsAddr.toNat frtsSize.toNat bootSize.toNat elfSize.toNat).Matches
      (layOut fbSize frtsAddr frtsSize bootSize elfSize) := by
  have need := heapNeed_toNat memory
  have metaBytes : nvGspWprMetaSize.toNat = 256 := rfl
  have ends := wpr2End_toNat frts frtsMib fbSize bootSize elfSize
  have nonwpr := landed_nonwprHeap landed
  have heapSize := (landed_heapSize landed).exact
  obtain ⟨bootLands, elfLands, heapLands, wpr2Lands, room⟩ := landed
  have boot := bootLands.exact
  have elf := elfLands.exact
  have heap := heapLands.exact
  have wpr2 := wpr2Lands.exact
  rw [boot] at elf
  rw [elf, need] at heap
  rw [elf, heap] at heapSize
  rw [heap, metaBytes] at wpr2
  refine ⟨boot, elf, heap, heapSize, wpr2, ?_, ?_⟩
  · rw [ends]
    simp only [ideal, frtsMib, mib]
    push_cast
    rfl
  · rw [nonwpr, Int.ofNat_sub room, wpr2]
    rfl

omit frts in
/-- The regions in order; the last one ends at `wpr2End`. -/
theorem landed_wellLaid (ends : frtsAddr.toNat + 2 ^ 20 ≤ fbSize.toNat) :
    WellLaid (layOut fbSize frtsAddr frtsSize bootSize elfSize) := by
  have need := heapNeed_toNat memory
  have multiple := (requirement_bounds memory).2.2
  have metaBytes : nvGspWprMetaSize.toNat = 256 := rfl
  have nonwpr := landed_nonwprHeap landed
  have sized := landed_heapSize landed
  have sizedBelow := sized.below
  have sizedExact := sized.exact
  obtain ⟨bootLands, elfLands, heapLands, wpr2Lands, room⟩ := landed
  have bootBelow := bootLands.below
  have elfBelow := elfLands.below
  have heapBelow := heapLands.below
  have wpr2Below := wpr2Lands.below
  have heapAligned := heapLands.aligned
  have wpr2Aligned := wpr2Lands.aligned
  have frtsEq : (layOut fbSize frtsAddr frtsSize bootSize elfSize).frtsAddr = frtsAddr := rfl
  have frtsSizeEq : (layOut fbSize frtsAddr frtsSize bootSize elfSize).frtsSize = frtsSize := rfl
  have bootEq : (layOut fbSize frtsAddr frtsSize bootSize elfSize).bootSize = bootSize := rfl
  have elfEq : (layOut fbSize frtsAddr frtsSize bootSize elfSize).elfSize = elfSize := rfl
  have fbEq : (layOut fbSize frtsAddr frtsSize bootSize elfSize).fbSize = fbSize := rfl
  have reserve : (layOut fbSize frtsAddr frtsSize bootSize elfSize).nonwprHeapSize.toNat =
      2 ^ 20 := rfl
  generalize layOut fbSize frtsAddr frtsSize bootSize elfSize = out at *
  rw [mib] at frtsMib multiple
  constructor
  case ordered =>
    simp only [regions, List.pairwise_cons, List.mem_cons, List.not_mem_nil, or_false,
      false_imp_iff, implies_true, forall_eq_or_imp, forall_eq, List.Pairwise.nil, and_true, frtsEq,
      frtsSizeEq, bootEq, elfEq, reserve, metaBytes]
    omega
  case inside =>
    simp only [regions, List.mem_cons, List.not_mem_nil, or_false,
      forall_eq_or_imp, forall_eq, frtsEq, frtsSizeEq, bootEq, elfEq, fbEq, reserve, metaBytes]
    omega
  case heaps =>
    exact ⟨by omega, heapAligned⟩
  case wpr2 => exact wpr2Aligned
  case elf => exact elfLands.aligned
  case boot => exact bootLands.aligned
  case enough =>
    rw [fbEq]
    rw [floorTo] at sizedExact
    omega

omit memory in
theorem landed_subtractions : ∀ pair ∈ subtractions fbSize frtsAddr frtsSize bootSize elfSize,
    pair.2.toNat ≤ pair.1.toNat := by
  have ends := wpr2End_toNat frts frtsMib fbSize bootSize elfSize
  have reserve : (layOut fbSize frtsAddr frtsSize bootSize elfSize).nonwprHeapSize.toNat =
      2 ^ 20 := rfl
  obtain ⟨bootLands, elfLands, heapLands, wpr2Lands, room⟩ := landed
  have bootBelow := bootLands.below
  have elfBelow := elfLands.below
  have heapBelow := heapLands.below
  have wpr2Below := wpr2Lands.below
  simp only [subtractions, List.mem_cons, List.not_mem_nil, or_false, forall_eq_or_imp, forall_eq]
  generalize layOut fbSize frtsAddr frtsSize bootSize elfSize = out at *
  omega

end Landing

/-- The call succeeds exactly if the layout in unbounded integers has all its
addresses and ends within the memory, and is then that layout. -/
theorem layout_exact {fbSize frtsAddr frtsSize bootSize elfSize : UInt64}
    (memory : 0 < fbSize.toNat ∧ fbSize.toNat < 2 ^ 52) (frts : frtsAddr.toNat < 2 ^ 52)
    (frtsMib : frtsSize.toNat = mib) (boot : 0 < bootSize.toNat ∧ bootSize.toNat < 2 ^ 32)
    (elf : 0 < elfSize.toNat ∧ elfSize.toNat ≤ 2 ^ 30) :
    ∃ rc out, nvGspFbLayout fbSize frtsAddr frtsSize bootSize elfSize = (rc, some out) ∧
      (rc = nvGspOk ↔ (ideal fbSize.toNat frtsAddr.toNat frtsSize.toNat bootSize.toNat
        elfSize.toNat).Fits fbSize.toNat) ∧
      (rc = nvGspOk → (ideal fbSize.toNat frtsAddr.toNat frtsSize.toNat bootSize.toNat
        elfSize.toNat).Matches out ∧ WellLaid out) ∧
      ∀ pair ∈ subtractions fbSize frtsAddr frtsSize bootSize elfSize,
        pair.1.toNat < pair.2.toNat → rc = nvGspErrBounds := by
  have given : ¬ (fbSize = 0 ∨ frtsSize = 0 ∨ bootSize = 0 ∨ elfSize = 0) := by
    rw [mib] at frtsMib
    rintro (rfl | rfl | rfl | rfl) <;> simp only [UInt64.toNat_zero] at * <;> omega
  have ends := wpr2End_toNat frts frtsMib fbSize bootSize elfSize
  have idealEnds : (ideal fbSize.toNat frtsAddr.toNat frtsSize.toNat bootSize.toNat
      elfSize.toNat).wpr2End = (frtsAddr.toNat + 2 ^ 20 : Nat) := by
    simp only [ideal, frtsMib, mib]
    push_cast
    rfl
  have checked : (layOut fbSize frtsAddr frtsSize bootSize elfSize).wpr2End > fbSize ↔
      fbSize.toNat < frtsAddr.toNat + 2 ^ 20 := by
    rw [gt_iff_lt, UInt64.lt_iff_toNat_lt, ends]
  rw [nvGspFbLayout, if_neg given]
  -- The order check refuses exactly the layouts that wrapped.
  rcases landed_or_refused memory.2 frts boot.2 elf.2 frtsSize with landed | refused
  · have ordered := landed_ordered memory.2 landed boot.1 elf.1
    have laid := landed_matches memory.2 frts frtsMib landed
    have subs := landed_subtractions frts frtsMib landed
    by_cases past : (layOut fbSize frtsAddr frtsSize bootSize elfSize).wpr2End > fbSize
    · refine ⟨nvGspErrBounds, _, if_pos past, ?_, fun ok => absurd ok (by decide),
        fun _ _ _ => rfl⟩
      refine ⟨fun ok => absurd ok (by decide), fun fits => ?_⟩
      have within := fits.ends
      rw [idealEnds] at within
      rw [checked] at past
      omega
    · refine ⟨nvGspOk, layOut fbSize frtsAddr frtsSize bootSize elfSize, ?_, ?_,
        fun _ => ⟨laid, ?_⟩, fun pair member under => ?_⟩
      · rw [if_neg past]
        exact if_neg (not_not_intro ordered)
      · rw [checked] at past
        refine ⟨fun _ => ⟨?_, ?_, ?_, ?_, ?_, ?_⟩, fun _ => rfl⟩
        · exact laid.boot ▸ Int.natCast_nonneg _
        · exact laid.elf ▸ Int.natCast_nonneg _
        · exact laid.heap ▸ Int.natCast_nonneg _
        · exact laid.wpr2 ▸ Int.natCast_nonneg _
        · exact laid.nonwprHeap ▸ Int.natCast_nonneg _
        · rw [idealEnds]
          omega
      · rw [checked] at past
        exact landed_wellLaid memory.2 frtsMib landed (by omega)
      · have exact := subs pair member
        omega
  · obtain ⟨missing, unordered⟩ := refused
    refine ⟨nvGspErrBounds, layOut fbSize frtsAddr frtsSize bootSize elfSize, ?_, ?_,
      fun ok => absurd ok (by decide), fun _ _ _ => rfl⟩
    · dsimp only
      split
      · rfl
      · exact if_pos unordered
    · refine ⟨fun ok => absurd ok (by decide), fun fits => absurd ?_ missing⟩
      exact ⟨fits.boot, fits.elf, fits.heap, fits.wpr2, fits.nonwprHeap⟩

/-- A card of 12 GiB, with the sizes of the driver's own firmware. -/
theorem layout_exact_12gib :
    (ideal 0x300000000 0x2ff800000 0x100000 0x6c000 0x2500000).Fits 0x300000000 ∧
      ∃ out, nvGspFbLayout 0x300000000 0x2ff800000 0x100000 0x6c000 0x2500000 =
        (nvGspOk, some out) := by
  obtain ⟨rc, out, returned, succeeds, _⟩ := @layout_exact 0x300000000 0x2ff800000 0x100000 0x6c000
    0x2500000 (by decide) (by decide) (by decide) (by decide) (by decide)
  have fine : rc = nvGspOk :=
    (congrArg Prod.fst returned).symm.trans (by decide)
  rw [fine] at returned
  exact ⟨succeeds.mp fine, out, returned⟩

end GspDriver.GspFbLayout
