import GspDriver.Pramin
import GspDriver.Base.Radix

/-!
Host-built page tables of gmmu.c: the plan of a multi-branch range, its
construction through the PRAMIN window, and the page walk of the hardware.
The levels are PD3, PD2, PD1, PD0 and SPT, numbered 0 to 4 from the root; a
"level 5 table" is a mapped page. Level arrays are functions of that number,
read below 5 only. The walk is written from the entry layout in gmmu.h and
shares nothing with the planner.
-/

namespace GspDriver.Gmmu

open Bytes LittleEndian Loop Words Pramin Radix

def nvGmmuVaBits : UInt64 := 49
def nvGmmuLevels : Nat := 5
def nvGmmuPageShift : UInt64 := 12
def nvGmmuPd0Shift : UInt64 := 21
def nvGmmuSptEntries : UInt64 := 512
def nvGmmuPdeSize : UInt64 := 8
def nvGmmuPd0eSize : UInt64 := 16
def nvGmmuPteSize : UInt64 := 8
def nvGmmuPd0SmallOff : UInt64 := 8
def nvGmmuPteValid : UInt64 := (1 : UInt64) <<< 0
def nvGmmuPtePriv : UInt64 := (1 : UInt64) <<< 5
def nvGmmuPteRo : UInt64 := (1 : UInt64) <<< 6
def nvGmmuPteAddrShift : UInt64 := 4
def nvGmmuPdeApertureVidmem : UInt64 := (1 : UInt64) <<< 1
def nvGmmuPdeAddrShift : UInt64 := 4
def praminPhysEnd : UInt64 := (1 : UInt64) <<< 40
def gmmuPageBytes : UInt64 := 0x1000

def rangeShift (level : Nat) : UInt64 := [49, 47, 38, 29, 21].getD level 0
def rangeEntries (level : Nat) : UInt64 := [4, 512, 512, 256, 512].getD level 0

def nvGmmuMakePteVram (phys : UInt64) (readOnly priv : Bool) : UInt64 :=
  let data := (phys >>> nvGmmuPteAddrShift) ||| nvGmmuPteValid
  let data := if priv then data ||| nvGmmuPtePriv else data
  if readOnly then data ||| nvGmmuPteRo else data

def nvGmmuMakePdeVram (ptPhys : UInt64) : UInt64 :=
  (ptPhys >>> nvGmmuPdeAddrShift) ||| nvGmmuPdeApertureVidmem

def nvGmmuZeroTable (s : Aperture) (tablePhys : UInt64) (bytes : UInt32) : Aperture :=
  nvPraminFill s tablePhys bytes 0

structure NvGmmuRange where
  va : UInt64
  bytes : UInt64
  tablePhys : UInt64
  tableBytes : UInt64
  levelPhys : Nat → UInt64
  levelCount : Nat → UInt32

def NvGmmuRange.zero : NvGmmuRange := ⟨0, 0, 0, 0, fun _ => 0, fun _ => 0⟩

def planLevel (last : UInt64) (level : Nat) (p : NvGmmuRange) : NvGmmuRange :=
  let count := (last >>> rangeShift level) - (p.va >>> rangeShift level) + 1
  { p with
    levelCount := fun i => if i = level then count.toUInt32 else p.levelCount i
    levelPhys := fun i => if i = level then p.tablePhys + p.tableBytes else p.levelPhys i
    tableBytes := p.tableBytes + count * gmmuPageBytes }

/-- Return code and `*out`. -/
def nvGmmuRangePlan (va bytes tablePhys capacity : UInt64) : Int × NvGmmuRange :=
  let vaEnd : UInt64 := (1 : UInt64) <<< nvGmmuVaBits
  if bytes = 0 ∨ ((va ||| bytes ||| tablePhys) &&& (gmmuPageBytes - 1)) ≠ 0 ∨
      va ≥ vaEnd ∨ bytes > vaEnd - va ∨
      bytes > praminPhysEnd ∨ tablePhys ≥ praminPhysEnd then
    (-1, .zero)
  else
    let p := { NvGmmuRange.zero with va := va, bytes := bytes, tablePhys := tablePhys }
    let last := va + bytes - 1
    let p := forCount nvGmmuLevels (planLevel last) p
    if p.tableBytes > praminPhysEnd - tablePhys then (-1, .zero)
    else (if capacity < p.tableBytes then -2 else 0, p)

/-- The entry that links child table `n` of level `child` into its parent. -/
def linkChild (r : NvGmmuRange) (child n : Nat) (s : Aperture) : Aperture :=
  let parent := child - 1
  let first := r.va >>> rangeShift child
  let address := (first + UInt64.ofNat n) <<< rangeShift child
  let parentNum := (address >>> rangeShift parent) - (r.va >>> rangeShift parent)
  let index := (first + UInt64.ofNat n) &&& (rangeEntries parent - 1)
  let stride := if parent = 3 then nvGmmuPd0eSize else nvGmmuPdeSize
  let entry := r.levelPhys parent + parentNum * gmmuPageBytes + index * stride
  let entry := if parent = 3 then entry + nvGmmuPd0SmallOff else entry
  nvPraminWr64 s entry (nvGmmuMakePdeVram (r.levelPhys child + UInt64.ofNat n * gmmuPageBytes))

def mapPage (r : NvGmmuRange) (phys : UInt64) (offset : Nat) (s : Aperture) : Aperture :=
  let address := r.va + UInt64.ofNat offset
  let leaf := (address >>> nvGmmuPd0Shift) - (r.va >>> nvGmmuPd0Shift)
  let index := (address >>> nvGmmuPageShift) &&& (nvGmmuSptEntries - 1)
  nvPraminWr64 s (r.levelPhys 4 + leaf * gmmuPageBytes + index * nvGmmuPteSize)
    (nvGmmuMakePteVram (phys + UInt64.ofNat offset) false false)

def nvGmmuRangeBuild (s : Aperture) (r : NvGmmuRange) (phys : UInt64) : Int × Aperture :=
  let (rc, checked) := nvGmmuRangePlan r.va r.bytes r.tablePhys r.tableBytes
  if rc ≠ 0 ∨ r.tableBytes ≠ checked.tableBytes ∨ (phys &&& (gmmuPageBytes - 1)) ≠ 0 ∨
      phys ≥ praminPhysEnd ∨ r.bytes > praminPhysEnd - phys then
    (-1, s)
  else if ∃ level < nvGmmuLevels, r.levelPhys level ≠ checked.levelPhys level ∨
      r.levelCount level ≠ checked.levelCount level then
    (-1, s)
  else if phys < r.tablePhys + r.tableBytes ∧ r.tablePhys < phys + r.bytes then
    (-1, s)
  else
    let s := forStep r.tableBytes.toNat 0x1000 (fun offset s =>
      nvGmmuZeroTable s (r.tablePhys + UInt64.ofNat offset) 0x1000) s
    let s := forCount (nvGmmuLevels - 1) (fun k s =>
      forCount (r.levelCount (k + 1)).toNat (linkChild r (k + 1)) s) s
    let s := forStep r.bytes.toNat 0x1000 (mapPage r phys) s
    (0, s)

end GspDriver.Gmmu
