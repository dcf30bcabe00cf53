import GspDriver.FwsecPatch

/-!
The region for WPR2's lowest part, FRTS, as fb_layout.c derives it: under the
VGA workspace if the display reports one, else under the last MiB of memory.
A workspace that starts below that MiB is replaced by a default; nothing bounds
one that starts above the memory.
-/

namespace GspDriver.FbLayout

open Words Bytes LittleEndian Falcon FwsecPatch

def nvUsableFbSizeInMb : UInt32 := 0x001183a4
def nvPdispVgaWorkspaceBase : UInt32 := 0x00625f04
def nvFuseStatusOptDisplay : UInt32 := 0x00820c04
def nvFrtsSize : UInt64 := 0x100000
def nvPraminSize : UInt64 := 0x100000
def nvVbiosWorkspaceSize : UInt64 := 0x20000
def nvFrtsAlign : UInt64 := 0x20000

def nvFbVidmemSize (io : Mmio) : UInt64 × Mmio :=
  let read := io.rd nvUsableFbSizeInMb
  (read.1.toUInt64 * 0x100000, read.2)

def nvFbSupportsDisplay (io : Mmio) : Bool × Mmio :=
  let read := io.rd nvFuseStatusOptDisplay
  (read.1 &&& 1 = 0, read.2)

def vgaStart (io : Mmio) (fbEnd base : UInt64) : UInt64 × Mmio :=
  let display := nvFbSupportsDisplay io
  if display.1 then
    let read := display.2.rd nvPdispVgaWorkspaceBase
    let valid := (read.1 >>> 3) &&& 1
    if valid ≠ 0 then
      let addr := (read.1 >>> 8).toUInt64 <<< 16
      if addr < base then (fbEnd - nvVbiosWorkspaceSize, read.2) else (addr, read.2)
    else (base, read.2)
  else (base, display.2)

/-- The address and size of the region, `none` for -1. -/
def nvFbComputeFrts (io : Mmio) : Option (UInt64 × UInt64) × Mmio :=
  let vidmem := nvFbVidmemSize io
  let fbEnd := vidmem.1
  if fbEnd < nvPraminSize then (none, vidmem.2)
  else
    let base := fbEnd - nvPraminSize
    let vga := vgaStart vidmem.2 fbEnd base
    let aligned := vga.1 &&& ~~~(nvFrtsAlign - 1)
    if aligned < nvFrtsSize then (none, vga.2)
    else (some (aligned - nvFrtsSize, nvFrtsSize), vga.2)

/-! The values read, in numbers. -/

/-- Bytes of memory. -/
def vidmem (io : Mmio) : Nat := (io.answers.get 0).toNat * 2 ^ 20

/-- The VGA workspace that an enabled display reports as valid. -/
def workspace (io : Mmio) : Option Nat :=
  if io.answers.get 1 &&& 1 = 0 ∧ (io.answers.get 2 >>> 3) &&& 1 ≠ 0 then
    some ((io.answers.get 2).toNat / 2 ^ 8 * 2 ^ 16)
  else none

/-- Where the region ends, before it is rounded down. -/
def regionEnd (io : Mmio) : Nat :=
  match workspace io with
  | some start => if start < vidmem io - 2 ^ 20 then vidmem io - 2 ^ 17 else start
  | none => vidmem io - 2 ^ 20

theorem vidmem_toNat (io : Mmio) : (nvFbVidmemSize io).1.toNat = vidmem io := by
  have bound := (io.answers.get 0).toNat_lt
  have mib : (0x100000 : UInt64).toNat = 2 ^ 20 := rfl
  have product := mul_toNat (x := (io.answers.get 0).toUInt64) (y := 0x100000)
    (by rw [UInt32.toNat_toUInt64, mib]; omega)
  rw [UInt32.toNat_toUInt64, mib] at product
  exact product

theorem address_toNat (r : UInt32) :
    ((r >>> 8).toUInt64 <<< 16).toNat = r.toNat / 2 ^ 8 * 2 ^ 16 := by
  have bound := r.toNat_lt
  have eight : (8 : UInt32).toNat % 32 = 8 := rfl
  have sixteen : (16 : UInt64).toNat = 16 := rfl
  have page : (r >>> 8).toUInt64.toNat = r.toNat / 2 ^ 8 := by
    rw [UInt32.toNat_toUInt64, UInt32.toNat_shiftRight, eight, Nat.shiftRight_eq_div_pow]
  rw [shl_toNat (by rw [sixteen]; omega) (by rw [sixteen, page]; omega), sixteen, page]

theorem vgaStart_toNat (io : Mmio) (enough : 2 ^ 20 ≤ vidmem io) :
    (vgaStart (nvFbVidmemSize io).2 (nvFbVidmemSize io).1
      ((nvFbVidmemSize io).1 - nvPraminSize)).1.toNat = regionEnd io := by
  have size := vidmem_toNat io
  have mib : nvPraminSize.toNat = 2 ^ 20 := rfl
  have reserve : nvVbiosWorkspaceSize.toNat = 2 ^ 17 := rfl
  have base : ((nvFbVidmemSize io).1 - nvPraminSize).toNat = vidmem io - 2 ^ 20 := by
    rw [sub_toNat (by omega), size, mib]
  have under : ((nvFbVidmemSize io).1 - nvVbiosWorkspaceSize).toNat = vidmem io - 2 ^ 17 := by
    rw [sub_toNat (by omega), size, reserve]
  have address := address_toNat (io.answers.get 2)
  have word : ((nvFbSupportsDisplay (nvFbVidmemSize io).2).2.rd nvPdispVgaWorkspaceBase).1 =
      io.answers.get 2 := rfl
  unfold vgaStart regionEnd workspace
  simp only [word]
  by_cases enabled : io.answers.get 1 &&& 1 = 0
  · have shown : (nvFbSupportsDisplay (nvFbVidmemSize io).2).1 = true := decide_eq_true enabled
    by_cases valid : (io.answers.get 2 >>> 3) &&& 1 ≠ 0
    · simp only [shown, ↓reduceIte, if_pos valid, if_pos (And.intro enabled valid),
        UInt64.lt_iff_toNat_lt, address, base]
      split
      · exact under
      · exact address
    · rw [if_pos shown, if_neg valid, if_neg fun both => valid both.2]
      exact base
  · have hidden : ¬ (nvFbSupportsDisplay (nvFbVidmemSize io).2).1 = true :=
      fun shown => enabled (of_decide_eq_true shown)
    rw [if_neg hidden, if_neg fun both => enabled both.1]
    exact base

/-- What a call that returns 0 has computed. -/
theorem compute_frts_spec {io : Mmio} {addr size : UInt64}
    (returned : (nvFbComputeFrts io).1 = some (addr, size)) :
    2 ^ 20 ≤ vidmem io ∧ size.toNat = 2 ^ 20 ∧
      addr.toNat + 2 ^ 20 = regionEnd io / 2 ^ 17 * 2 ^ 17 := by
  have mib : nvPraminSize.toNat = 2 ^ 20 := rfl
  have frts : nvFrtsSize.toNat = 2 ^ 20 := rfl
  simp only [nvFbComputeFrts] at returned
  split at returned
  · cases returned
  rename_i enough
  rw [UInt64.lt_iff_toNat_lt, vidmem_toNat, mib, Nat.not_lt] at enough
  have rounded := and_not_mask_toNat (vgaStart (nvFbVidmemSize io).2 (nvFbVidmemSize io).1
    ((nvFbVidmemSize io).1 - nvPraminSize)).1 (k := 17)
    (show (nvFrtsAlign - 1).toNat = 2 ^ 17 - 1 by decide)
  rw [vgaStart_toNat io enough] at rounded
  split at returned
  · cases returned
  rename_i room
  rw [UInt64.lt_iff_toNat_lt, rounded, frts, Nat.not_lt] at room
  cases returned
  refine ⟨enough, frts, ?_⟩
  rw [sub_toNat (by rw [rounded, frts]; exact room), rounded, frts]
  omega

/-! The region, and the one that the FRTS command names in pages of 4 KiB. -/

structure Inside (io : Mmio) (first bytes : Nat) : Prop where
  aligned : 2 ^ 17 ∣ first
  size : bytes = 2 ^ 20
  within : first + bytes ≤ vidmem io

def commandFirst (ucode : Mem) (rv : Nat) : Nat :=
  (ld32 ucode (rv + szReadvbios + 8)).toNat * 2 ^ 12

def commandBytes (ucode : Mem) (rv : Nat) : Nat :=
  (ld32 ucode (rv + szReadvbios + 12)).toNat * 2 ^ 12

theorem page_field (x : UInt64) : (x >>> 12).toUInt32.toNat = x.toNat / 2 ^ 12 % 2 ^ 32 := by
  have twelve : (12 : UInt64).toNat = 12 := rfl
  rw [UInt64.toNat_toUInt32, shr_toNat (by rw [twelve]; omega), twelve]

theorem command_first (ucode : Mem) (rv : Nat) (addr size : UInt64) :
    commandFirst (frtsCommand ucode rv addr size) rv =
      addr.toNat / 2 ^ 12 % 2 ^ 32 * 2 ^ 12 := by
  simp only [commandFirst, frtsCommand, szReadvbios, ld32_toNat, st32_eq_store]
  rw [load_store_apart _ _ _ _ _ _ (by omega), load_store_apart _ _ _ _ _ _ (by omega),
    load_store_same, page_field, Nat.mod_eq_of_lt (by omega)]

theorem command_bytes (ucode : Mem) (rv : Nat) (addr size : UInt64) :
    commandBytes (frtsCommand ucode rv addr size) rv =
      size.toNat / 2 ^ 12 % 2 ^ 32 * 2 ^ 12 := by
  simp only [commandBytes, frtsCommand, szReadvbios, ld32_toNat, st32_eq_store]
  rw [load_store_apart _ _ _ _ _ _ (by omega), load_store_same, page_field,
    Nat.mod_eq_of_lt (by omega)]

/-- The region and the command stay in memory exactly if the display reports no
workspace that starts 128 KiB or more above the memory's end. -/
theorem frts_inside_iff (io : Mmio) {addr size : UInt64}
    (returned : (nvFbComputeFrts io).1 = some (addr, size)) :
    (Inside io addr.toNat size.toNat ∧ ∀ ucode rv,
      commandFirst (frtsCommand ucode rv addr size) rv +
        commandBytes (frtsCommand ucode rv addr size) rv ≤ vidmem io) ↔
      ∀ start, workspace io = some start → start < vidmem io + 2 ^ 17 := by
  obtain ⟨enough, bytes, ends⟩ := compute_frts_spec returned
  -- The region ends at the workspace's start, rounded down to 128 KiB, or at the memory's end.
  have whole : 2 ^ 17 ∣ vidmem io := Dvd.dvd.mul_left (pow_dvd_pow 2 (by omega)) _
  have within : addr.toNat + size.toNat ≤ vidmem io ↔
      ∀ start, workspace io = some start → start < vidmem io + 2 ^ 17 := by
    rw [bytes, ends, regionEnd]
    cases workspace io with
    | none =>
        constructor
        · intro _ start reported
          cases reported
        · intro _
          dsimp only
          omega
    | some start =>
        constructor
        · intro inside other same
          cases same
          dsimp only at inside
          split at inside
          · omega
          · omega
        · intro below
          have low := below start rfl
          dsimp only
          split
          · omega
          · omega
  constructor
  · intro inside
    exact within.mp inside.1.within
  · intro below
    have fits := within.mpr below
    refine ⟨⟨?_, bytes, fits⟩, fun ucode rv => ?_⟩
    · omega
    · rw [command_first, command_bytes]
      omega

/-! A card of 12 GiB. -/

def registers (mb fuse vga : UInt32) : Mmio :=
  { answers := Stream'.cons mb (Stream'.cons fuse (Stream'.cons vga (Stream'.const 0))), trace := [] }

theorem frts_inside_iff_below : Inside (registers 0x3000 0 0x02fffe08) 0x2ffee0000 0x100000 := by
  have inside := @frts_inside_iff (registers 0x3000 0 0x02fffe08) 0x2ffee0000 0x100000 (by decide)
  have below : ∀ start, workspace (registers 0x3000 0 0x02fffe08) = some start →
      start < vidmem (registers 0x3000 0 0x02fffe08) + 2 ^ 17 := by
    intro start reported
    have there : workspace (registers 0x3000 0 0x02fffe08) = some 0x2fffe0000 := by decide
    cases there.symm.trans reported
    decide
  exact (inside.mpr below).1

/-- The reported workspace starts 128 KiB above the end of memory. -/
theorem frts_outside :
    ¬ ∀ (io : Mmio) (addr size : UInt64), (nvFbComputeFrts io).1 = some (addr, size) →
      addr.toNat + size.toNat ≤ vidmem io := by
  intro claim
  have outside := claim (registers 0x3000 0 0x03000208) 0x2fff20000 0x100000 (by decide)
  exact absurd outside (by decide)

end GspDriver.FbLayout
