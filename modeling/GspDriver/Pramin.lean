import GspDriver.LittleEndian
import GspDriver.Base.Loop

/-!
The PRAMIN window of gmmu.c: processor access to video memory through a 1 MiB
window of BAR0 that register 0x1700 aims. Video memory is flat and byte
addressed. The driver threads a cache `win_base` of the aimed address; `~0`
marks it unknown. `accesses` lists the BAR0 accesses, newest first, with each
window access at the video-memory address where it lands. Pointer arguments
are always present, so the null tests of the source have no counterpart.
-/

namespace GspDriver.Pramin

open Bytes LittleEndian Loop Words

def nvPbusBar0Window : UInt32 := 0x00001700
def nvPbusBar0WindowBaseShift : UInt64 := 16
def nvPbusBar0WindowTargetVidMem : UInt32 := 0
def nvPraminWindowOffset : UInt32 := 0x00700000
def nvPraminWindowSize : UInt32 := 0x00100000
def nvPraminWindowMask : UInt64 := 0x000fffff

inductive Access where
  | regRead (off : UInt32)
  | regWrite (off val : UInt32)
  | vramRead (addr : Nat)
  | vramWrite (addr : Nat) (val : UInt32)
  deriving DecidableEq

/-- BAR0 of the card: the window register, the other registers and the video
memory that the window shows. -/
structure Mmio where
  window : UInt32
  regs : UInt32 → UInt32
  vram : Mem
  accesses : List Access

def Mmio.windowBase (io : Mmio) : Nat := (io.window &&& 0x00ffffff).toNat * 2 ^ 16

def inWindow (off : UInt32) : Bool :=
  nvPraminWindowOffset ≤ off && off < nvPraminWindowOffset + nvPraminWindowSize

def Mmio.rd (io : Mmio) (off : UInt32) : UInt32 × Mmio :=
  if inWindow off then
    let addr := io.windowBase + (off - nvPraminWindowOffset).toNat
    (ld32 io.vram addr, { io with accesses := .vramRead addr :: io.accesses })
  else if off = nvPbusBar0Window then
    (io.window, { io with accesses := .regRead off :: io.accesses })
  else
    (io.regs off, { io with accesses := .regRead off :: io.accesses })

def Mmio.wr (io : Mmio) (off val : UInt32) : Mmio :=
  if inWindow off then
    let addr := io.windowBase + (off - nvPraminWindowOffset).toNat
    { io with vram := st32 io.vram addr val, accesses := .vramWrite addr val :: io.accesses }
  else if off = nvPbusBar0Window then
    { io with window := val, accesses := .regWrite off val :: io.accesses }
  else
    { io with
      regs := fun reg => if reg = off then val else io.regs reg
      accesses := .regWrite off val :: io.accesses }

/-- BAR0 together with the caller's `win_base`. -/
structure Aperture where
  io : Mmio
  winBase : UInt64

def praminAim (s : Aperture) (phys : UInt64) : Aperture :=
  let base := phys &&& ~~~nvPraminWindowMask
  if s.winBase = base then s
  else
    let reg := (base >>> nvPbusBar0WindowBaseShift).toUInt32 |||
      (nvPbusBar0WindowTargetVidMem <<< 24)
    { io := s.io.wr nvPbusBar0Window reg, winBase := base }

def windowOffset (phys : UInt64) : UInt32 :=
  nvPraminWindowOffset + (phys &&& nvPraminWindowMask).toUInt32

def nvPraminRd32 (s : Aperture) (phys : UInt64) : UInt32 × Aperture :=
  let aimed := praminAim s phys
  let read := aimed.io.rd (windowOffset phys)
  (read.1, { aimed with io := read.2 })

def nvPraminWr32 (s : Aperture) (phys : UInt64) (val : UInt32) : Aperture :=
  let aimed := praminAim s phys
  { aimed with io := aimed.io.wr (windowOffset phys) val }

def nvPraminWr64 (s : Aperture) (phys val : UInt64) : Aperture :=
  nvPraminWr32 (nvPraminWr32 s phys (val &&& 0xffffffff).toUInt32) (phys + 4) (val >>> 32).toUInt32

def nvPraminFill (s : Aperture) (phys : UInt64) (len val : UInt32) : Aperture :=
  forStep len.toNat 4 (fun i s => nvPraminWr32 s (phys + UInt64.ofNat i) val) s

/-! The window is transparent. `Tracks` says that the cache agrees with the
register and what the registers and the flat memory hold; every access with an
address the window can reach keeps it, whatever was aimed before. -/

def reach : Nat := 2 ^ 40

def Coherent (s : Aperture) : Prop :=
  s.winBase = ~~~0 ∨ s.winBase.toNat = s.io.windowBase

structure Tracks (s : Aperture) (regs : UInt32 → UInt32) (m : Mem) : Prop where
  coherent : Coherent s
  regs_eq : s.io.regs = regs
  vram_eq : s.io.vram = m

theorem tracks_self {s : Aperture} (coherent : Coherent s) : Tracks s s.io.regs s.io.vram :=
  ⟨coherent, rfl, rfl⟩

theorem base_toNat (phys : UInt64) :
    (phys &&& ~~~nvPraminWindowMask).toNat = phys.toNat / 2 ^ 20 * 2 ^ 20 :=
  and_not_mask_toNat phys (by decide)

theorem windowOffset_toNat (phys : UInt64) :
    (windowOffset phys).toNat = 0x700000 + phys.toNat % 2 ^ 20 := by
  have low : (phys &&& nvPraminWindowMask).toNat = phys.toNat % 2 ^ 20 :=
    and_mask_toNat phys (by decide)
  have small := Nat.mod_lt phys.toNat (show 0 < 2 ^ 20 by omega)
  rw [windowOffset, UInt32.toNat_add, UInt64.toNat_toUInt32, low]
  simp only [nvPraminWindowOffset, UInt32.reduceToNat]
  omega

theorem windowOffset_inside (phys : UInt64) : inWindow (windowOffset phys) = true := by
  have place := windowOffset_toNat phys
  have small := Nat.mod_lt phys.toNat (show 0 < 2 ^ 20 by omega)
  simp only [inWindow, Bool.and_eq_true, decide_eq_true_eq, UInt32.le_iff_toNat_le,
    UInt32.lt_iff_toNat_lt, place]
  simp only [nvPraminWindowOffset, nvPraminWindowSize, UInt32.reduceAdd, UInt32.reduceToNat]
  omega

theorem windowOffset_landing (io : Mmio) (phys : UInt64)
    (aimed : io.windowBase = phys.toNat / 2 ^ 20 * 2 ^ 20) :
    io.windowBase + (windowOffset phys - nvPraminWindowOffset).toNat = phys.toNat := by
  have place := windowOffset_toNat phys
  have offset : nvPraminWindowOffset.toNat = 0x700000 := by decide
  have ordered : nvPraminWindowOffset ≤ windowOffset phys := by
    rw [UInt32.le_iff_toNat_le, place, offset]
    omega
  rw [UInt32.toNat_sub_of_le _ _ ordered, place, offset, aimed]
  omega

/-- The value written to 0x1700 aims the window at `base` exactly: below the
reach of the window the shifted address fits the 24-bit field. -/
theorem aim_register (phys : UInt64) (inside : phys.toNat < reach) :
    ((((phys &&& ~~~nvPraminWindowMask) >>> nvPbusBar0WindowBaseShift).toUInt32 |||
      (nvPbusBar0WindowTargetVidMem <<< 24)) &&& 0x00ffffff).toNat * 2 ^ 16 =
      phys.toNat / 2 ^ 20 * 2 ^ 20 := by
  have shift : nvPbusBar0WindowBaseShift.toNat = 16 := by decide
  have target : nvPbusBar0WindowTargetVidMem <<< (24 : UInt32) = 0 := by decide
  have field : (0x00ffffff : UInt32).toNat = 2 ^ 24 - 1 := by decide
  have moved : ((phys &&& ~~~nvPraminWindowMask) >>> nvPbusBar0WindowBaseShift).toNat =
      phys.toNat / 2 ^ 20 * 2 ^ 4 := by
    rw [shr_toNat (by rw [shift]; omega), base_toNat, shift]
    omega
  rw [target, UInt32.or_zero, UInt32.toNat_and, field, Nat.and_two_pow_sub_one_eq_mod,
    UInt64.toNat_toUInt32, moved]
  simp only [reach] at inside
  omega

theorem aim_spec (s : Aperture) (regs : UInt32 → UInt32) (m : Mem) (tracks : Tracks s regs m)
    (phys : UInt64) (inside : phys.toNat < reach) :
    Tracks (praminAim s phys) regs m ∧
      (praminAim s phys).io.windowBase = phys.toNat / 2 ^ 20 * 2 ^ 20 := by
  have base := base_toNat phys
  simp only [praminAim]
  split
  · rename_i cached
    refine ⟨tracks, ?_⟩
    rcases tracks.coherent with unknown | agreed
    · -- `~0` has its low bits set, so it is no window address
      rw [unknown] at cached
      rw [← cached] at base
      simp only [UInt64.toNat_not, UInt64.toNat_zero, UInt64.size] at base
      omega
    · rw [← agreed, cached, base]
  · have aimed := aim_register phys inside
    have outside : inWindow nvPbusBar0Window = false := by decide
    simp only [Mmio.wr, outside, Bool.false_eq_true, ↓reduceIte]
    refine ⟨⟨Or.inr ?_, tracks.regs_eq, tracks.vram_eq⟩, aimed⟩
    exact base.trans aimed.symm

theorem wr32_tracks (s : Aperture) (regs : UInt32 → UInt32) (m : Mem) (tracks : Tracks s regs m)
    (phys : UInt64) (val : UInt32) (inside : phys.toNat < reach) :
    Tracks (nvPraminWr32 s phys val) regs (store m phys.toNat 4 val.toNat) := by
  obtain ⟨aimed, window⟩ := aim_spec s regs m tracks phys inside
  have landing := windowOffset_landing (praminAim s phys).io phys window
  simp only [nvPraminWr32, Mmio.wr, windowOffset_inside, ↓reduceIte, landing]
  refine ⟨aimed.coherent, aimed.regs_eq, ?_⟩
  rw [aimed.vram_eq]
  exact st32_eq_store m phys.toNat val

theorem rd32_tracks (s : Aperture) (regs : UInt32 → UInt32) (m : Mem) (tracks : Tracks s regs m)
    (phys : UInt64) (inside : phys.toNat < reach) :
    (nvPraminRd32 s phys).1 = ld32 m phys.toNat ∧ Tracks (nvPraminRd32 s phys).2 regs m := by
  obtain ⟨aimed, window⟩ := aim_spec s regs m tracks phys inside
  have landing := windowOffset_landing (praminAim s phys).io phys window
  simp only [nvPraminRd32, Mmio.rd, windowOffset_inside, ↓reduceIte, landing]
  exact ⟨by rw [aimed.vram_eq], aimed.coherent, aimed.regs_eq, aimed.vram_eq⟩

theorem wr64_tracks (s : Aperture) (regs : UInt32 → UInt32) (m : Mem) (tracks : Tracks s regs m)
    (phys val : UInt64) (inside : phys.toNat + 4 < reach) :
    Tracks (nvPraminWr64 s phys val) regs (store m phys.toNat 8 val.toNat) := by
  have low : (val &&& 0xffffffff).toUInt32.toNat = val.toNat % 256 ^ 4 := by
    have mask : (val &&& 0xffffffff).toNat = val.toNat % 2 ^ 32 :=
      and_mask_toNat val (by decide)
    rw [UInt64.toNat_toUInt32, mask]
    omega
  have high : (val >>> 32).toUInt32.toNat = val.toNat / 256 ^ 4 := by
    have moved : (val >>> 32).toNat = val.toNat / 2 ^ 32 := shr_toNat (by decide)
    have bound := val.toNat_lt
    rw [UInt64.toNat_toUInt32, moved]
    omega
  have next : (phys + 4).toNat = phys.toNat + 4 := by
    simp only [reach] at inside
    exact add_toNat (by simp only [UInt64.reduceToNat]; omega)
  have first := wr32_tracks s regs m tracks phys (val &&& 0xffffffff).toUInt32 (by omega)
  have second := wr32_tracks _ regs _ first (phys + 4) (val >>> 32).toUInt32 (by omega)
  rw [next, low, high, store_mod, store_append] at second
  exact second

theorem store_zero (m : Mem) (a n : Nat) : store m a n 0 = clear m a n := by
  funext x
  simp [store, clear]

theorem fill_tracks (s : Aperture) (regs : UInt32 → UInt32) (m : Mem) (tracks : Tracks s regs m)
    (phys : UInt64) (len : UInt32) (whole : 4 ∣ len.toNat)
    (inside : phys.toNat + len.toNat ≤ reach) :
    Tracks (nvPraminFill s phys len 0) regs (clear m phys.toNat len.toNat) := by
  obtain ⟨words, shape⟩ := whole
  have count : (len.toNat + 4 - 1) / 4 = words := by omega
  simp only [nvPraminFill, forStep, count]
  have swept := forCount_invariant words
    (fun k s => nvPraminWr32 s (phys + UInt64.ofNat (k * 4)) 0) s
    (fun k s => Tracks s regs (clear m phys.toNat (4 * k)))
  rw [shape]
  apply swept
  · have empty : clear m phys.toNat (4 * 0) = m := by
      funext x
      exact clear_outside m phys.toNat 0 x (by omega)
    rwa [empty]
  · intro k below state reached
    have offset : (UInt64.ofNat (k * 4)).toNat = k * 4 := ofNat_toNat (by
      simp only [reach] at inside
      omega)
    have place : (phys + UInt64.ofNat (k * 4)).toNat = phys.toNat + 4 * k := by
      simp only [reach] at inside
      rw [add_toNat (by omega), offset]
      omega
    have written := wr32_tracks state regs _ reached (phys + UInt64.ofNat (k * 4)) 0 (by omega)
    rw [place, UInt32.toNat_zero, store_zero, clear_append] at written
    exact written

end GspDriver.Pramin
