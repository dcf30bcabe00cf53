import GspDriver.LittleEndian

/-!
Parts of gsp_disp.c: the first detailed timing of an EDID, the method streams
of the display channels, and the ctx-dma descriptor of a surface. A stream is
the list of its pairs of a header and a data word; a channel latches the data
word last sent to a method address.
-/

namespace GspDriver.GspDisp

open Bytes LittleEndian

structure NvEdidTiming where
  pclkKhz : UInt32
  hact : UInt32
  hblank : UInt32
  hsyncOff : UInt32
  hsyncW : UInt32
  vact : UInt32
  vblank : UInt32
  vsyncOff : UInt32
  vsyncW : UInt32
  hsyncPos : UInt8
  vsyncPos : UInt8

/-- The first detailed timing lies at byte 54; a zero pixel clock marks another descriptor. -/
def nvEdidParseDtd (edid : Mem) (edidLen : UInt32) : Option NvEdidTiming :=
  if edidLen < 128 then none
  else
    let d := fun i => (edid (54 + i)).toUInt32
    let pclk := d 0 ||| (d 1 <<< (8 : UInt32))
    if pclk = 0 then none
    else some {
      pclkKhz := pclk * 10
      hact := d 2 ||| ((d 4 &&& 0xf0) <<< (4 : UInt32))
      hblank := d 3 ||| ((d 4 &&& 0x0f) <<< (8 : UInt32))
      vact := d 5 ||| ((d 7 &&& 0xf0) <<< (4 : UInt32))
      vblank := d 6 ||| ((d 7 &&& 0x0f) <<< (8 : UInt32))
      hsyncOff := d 8 ||| ((d 11 &&& 0xc0) <<< (2 : UInt32))
      hsyncW := d 9 ||| ((d 11 &&& 0x30) <<< (4 : UInt32))
      vsyncOff := (d 10 >>> (4 : UInt32)) ||| ((d 11 &&& 0x0c) <<< (2 : UInt32))
      vsyncW := (d 10 &&& 0x0f) ||| ((d 11 &&& 0x03) <<< (4 : UInt32))
      hsyncPos := if d 17 &&& 0x02 ≠ 0 then 1 else 0
      vsyncPos := if d 17 &&& 0x04 ≠ 0 then 1 else 0 }

/-- A byte and a high nibble in the place above it make 12 bits. -/
theorem twelve_bits (low high : UInt8) :
    (low.toUInt32 ||| ((high.toUInt32 &&& 0xf0) <<< (4 : UInt32))).toNat < 2 ^ 12 := by
  have byte := low.toNat_lt
  have nibble : (high.toUInt32 &&& 0xf0).toNat ≤ 0xf0 := by
    rw [UInt32.toNat_and]
    exact Nat.and_le_right
  rw [UInt32.toNat_or, UInt32.toNat_shiftLeft, Nat.shiftLeft_eq, UInt8.toNat_toUInt32]
  have four : (4 : UInt32).toNat % 32 = 4 := rfl
  rw [four]
  exact Nat.or_lt_two_pow (by omega) (by omega)

theorem active_small {edid : Mem} {edidLen : UInt32} {t : NvEdidTiming}
    (parsed : nvEdidParseDtd edid edidLen = some t) :
    t.hact.toNat < 2 ^ 12 ∧ t.vact.toNat < 2 ^ 12 := by
  simp only [nvEdidParseDtd] at parsed
  split at parsed
  · cases parsed
  split at parsed
  · cases parsed
  cases parsed
  exact ⟨twelve_bits _ _, twelve_bits _ _⟩

/-! Method streams. -/

abbrev Stream := List (UInt32 × UInt32)

def nvDispMethodHdr (methodAddr count : UInt32) : UInt32 :=
  ((count &&& 0x3ff) <<< (18 : UInt32)) ||| (methodAddr &&& 0x3ffc)

def pushMethod (pb : Stream) (methodAddr data : UInt32) : Stream :=
  pb ++ [(nvDispMethodHdr methodAddr 1, data)]

/-- The word a channel holds for a method address after a stream. -/
def latched (methodAddr : UInt32) (pb : Stream) : Option UInt32 :=
  (pb.reverse.find? fun word => word.1 &&& 0x3ffc = methodAddr).map Prod.snd

section Latched

variable {methodAddr sent data : UInt32} {pb : Stream}

theorem latched_same (same : nvDispMethodHdr sent 1 &&& 0x3ffc = methodAddr) :
    latched methodAddr (pushMethod pb sent data) = some data := by
  simp [latched, pushMethod, same]

theorem latched_other (other : nvDispMethodHdr sent 1 &&& 0x3ffc ≠ methodAddr) :
    latched methodAddr (pushMethod pb sent data) = latched methodAddr pb := by
  simp [latched, pushMethod, other]

end Latched

def setPresentControl : UInt32 := 0x308
def setSize : UInt32 := 0x224
def setStorage : UInt32 := 0x228
def setParams : UInt32 := 0x22c
def setPlanarStorage (b : UInt32) : UInt32 := 0x230 + b * 4
def setContextDmaIso (b : UInt32) : UInt32 := 0x240 + b * 4
def setOffset (b : UInt32) : UInt32 := 0x260 + b * 4
def setPointIn (b : UInt32) : UInt32 := 0x290 + b * 4
def setSizeIn : UInt32 := 0x298
def setSizeOut : UInt32 := 0x2a4
def setInterlockFlags : UInt32 := 0x370
def setWindowInterlockFlags : UInt32 := 0x374
def update : UInt32 := 0x200
def setCompositionControl : UInt32 := 0x2ec
def setCompositionConstantAlpha : UInt32 := 0x2f0
def setCompositionFactorSelect : UInt32 := 0x2f4
def paramsFormatX8r8g8b8 : UInt32 := 0xe6
def factorOpaque : UInt32 :=
  (2 : UInt32) ||| (2 <<< (4 : UInt32)) ||| (4 <<< (8 : UInt32)) ||| (4 <<< (12 : UInt32))
def nvDispHandleVram : UInt32 := 0xcaf00002

def nvGspDispBuildWindowImage (pb : Stream) (format w h pitch : UInt32) (fbOff : UInt64)
    (isoHandle : UInt32) : Stream :=
  let pb := pushMethod pb setPresentControl 0
  let pb := pushMethod pb setSize ((w &&& 0xffff) ||| ((h &&& 0xffff) <<< (16 : UInt32)))
  let pb := pushMethod pb setStorage 0
  let pb := pushMethod pb setParams (format &&& 0xff)
  let pb := pushMethod pb (setPlanarStorage 0) ((pitch >>> 6) &&& 0x1fff)
  let pb := pushMethod pb (setContextDmaIso 0) isoHandle
  let pb := pushMethod pb (setOffset 0) (fbOff >>> 8).toUInt32
  let pb := pushMethod pb (setPointIn 0) 0
  let pb := pushMethod pb setSizeIn ((w &&& 0x7fff) ||| ((h &&& 0x7fff) <<< (16 : UInt32)))
  let pb := pushMethod pb setSizeOut ((w &&& 0x7fff) ||| ((h &&& 0x7fff) <<< (16 : UInt32)))
  let pb := pushMethod pb setCompositionControl (255 <<< (4 : UInt32))
  let pb := pushMethod pb setCompositionConstantAlpha 0xff
  pushMethod pb setCompositionFactorSelect factorOpaque

def nvGspDispBuildWindowUpdate (pb : Stream) (interlockWithCore : Bool) : Stream :=
  let pb := pushMethod pb setInterlockFlags (if interlockWithCore then 1 else 0)
  let pb := pushMethod pb setWindowInterlockFlags 0
  pushMethod pb update 1

/-! The ctx-dma descriptor: 24 bytes, addresses in units of 256 bytes. -/

def ctxdmaTargetVram : UInt32 := 1
def ctxdmaFlags0Rw : UInt32 := 4
def ctxdmaFlags0PageSp : UInt32 := 0x40

def ctxdmaFlags0 (target : UInt32) : UInt32 :=
  let flags0 := (target &&& 3) ||| ctxdmaFlags0Rw
  if target &&& 3 = ctxdmaTargetVram then flags0 ||| ctxdmaFlags0PageSp else flags0

def nvGspDispBuildCtxdmaDesc (start limit : UInt64) (target : UInt32) : Mem :=
  let s := start >>> 8
  let l := limit >>> 8
  let desc : Mem := fun _ => 0
  let desc := st32 desc 0x00 (ctxdmaFlags0 target)
  let desc := st32 desc 0x04 (s &&& 0xffffffff).toUInt32
  let desc := st32 desc 0x08 (s >>> 32).toUInt32
  let desc := st32 desc 0x0c (l &&& 0xffffffff).toUInt32
  st32 desc 0x10 (l >>> 32).toUInt32

/-- The start and limit fields of a descriptor. -/
def startField (desc : Mem) : Nat := load desc 4 8
def limitField (desc : Mem) : Nat := load desc 12 8

/-- Two 32-bit stores of a word's halves are one 64-bit store. -/
theorem store_halves (m : Mem) (a : Nat) (v : UInt64) :
    st32 (st32 m a (v &&& 0xffffffff).toUInt32) (a + 4) (v >>> 32).toUInt32 =
      store m a 8 v.toNat := by
  have low : (v &&& 0xffffffff).toUInt32.toNat = v.toNat % 256 ^ 4 := by
    rw [UInt64.toNat_toUInt32, Words.and_mask_toNat v (k := 32) rfl]
    omega
  have high : (v >>> 32).toUInt32.toNat = v.toNat / 256 ^ 4 := by
    have shift : (32 : UInt64).toNat = 32 := rfl
    have bound := v.toNat_lt
    rw [UInt64.toNat_toUInt32, Words.shr_toNat (by rw [shift]; omega), shift]
    omega
  rw [st32_eq_store, st32_eq_store, low, high, store_mod, store_append]

theorem ctxdma_fields (start limit : UInt64) (target : UInt32) :
    startField (nvGspDispBuildCtxdmaDesc start limit target) = start.toNat / 256 ∧
      limitField (nvGspDispBuildCtxdmaDesc start limit target) = limit.toNat / 256 := by
  have eight : (8 : UInt64).toNat = 8 := rfl
  have startBound := start.toNat_lt
  have limitBound := limit.toNat_lt
  have units : ∀ x : UInt64, (x >>> 8).toNat = x.toNat / 256 := by
    intro x
    rw [Words.shr_toNat (by rw [eight]; omega), eight]
    norm_num
  have shape : nvGspDispBuildCtxdmaDesc start limit target =
      store (store (st32 (fun _ => 0) 0 (ctxdmaFlags0 target)) 4 8 (start >>> 8).toNat) 12 8
        (limit >>> 8).toNat := by
    rw [← store_halves, ← store_halves]
    rfl
  rw [startField, limitField, shape, load_store_apart _ _ _ _ _ _ (by omega), load_store_same,
    load_store_same, units, units]
  omega

end GspDriver.GspDisp
