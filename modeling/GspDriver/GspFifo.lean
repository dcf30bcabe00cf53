import GspDriver.LittleEndian

/-!
The command words of gsp_fifo.c and their reading by the GPU. A pushbuffer is a
sequence of method headers, each followed by its data; a GPFIFO entry gives the
address and the length of a pushbuffer. `decode` is the copy engine's side: it
goes through the methods in order and launches a copy at LAUNCH_DMA.
-/

namespace GspDriver.GspFifo

open Bytes LittleEndian Words

def nvc56fDmaIncrOpcodeValue : UInt32 := 1
def nvFifoSubchCopy : UInt32 := 4
def nvc56fSetObject : UInt32 := 0x0000
def nvc56fSemAddrLo : UInt32 := 0x5c
def nvc56fSemExecuteOperationRelease : UInt32 := 0x1
def nvc56fSemExecuteReleaseWfiEn : UInt32 := (1 : UInt32) <<< 20
def nvc7b5SetSemaphoreA : UInt32 := 0x0240
def nvc7b5LaunchDma : UInt32 := 0x0300
def nvc7b5OffsetInUpper : UInt32 := 0x0400
def nvc7b5LineLengthIn : UInt32 := 0x0418
def nvc7b5LdXferNonPipelined : UInt32 := 0x2
def nvc7b5LdFlushEnable : UInt32 := (1 : UInt32) <<< 2
def nvc7b5LdSemReleaseOneWord : UInt32 := (1 : UInt32) <<< 3
def nvc7b5LdSrcLayoutPitch : UInt32 := (1 : UInt32) <<< 7
def nvc7b5LdDstLayoutPitch : UInt32 := (1 : UInt32) <<< 8
def nvc7b5LdDisablePlc : UInt32 := (1 : UInt32) <<< 26

/-- The host's own semaphore release; its header is spelt out in the source. -/
def nvGspFifoBuildSemRelease (semVa : UInt64) (payload : UInt32) : List UInt32 :=
  [(nvc56fDmaIncrOpcodeValue <<< 29) ||| ((5 : UInt32) <<< 16) ||| ((0 : UInt32) <<< 13) |||
      ((nvc56fSemAddrLo >>> 2) &&& 0xfff),
    (semVa &&& 0xfffffffc).toUInt32, ((semVa >>> 32) &&& 0xff).toUInt32, payload, 0,
    nvc56fSemExecuteOperationRelease ||| nvc56fSemExecuteReleaseWfiEn]

def pbHdr (subch mthd count : UInt32) : UInt32 :=
  (nvc56fDmaIncrOpcodeValue <<< 29) ||| ((count &&& 0x1fff) <<< 16) ||| ((subch &&& 0x7) <<< 13) |||
    ((mthd >>> 2) &&& 0xfff)

def upper (va : UInt64) : UInt32 := ((va >>> 32) &&& 0x1ffff).toUInt32
def lower (va : UInt64) : UInt32 := (va &&& 0xffffffff).toUInt32

def nvGspFifoBuildCeCopy (classEngineId : UInt32) (srcVa dstVa : UInt64) (bytes : UInt32)
    (semVa : UInt64) (payload : UInt32) : List UInt32 :=
  (if classEngineId ≠ 0 then [pbHdr nvFifoSubchCopy nvc56fSetObject 1, classEngineId] else []) ++
    [pbHdr nvFifoSubchCopy nvc7b5SetSemaphoreA 3, upper semVa, lower semVa, payload,
      pbHdr nvFifoSubchCopy nvc7b5OffsetInUpper 4, upper srcVa, lower srcVa, upper dstVa,
      lower dstVa,
      pbHdr nvFifoSubchCopy nvc7b5LineLengthIn 1, bytes,
      pbHdr nvFifoSubchCopy nvc7b5LaunchDma 1,
      nvc7b5LdXferNonPipelined ||| nvc7b5LdFlushEnable ||| nvc7b5LdSemReleaseOneWord |||
        nvc7b5LdSrcLayoutPitch ||| nvc7b5LdDstLayoutPitch ||| nvc7b5LdDisablePlc]

def nvGspFifoGpfifoEntry (pbVa : UInt64) (pbDwords : UInt32) : UInt32 × UInt32 :=
  ((pbVa &&& 0xfffffffc).toUInt32,
    ((pbVa >>> 32) &&& 0xff).toUInt32 ||| ((pbDwords &&& 0x1fffff) <<< 10))

/-! The GPU's side. -/

/-- The methods of a pushbuffer with their data: `left` words of data follow for
method `mthd` and the ones after it. -/
def methods : Nat → Nat → List UInt32 → List (Nat × UInt32)
  | _, _, [] => []
  | 0, _, header :: rest =>
      methods ((header >>> 16) &&& 0x1fff).toNat ((header &&& 0xfff).toNat * 4) rest
  | left + 1, mthd, data :: rest => (mthd, data) :: methods left (mthd + 4) rest

/-- A copy of `bytes` bytes with the semaphore release that ends it. -/
structure Launch where
  object : Option UInt32
  src : Nat
  dst : Nat
  bytes : UInt32
  sem : Nat
  payload : UInt32
  deriving DecidableEq

/-- An address of 49 bits. -/
def address (upper lower : UInt32) : Nat := (upper &&& 0x1ffff).toNat * 2 ^ 32 + lower.toNat

/-- The copy engine launches with what the methods before LAUNCH_DMA left in its
registers, the last value of each. -/
def launchOf (given : List (Nat × UInt32)) : Option Launch := do
  let latched := (given.takeWhile fun entry => entry.1 ≠ 0x300).reverse
  let semUpper ← latched.lookup 0x240
  let semLower ← latched.lookup 0x244
  let payload ← latched.lookup 0x248
  let inUpper ← latched.lookup 0x400
  let inLower ← latched.lookup 0x404
  let outUpper ← latched.lookup 0x408
  let outLower ← latched.lookup 0x40c
  let bytes ← latched.lookup 0x418
  let _ ← given.lookup 0x300
  return { object := latched.lookup 0, src := address inUpper inLower
           dst := address outUpper outLower, bytes, sem := address semUpper semLower, payload }

def decode (pb : List UInt32) : Option Launch := launchOf (methods 0 0 pb)

/-- Where the pushbuffer of a GPFIFO entry lies, and its length in words. -/
def entryVa (e0 e1 : UInt32) : Nat := (e1 &&& 0xff).toNat * 2 ^ 32 + (e0 &&& 0xfffffffc).toNat

def entryDwords (e1 : UInt32) : Nat := ((e1 >>> 10) &&& 0x1fffff).toNat

theorem address_upper (va : UInt64) : address (upper va) (lower va) = va.toNat % 2 ^ 49 := by
  have high : ((va >>> 32) &&& 0x1ffff).toNat = va.toNat / 2 ^ 32 % 2 ^ 17 := by
    rw [and_mask_toNat (va >>> 32) (k := 17) (by decide), shr_toNat (by decide)]
    rfl
  have low : (va &&& 0xffffffff).toNat = va.toNat % 2 ^ 32 := and_mask_toNat va (by decide)
  have field : (upper va &&& 0x1ffff).toNat = va.toNat / 2 ^ 32 % 2 ^ 17 := by
    have mask : (0x1ffff : UInt32).toNat = 2 ^ 17 - 1 := by decide
    rw [UInt32.toNat_and, mask, Nat.and_two_pow_sub_one_eq_mod, upper, UInt64.toNat_toUInt32, high]
    omega
  rw [address, field, lower, UInt64.toNat_toUInt32, low]
  omega

theorem mask32 (x : UInt32) {mask : UInt32} {k : Nat} (shape : mask.toNat = 2 ^ k - 1) :
    (x &&& mask).toNat = x.toNat % 2 ^ k := by
  rw [UInt32.toNat_and, shape, Nat.and_two_pow_sub_one_eq_mod]

section Entry

variable (pbVa : UInt64) {pbDwords : UInt32}

/-- The length lies above the eight bits of the address. -/
theorem entry_fields (few : pbDwords.toNat < 2 ^ 21) :
    (nvGspFifoGpfifoEntry pbVa pbDwords).2.toNat =
      pbDwords.toNat * 2 ^ 10 + pbVa.toNat / 2 ^ 32 % 2 ^ 8 := by
  have high : ((pbVa >>> 32) &&& 0xff).toNat = pbVa.toNat / 2 ^ 32 % 2 ^ 8 := by
    rw [and_mask_toNat (pbVa >>> 32) (k := 8) (by decide), shr_toNat (by decide)]
    rfl
  have length : (pbDwords &&& 0x1fffff).toNat = pbDwords.toNat := by
    rw [mask32 pbDwords (k := 21) (by decide), Nat.mod_eq_of_lt few]
  have shift : (10 : UInt32).toNat % 32 = 10 := by decide
  have small : pbVa.toNat / 2 ^ 32 % 2 ^ 8 < 2 ^ 10 := by omega
  rw [nvGspFifoGpfifoEntry, UInt32.toNat_or, UInt64.toNat_toUInt32, high,
    UInt32.toNat_shiftLeft, length, shift, Nat.shiftLeft_eq, Nat.or_comm]
  rw [Nat.mod_eq_of_lt (show pbVa.toNat / 2 ^ 32 % 2 ^ 8 < 2 ^ 32 by omega),
    Nat.mod_eq_of_lt (show pbDwords.toNat * 2 ^ 10 < 2 ^ 32 by omega), Nat.mul_comm,
    ← Nat.two_pow_add_eq_or_of_lt small]

theorem entry_dwords (few : pbDwords.toNat < 2 ^ 21) :
    entryDwords (nvGspFifoGpfifoEntry pbVa pbDwords).2 = pbDwords.toNat := by
  have fields := entry_fields pbVa few
  have shift : (10 : UInt32).toNat % 32 = 10 := by decide
  rw [entryDwords, mask32 _ (k := 21) (by decide), UInt32.toNat_shiftRight, shift,
    Nat.shiftRight_eq_div_pow, fields]
  omega

theorem entry_va (few : pbDwords.toNat < 2 ^ 21) (low : pbVa.toNat < 2 ^ 40)
    (aligned : 4 ∣ pbVa.toNat) :
    entryVa (nvGspFifoGpfifoEntry pbVa pbDwords).1 (nvGspFifoGpfifoEntry pbVa pbDwords).2 =
      pbVa.toNat := by
  have fields := entry_fields pbVa few
  have split : (0xfffffffc : UInt64) = 0xffffffff &&& ~~~3 := by decide
  have whole : (0xfffffffc : UInt32) = ~~~3 := by decide
  have word : (pbVa &&& 0xfffffffc).toUInt32.toNat = pbVa.toNat % 2 ^ 32 := by
    rw [split, ← UInt64.and_assoc, UInt64.toNat_toUInt32,
      and_not_mask_toNat _ (k := 2) (by decide), and_mask_toNat pbVa (k := 32) (by decide)]
    omega
  rw [entryVa, mask32 _ (k := 8) (by decide), fields, whole,
    and_not_mask_toNat32 _ (k := 2) (by decide), nvGspFifoGpfifoEntry, word]
  omega

end Entry

/-- The engine reads back the copy that the pushbuffer was built for. -/
theorem decode_built (classEngineId : UInt32) (srcVa dstVa : UInt64) (bytes : UInt32)
    (semVa : UInt64) (payload : UInt32) :
    decode (nvGspFifoBuildCeCopy classEngineId srcVa dstVa bytes semVa payload) =
      some { object := if classEngineId ≠ 0 then some classEngineId else none
             src := srcVa.toNat % 2 ^ 49, dst := dstVa.toNat % 2 ^ 49, bytes
             sem := semVa.toNat % 2 ^ 49, payload } := by
  rw [← address_upper srcVa, ← address_upper dstVa, ← address_upper semVa]
  by_cases bound : classEngineId = 0
  · have short : nvGspFifoBuildCeCopy classEngineId srcVa dstVa bytes semVa payload =
        nvGspFifoBuildCeCopy 0 srcVa dstVa bytes semVa payload := by rw [bound]
    rw [short, if_neg (not_not.mpr bound)]
    rfl
  · rw [nvGspFifoBuildCeCopy, if_pos bound, if_pos bound]
    rfl

end GspDriver.GspFifo
