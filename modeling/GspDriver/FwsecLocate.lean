import GspDriver.Base.Checked
import GspDriver.LittleEndian

/-!
The search for the FWSEC descriptor in a VBIOS image: the chain of ROM images,
the BIT header in the PciAt image, its token for the Falcon data, the table of
microcode images behind the token and the entry of FWSEC in it. The walk over
the chain takes the signatures it accepts as a parameter.
-/

namespace GspDriver.FwsecLocate

open Bytes LittleEndian Checked

def romSigPci : UInt16 := 0xaa55
def romSigNv : UInt16 := 0x4e56
def codeTypePciat : UInt8 := 0x00
def codeTypeNbsi : UInt8 := 0x70
def codeTypeFwsec : UInt8 := 0xe0
def bitTokenFalconData : UInt8 := 0x70
def pmuAppidFwsecProd : UInt8 := 0x85

/-- `memcmp` with a text gives 0. -/
def spells (m : Mem) (a : Nat) : List UInt8 → Bool
  | [] => true
  | byte :: text => m a == byte && spells m (a + 1) text

def pcir : List UInt8 := [0x50, 0x43, 0x49, 0x52]
def npds : List UInt8 := [0x4e, 0x50, 0x44, 0x53]
def npde : List UInt8 := [0x4e, 0x50, 0x44, 0x45]
def bitSig : List UInt8 := [0xff, 0xb8, 0x42, 0x49, 0x54, 0x00]

structure Image where
  off : Nat
  size : Nat
  codeType : UInt8
  last : Bool
  deriving DecidableEq

/-- The size of an image and whether it is the last, by NPDE where there is one. -/
def imageSizeAndLast (blob : Blob) (pcirOff : Nat) (codeType : UInt8) : Nat × Bool :=
  let buf := blob.bytes
  let pcirLen := (ld16 buf (pcirOff + 0x0a)).toNat
  let imageBlk := (ld16 buf (pcirOff + 0x10)).toNat
  let pcirLast := buf (pcirOff + 0x15)
  let nbsi := codeType == codeTypeNbsi
  let npdeOff := (pcirOff + pcirLen + 0x0f) / 16 * 16
  let subimg := (ld16 buf (npdeOff + 0x08)).toNat
  let npdeLast := buf (npdeOff + 0x0a)
  if fits npdeOff 0x0b blob.len ∧ spells buf npdeOff npde ∧ subimg ≠ 0 then
    (subimg * 512, nbsi || npdeLast &&& 0x80 != 0)
  else (imageBlk * 512, nbsi || pcirLast &&& 0x80 != 0)

/-- The image whose header lies at `off`, by its PCIR or NPDS structure. -/
def readImage (blob : Blob) (off : Nat) : Option Image :=
  let buf := blob.bytes
  let pcirAt := off + (ld16 buf (off + 0x18)).toNat
  if fits pcirAt 0x16 blob.len ∧ (spells buf pcirAt pcir ∨ spells buf pcirAt npds) then
    let codeType := buf (pcirAt + 0x14)
    let shape := imageSizeAndLast blob pcirAt codeType
    some { off, size := shape.1, codeType, last := shape.2 }
  else none

/-- At most `max` images from `off` on, each with a signature that `romSig` accepts. -/
def walkFrom (romSig : UInt16 → Bool) (blob : Blob) : Nat → Nat → List Image
  | 0, _ => []
  | max + 1, off =>
      if ¬ fits off 0x1a blob.len then []
      else if ¬ romSig (ld16 blob.bytes off) then []
      else
        match readImage blob off with
        | none => []
        | some im =>
            if im.size = 0 ∨ im.last then [im]
            else im :: walkFrom romSig blob max ((off + im.size + 511) / 512 * 512)

def pciOrNv (sig : UInt16) : Bool := sig == romSigPci || sig == romSigNv

def walkImages (blob : Blob) (max : Nat) : List Image := walkFrom pciOrNv blob max 0

def firstOf (codeType : UInt8) (imgs : List Image) : Option Image :=
  imgs.find? fun im => im.codeType == codeType

def findBit (m : Mem) (img imgLen : Nat) : Option Nat :=
  if imgLen < 6 then none
  else (List.range (imgLen - 5)).find? fun i => spells m (img + i) bitSig

/-- The first of the `count` entries from `e` on that starts with `id`. The loop
ends at the first entry whose six bytes do not fit. -/
def scanTable (m : Mem) (base limit : Nat) (id : UInt8) (stride : Nat) : Nat → Nat → Option Nat
  | 0, _ => none
  | count + 1, e =>
      if ¬ fits e 6 limit then none
      else if m (base + e) = id then some e
      else scanTable m base limit id stride count (e + stride)

inductive LocErr where
  | nosig
  | noimg
  | parse
  | bounds
  deriving DecidableEq

/-- From the two images to the descriptor, as `nv_fwsec_locate` goes on. -/
def descriptorAt (blob : Blob) (pciAt fwsec : Image) : Except LocErr Nat := do
  let buf := blob.bytes
  let data := pciAt.off
  let size := pciAt.size
  require (fits data size blob.len) .bounds
  let bitOff ← orFail (findBit buf data size) .nosig
  let bitHeaderSize := (buf (data + bitOff + 8)).toNat
  let bitTokenSize := (buf (data + bitOff + 9)).toNat
  let bitTokenCount := (buf (data + bitOff + 10)).toNat
  let token ← orFail (scanTable buf data size bitTokenFalconData bitTokenSize bitTokenCount
    (bitOff + bitHeaderSize)) .parse
  let falconTokOff := (ld16 buf (data + token + 4)).toNat
  require (fits falconTokOff 4 size) .bounds
  let falconPtr := (ld32 buf (data + falconTokOff)).toNat
  -- pointers count from the PciAt image on, as if the FWSEC image followed it
  require (size ≤ falconPtr) .bounds
  let pltAbs := fwsec.off + (falconPtr - size)
  require (fits pltAbs 4 blob.len) .bounds
  let pltHdrLen := (buf (pltAbs + 1)).toNat
  let pltEntryLen := (buf (pltAbs + 2)).toNat
  let pltEntries := (buf (pltAbs + 3)).toNat
  let entry ← orFail (scanTable buf 0 blob.len pmuAppidFwsecProd pltEntryLen pltEntries
    (pltAbs + pltHdrLen)) .parse
  let ucodePtr := (ld32 buf (entry + 2)).toNat
  require (size ≤ ucodePtr) .bounds
  let descAbs := fwsec.off + (ucodePtr - size)
  require (fits descAbs 4 blob.len) .bounds
  return descAbs

def nvFwsecLocate (vbios : Blob) : Except LocErr Nat := do
  let imgs := walkImages vbios 32
  require (imgs ≠ []) .nosig
  let pciAt ← orFail (firstOf codeTypePciat imgs) .noimg
  let fwsec ← orFail (firstOf codeTypeFwsec imgs) .noimg
  descriptorAt vbios pciAt fwsec

theorem readImage_off {blob : Blob} {off : Nat} {im : Image}
    (read : readImage blob off = some im) : im.off = off := by
  simp only [readImage] at read
  split at read
  · cases read
    rfl
  · cases read

theorem walk_goes {romSig : UInt16 → Bool} {blob : Blob} {max off : Nat} {im : Image}
    (header : fits off 0x1a blob.len) (accepts : romSig (ld16 blob.bytes off) = true)
    (read : readImage blob off = some im) :
    walkFrom romSig blob (max + 1) off = im ::
      if im.size = 0 ∨ im.last then []
      else walkFrom romSig blob max ((off + im.size + 511) / 512 * 512) := by
  simp only [walkFrom, if_neg (not_not.mpr header), if_neg (not_not.mpr accepts), read]
  split
  · rfl
  · rfl

theorem walk_stops {romSig : UInt16 → Bool} {blob : Blob} {max off : Nat}
    (stops : ¬ fits off 0x1a blob.len ∨ romSig (ld16 blob.bytes off) = false ∨
      readImage blob off = none) : walkFrom romSig blob (max + 1) off = [] := by
  rw [walkFrom]
  split
  · rfl
  · next header =>
    split
    · rfl
    · next accepts =>
      rcases stops with short | refused | unread
      · exact absurd short header
      · exact absurd (by rw [refused]; decide) accepts
      · rw [unread]

/-- The descriptor is found through the first image of either kind. -/
theorem located {vbios : Blob} {descAbs : Nat} (found : nvFwsecLocate vbios = .ok descAbs) :
    ∃ pciAt fwsec, firstOf codeTypePciat (walkImages vbios 32) = some pciAt ∧
      firstOf codeTypeFwsec (walkImages vbios 32) = some fwsec ∧
      descriptorAt vbios pciAt fwsec = .ok descAbs := by
  simp only [nvFwsecLocate, require_bind, orFail_bind] at found
  obtain ⟨_, pciAt, first, fwsec, second, rest⟩ := found
  exact ⟨pciAt, fwsec, first, second, rest⟩

theorem descriptor_fits {vbios : Blob} {pciAt fwsec : Image} {descAbs : Nat}
    (found : descriptorAt vbios pciAt fwsec = .ok descAbs) : descAbs + 4 ≤ vbios.len := by
  simp only [descriptorAt, require_bind, orFail_bind, fits_iff] at found
  obtain ⟨_, _, _, _, _, _, _, _, _, _, _, inside, returned⟩ := found
  cases returned
  exact inside

/-- Texts laid over cleared memory. -/
def overlay (texts : List (Nat × List UInt8)) : Mem :=
  texts.foldl (fun m text => blit m text.1 text.2.length (text.2.getD · 0)) fun _ => 0

/-- A PciAt image at 0 and a FWSEC image at 512 with the signature `fwsecSig`, whose
table says that the descriptor lies at `desc`. -/
def twoImages (fwsecSig desc : List UInt8) : List (Nat × List UInt8) :=
  [(0x00, [0x55, 0xaa]), (0x18, [0x20]), (0x20, pcir), (0x2a, [0x18]), (0x30, [1]),
    (0x40, bitSig), (0x48, [12, 6, 1]), (0x4c, [bitTokenFalconData]), (0x50, [0x60]),
    (0x60, [0x60, 0x02]),
    (0x200, fwsecSig), (0x218, [0x20]), (0x220, pcir), (0x22a, [0x18]), (0x230, [1]),
    (0x234, [codeTypeFwsec, 0x80]),
    (0x260, [0, 4, 6, 1, pmuAppidFwsecProd, 0]), (0x266, desc)]

end GspDriver.FwsecLocate
