import GspDriver.Booter

/-!
Which blobs the Booter load can use safely. The parser ties the signatures, the
data section and the OS data range to the blob; the staging buffer, the place of
the signature, the first app and its code range are left to the header words.
-/

namespace GspDriver.BooterImage

open Bytes LittleEndian Checked Booter

/-! The words of the headers, found through the offsets that lead to them. -/

section Words

variable (blob : Blob)

def dataSizeOf : Nat := (ld32 blob.bytes 20).toNat

def hsWord (o : Nat) : UInt32 := ld32 blob.bytes ((ld32 blob.bytes 12).toNat + o)

def loadWord (o : Nat) : UInt32 := ld32 blob.bytes ((hsWord blob 28).toNat + o)

def patchLocOf : Nat := (ld32 blob.bytes (hsWord blob 8).toNat).toNat

end Words

/-- What the parser leaves unchecked. -/
structure Sound (blob : Blob) : Prop where
  staging : dataSizeOf blob ≤ stagingSize
  patch : patchLocOf blob + nvBooterSigSize ≤ dataSizeOf blob
  apps : 0 < (loadWord blob 16).toNat
  code : (loadWord blob 20).toNat + (loadWord blob 24).toNat ≤ dataSizeOf blob

/-- Every use of the parsed fields is in range. -/
structure UsesInRange (blob : Blob) (desc : NvBooterDesc) (index : UInt32) : Prop where
  signature : desc.sigProdAbs.toNat + index.toNat * nvBooterSigSize + nvBooterSigSize ≤ blob.len
  staging : desc.dataSize.toNat ≤ stagingSize
  data : desc.dataAbs.toNat + desc.dataSize.toNat ≤ blob.len
  patch : desc.patchLoc.toNat + nvBooterSigSize ≤ desc.dataSize.toNat
  apps : 0 < desc.numApps.toNat
  code : (desc.app 0).codeOffset.toNat + (desc.app 0).codeSize.toNat ≤ desc.dataSize.toNat
  osData : desc.osDataOffset.toNat + desc.osDataSize.toNat ≤ desc.dataSize.toNat

theorem readApps_zero (m : Mem) (lh : Nat) {count : Nat} (some : 0 < count) :
    readApps m lh count 0 = readApp m (lh + 20) := by
  induction count with
  | zero => exact absurd some (by decide)
  | succ count ih =>
      rw [readApps, List.range_succ, List.foldl_append, List.foldl_cons, List.foldl_nil]
      cases count with
      | zero => exact Function.update_self 0 _ _
      | succ count =>
          rw [Function.update_of_ne (by omega)]
          exact ih (by omega)

/-- What an accepted blob and its descriptor have to do with each other. -/
structure Accepted (blob : Blob) (desc : NvBooterDesc) : Prop where
  dataSize : desc.dataSize.toNat = dataSizeOf blob
  patchLoc : desc.patchLoc.toNat = patchLocOf blob
  numApps : desc.numApps = loadWord blob 16
  app : desc.app = readApps blob.bytes (hsWord blob 28).toNat desc.numApps.toNat
  data : desc.dataAbs.toNat + desc.dataSize.toNat ≤ blob.len
  signatures : desc.sigProdAbs.toNat + desc.sigProdSize.toNat ≤ blob.len
  count : desc.numSig.toNat * nvBooterSigSize = desc.sigProdSize.toNat
  osData : desc.osDataOffset.toNat + desc.osDataSize.toNat ≤ desc.dataSize.toNat
  osCode : desc.osCodeOffset.toNat + desc.osCodeSize.toNat ≤ desc.dataSize.toNat
  patched : desc.osDataOffset ≤ desc.patchLoc
  pkc : desc.pkcDataOffset = desc.patchLoc - desc.osDataOffset

theorem parse_accepts {blob : Blob} {desc : NvBooterDesc}
    (parsed : nvBooterParse blob = .ok desc) : Accepted blob desc := by
  simp only [nvBooterParse, require_bind, fits_iff] at parsed
  obtain ⟨_, _, data, _, signatures, _, count, _, _, _, _, ⟨osCode, osData⟩, patched, returned⟩ :=
    parsed
  cases returned
  exact
    { dataSize := rfl, patchLoc := rfl, numApps := rfl, app := rfl, data, signatures, count
      osData, osCode, patched, pkc := rfl }

theorem select_below {desc : NvBooterDesc} {fuse index : UInt32}
    (selected : nvBooterSelectSignature desc fuse = .ok index) : index < desc.numSig := by
  simp only [nvBooterSelectSignature, require_bind] at selected
  obtain ⟨_, chosen⟩ := selected
  split at chosen
  · obtain ⟨below, same⟩ := (require_bind _ _ _ _).mp chosen
    cases same
    exact below
  · obtain ⟨_, chosen⟩ := (require_bind _ _ _ _).mp chosen
    obtain ⟨below, same⟩ := (require_bind _ _ _ _).mp chosen
    cases same
    exact below

theorem signature_inside {blob : Blob} {desc : NvBooterDesc} {index : UInt32}
    (accepted : Accepted blob desc) (below : index < desc.numSig) :
    desc.sigProdAbs.toNat + index.toNat * nvBooterSigSize + nvBooterSigSize ≤ blob.len := by
  have whole : (index.toNat + 1) * nvBooterSigSize ≤ desc.numSig.toNat * nvBooterSigSize :=
    Nat.mul_le_mul_right _ (UInt32.lt_iff_toNat_lt.mp below)
  have signatures := accepted.signatures
  rw [← accepted.count] at signatures
  rw [Nat.succ_mul] at whole
  omega

/-! What the bring-up does with such a blob. -/

section Load

variable {blob : Blob} {desc : NvBooterDesc} {index : UInt32}

theorem copies_in_range (uses : UsesInRange blob desc index) :
    ∀ copy ∈ loadCopies desc index,
      copy.src + copy.len ≤ blob.len ∧ copy.dst + copy.len ≤ stagingSize := by
  have staging := uses.staging
  have patch := uses.patch
  simp only [loadCopies, List.forall_mem_cons]
  exact ⟨⟨uses.data, by omega⟩, ⟨uses.signature, by omega⟩, fun copy none => nomatch none⟩

theorem stage_eq (staging : Mem) :
    stage blob desc index staging =
      blit (blit (clear staging 0 stagingSize) 0 desc.dataSize.toNat fun i =>
        blob.bytes (desc.dataAbs.toNat + i)) desc.patchLoc.toNat nvBooterSigSize fun i =>
          blob.bytes (desc.sigProdAbs.toNat + index.toNat * nvBooterSigSize + i) := rfl

theorem stage_frame (uses : UsesInRange blob desc index) (staging : Mem) {x : Nat}
    (outside : stagingSize ≤ x) : stage blob desc index staging x = staging x := by
  have small := uses.staging
  have patch := uses.patch
  rw [stage_eq, blit_outside _ _ _ _ _ (by omega), blit_outside _ _ _ _ _ (by omega)]
  exact clear_outside _ _ _ _ (by omega)

/-- The staged image is the data section with the signature in its place. -/
theorem stage_image (staging : Mem) {o : Nat} (inside : o < desc.dataSize.toNat) :
    stage blob desc index staging o =
      if desc.patchLoc.toNat ≤ o ∧ o < desc.patchLoc.toNat + nvBooterSigSize then
        blob.bytes (desc.sigProdAbs.toNat + index.toNat * nvBooterSigSize +
          (o - desc.patchLoc.toNat))
      else blob.bytes (desc.dataAbs.toNat + o) := by
  rw [stage_eq]
  by_cases signed : desc.patchLoc.toNat ≤ o ∧ o < desc.patchLoc.toNat + nvBooterSigSize
  · rw [if_pos signed, blit_inside _ _ _ _ _ signed]
  · rw [if_neg signed, blit_outside _ _ _ _ _ (by omega), blit_inside _ _ _ _ _ (by omega),
      Nat.sub_zero]

/-- The copies, the staged image and the two DMA loads of the bring-up. -/
structure Loads (blob : Blob) (desc : NvBooterDesc) (index : UInt32) : Prop where
  copies : ∀ copy ∈ loadCopies desc index,
    copy.src + copy.len ≤ blob.len ∧ copy.dst + copy.len ≤ stagingSize
  frame : ∀ staging x, stagingSize ≤ x → stage blob desc index staging x = staging x
  image : ∀ staging o, o < desc.dataSize.toNat → stage blob desc index staging o =
    if desc.patchLoc.toNat ≤ o ∧ o < desc.patchLoc.toNat + nvBooterSigSize then
      blob.bytes (desc.sigProdAbs.toNat + index.toNat * nvBooterSigSize +
        (o - desc.patchLoc.toNat))
    else blob.bytes (desc.dataAbs.toNat + o)
  imem : (dmaLoad desc).imemSec.srcStart.toNat + (dmaLoad desc).imemSec.len.toNat ≤
    desc.dataSize.toNat
  dmem : (dmaLoad desc).dmem.srcStart.toNat + (dmaLoad desc).dmem.len.toNat ≤ desc.dataSize.toNat

theorem uses_load (uses : UsesInRange blob desc index) : Loads blob desc index where
  copies := copies_in_range uses
  frame staging _ outside := stage_frame uses staging outside
  image staging _ inside := stage_image staging inside
  imem := uses.code
  dmem := uses.osData

end Load

/-- For an accepted blob and a selected signature the load stays in range exactly
when the four facts hold that nothing checks, and then it loads the signed image. -/
theorem uses_in_range_iff (blob : Blob) (desc : NvBooterDesc) (fuse index : UInt32)
    (parsed : nvBooterParse blob = .ok desc)
    (selected : nvBooterSelectSignature desc fuse = .ok index) :
    (UsesInRange blob desc index ↔ Sound blob) ∧
      (UsesInRange blob desc index → Loads blob desc index) := by
  refine ⟨?_, uses_load⟩
  have accepted := parse_accepts parsed
  have first : 0 < desc.numApps.toNat →
      desc.app 0 = readApp blob.bytes ((hsWord blob 28).toNat + 20) := by
    intro some
    rw [accepted.app]
    exact readApps_zero _ _ some
  constructor
  -- What the parser has not checked of the uses is one fact of `Sound` each.
  · intro uses
    have code := uses.code
    rw [first uses.apps, accepted.dataSize] at code
    constructor
    · exact accepted.dataSize ▸ uses.staging
    · rw [← accepted.patchLoc, ← accepted.dataSize]
      exact uses.patch
    · exact accepted.numApps ▸ uses.apps
    · exact code
  · intro sound
    have apps : 0 < desc.numApps.toNat := accepted.numApps ▸ sound.apps
    constructor
    · exact signature_inside accepted (select_below selected)
    · exact accepted.dataSize ▸ sound.staging
    · exact accepted.data
    · rw [accepted.patchLoc, accepted.dataSize]
      exact sound.patch
    · exact apps
    · rw [first apps, accepted.dataSize]
      exact sound.code
    · exact accepted.osData

/-- The blob with one signature and one app, for a data section of `dataSize`
bytes that wants its signature at `patchLoc`. -/
def containerWords (dataSize patchLoc : UInt32) : List UInt32 :=
  [0x10de, 1, 504 + dataSize, 24, 504, dataSize,
    120, 384, 60, 64, 72, 12, 68, 84, 36,
    patchLoc, 0, 1, 1, 1, 3,
    0, 256, 256, 256, 1, 0, 256, 256, 256]

def container (dataSize patchLoc : UInt32) : Blob :=
  { bytes := fun o =>
      ((containerWords dataSize patchLoc).getD (o / 4) 0 >>> UInt32.ofNat (8 * (o % 4))).toUInt8
    len := 504 + dataSize.toNat }

theorem uses_in_range_iff_one_app :
    ∃ desc, nvBooterParse (container 1024 512) = .ok desc ∧
      UsesInRange (container 1024 512) desc 0 := by
  have chosen : (nvBooterParse (container 1024 512) >>= (nvBooterSelectSignature · 1)) = .ok 0 := by
    decide +kernel
  obtain ⟨desc, parsed, selected⟩ := (bind_ok _ _ _).mp chosen
  refine ⟨desc, parsed, ?_⟩
  refine (uses_in_range_iff _ desc 1 0 parsed selected).1.mpr ?_
  constructor <;> decide +kernel

/-- The signature is copied past the end of the data section; the other copy of the
loader checks that. -/
theorem signature_spills :
    ∃ desc, nvBooterParse (container 512 256) = .ok desc ∧
      nvBooterSelectSignature desc 1 = .ok 0 ∧
      ¬ runBooterChecks (container 512 256) desc 0 stagingSize ∧
      ¬ UsesInRange (container 512 256) desc 0 := by
  have chosen : (nvBooterParse (container 512 256) >>= (nvBooterSelectSignature · 1)) = .ok 0 := by
    decide +kernel
  obtain ⟨desc, parsed, selected⟩ := (bind_ok _ _ _).mp chosen
  have accepted := parse_accepts parsed
  have spills : ¬ desc.patchLoc.toNat + nvBooterSigSize ≤ desc.dataSize.toNat := by
    rw [accepted.patchLoc, accepted.dataSize]
    decide +kernel
  exact ⟨desc, parsed, selected, fun checks => spills checks.2.2, fun uses => spills uses.patch⟩

end GspDriver.BooterImage
