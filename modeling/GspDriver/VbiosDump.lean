import GspDriver.FwsecPatch

/-!
The offline analyser `vbios_dump` and the driver on one VBIOS image. They walk
the same chain of ROM images, but the analyser stops at the first image that
begins with the NVIDIA signature; behind the walk they take the same steps, and
the analyser adds the sizes of the microcode in 32 bits.
-/

namespace GspDriver.VbiosDump

open Bytes LittleEndian Checked FwsecLocate FwsecPatch

def romSig : UInt16 := 0xaa55

def pciOnly (sig : UInt16) : Bool := sig == romSig

/-- Of an image, the fields that are only printed are left out. -/
def walkImages (blob : Blob) (max : Nat) : List Image := walkFrom pciOnly blob max 0

structure Report where
  descAbs : Nat
  ucodeAbs : Nat
  ucodeSize : Nat
  deriving DecidableEq

/-- The last steps of `analyze_fwsec`, from the descriptor on. -/
def reportAt (blob : Blob) (descAbs : Nat) : Option Report := do
  let buf := blob.bytes
  let ver := buf (descAbs + 1)
  let hdrSize := (ld32 buf descAbs >>> 16) &&& 0xffff
  if ver = 3 then
    guard (fits descAbs 44 blob.len)
    let ucodeSize := ld32 buf (descAbs + 20) + ld32 buf (descAbs + 32)
    return { descAbs, ucodeAbs := descAbs + hdrSize.toNat, ucodeSize := ucodeSize.toNat }
  else
    guard (ver = 2)
    guard (fits descAbs 60 blob.len)
    let ucodeSize := ld32 buf (descAbs + 24) + ld32 buf (descAbs + 48)
    return { descAbs, ucodeAbs := descAbs + hdrSize.toNat, ucodeSize := ucodeSize.toNat }

def analyzeFwsec (blob : Blob) (imgs : List Image) : Option Report := do
  let pciAt ← firstOf codeTypePciat imgs
  let fwsec ← firstOf codeTypeFwsec imgs
  let descAbs ← (descriptorAt blob pciAt fwsec).toOption
  reportAt blob descAbs

def vbiosDump (blob : Blob) : Option Report :=
  let imgs := walkImages blob 32
  if imgs = [] then none else analyzeFwsec blob imgs

/-! The two walks. -/

def plain (blob : Blob) (im : Image) : Bool := ld16 blob.bytes im.off == romSigPci

theorem walk_truncated (blob : Blob) (max off : Nat) :
    walkFrom pciOnly blob max off = (walkFrom pciOrNv blob max off).takeWhile (plain blob) := by
  -- The tool stops at the first image whose signature only the driver accepts.
  induction max generalizing off with
  | zero => rfl
  | succ max ih =>
      by_cases header : fits off 0x1a blob.len
      · cases read : readImage blob off with
        | none =>
            rw [walk_stops (Or.inr (Or.inr read)), walk_stops (Or.inr (Or.inr read))]
            rfl
        | some im =>
            have place := readImage_off read
            by_cases same : ld16 blob.bytes off = romSigPci
            · have here : plain blob im = true := by rw [plain, place, same, beq_self_eq_true]
              have tool : pciOnly (ld16 blob.bytes off) = true := by
                rw [same]
                decide
              have driver : pciOrNv (ld16 blob.bytes off) = true := by
                rw [same]
                decide
              rw [walk_goes header tool read, walk_goes header driver read,
                List.takeWhile_cons_of_pos here]
              split
              · rfl
              · rw [ih]
            · have here : ¬ plain blob im = true := by
                rw [plain, place]
                simpa using same
              have tool : pciOnly (ld16 blob.bytes off) = false := beq_eq_false_iff_ne.mpr same
              rw [walk_stops (Or.inr (Or.inl tool))]
              cases driver : pciOrNv (ld16 blob.bytes off) with
              | true => rw [walk_goes header driver read, List.takeWhile_cons_of_neg here]
              | false =>
                  rw [walk_stops (Or.inr (Or.inl driver))]
                  rfl
      · rw [walk_stops (Or.inl header), walk_stops (Or.inl header)]
        rfl

theorem walkImages_truncated (blob : Blob) :
    walkImages blob 32 = (FwsecLocate.walkImages blob 32).takeWhile (plain blob) :=
  walk_truncated blob 32 0

theorem first_append {codeType : UInt8} {front back : List Image} {im : Image}
    (found : firstOf codeType front = some im) : firstOf codeType (front ++ back) = some im := by
  rw [firstOf, List.find?_append]
  exact Option.or_eq_some_iff.mpr (Or.inl found)

/-- The first PciAt and the first FWSEC image come before any image with the NVIDIA
signature. -/
def PlainRoms (vbios : Blob) : Prop :=
  ∃ front back, FwsecLocate.walkImages vbios 32 = front ++ back ∧
    (∀ im ∈ front, plain vbios im = true) ∧ (firstOf codeTypePciat front).isSome ∧
    (firstOf codeTypeFwsec front).isSome

/-- Over such images the analyser finds the same two. -/
theorem plain_first {vbios : Blob} (plain : PlainRoms vbios) {codeType : UInt8}
    (kind : codeType = codeTypePciat ∨ codeType = codeTypeFwsec) :
    ∃ im, firstOf codeType (walkImages vbios 32) = some im ∧
      firstOf codeType (FwsecLocate.walkImages vbios 32) = some im := by
  obtain ⟨front, back, whole, all, pciAt, fwsec⟩ := plain
  have some : (firstOf codeType front).isSome := by
    rcases kind with rfl | rfl
    · exact pciAt
    · exact fwsec
  obtain ⟨im, found⟩ := Option.isSome_iff_exists.mp some
  have kept : walkImages vbios 32 = front ++ back.takeWhile (plain vbios) := by
    rw [walkImages_truncated, whole]
    exact List.takeWhile_append_of_pos all
  exact ⟨im, kept ▸ first_append found, whole ▸ first_append found⟩

/-- What the analyser walks is such a front. -/
theorem plain_of_found {vbios : Blob} (pciAt : (firstOf codeTypePciat (walkImages vbios 32)).isSome)
    (fwsec : (firstOf codeTypeFwsec (walkImages vbios 32)).isSome) : PlainRoms vbios := by
  refine ⟨walkImages vbios 32, (FwsecLocate.walkImages vbios 32).dropWhile (plain vbios), ?_, ?_,
    pciAt, fwsec⟩
  · rw [walkImages_truncated]
    exact List.takeWhile_append_dropWhile.symm
  · intro im member
    rw [walkImages_truncated] at member
    exact List.mem_takeWhile_imp member

/-! The steps behind the walk. -/

theorem report_of_parse {vbios : Blob} {descAbs : Nat} {desc : NvFwsecDesc}
    (parsed : nvFwsecDescParse vbios.bytes descAbs (vbios.len - descAbs) = .ok desc) :
    reportAt vbios descAbs =
      some { descAbs, ucodeAbs := descAbs + desc.hdrSize.toNat
             ucodeSize := (desc.imemLoadSize + desc.dmemLoadSize).toNat } := by
  simp only [nvFwsecDescParse, require_bind] at parsed
  obtain ⟨_, parsed⟩ := parsed
  split at parsed
  · next three =>
    obtain ⟨room, returned⟩ := (require_bind _ _ _ _).mp parsed
    cases returned
    have within : fits descAbs 44 vbios.len := fits_iff.mpr (by omega)
    simp [reportAt, three, within]
  · next three =>
    simp only [require_bind] at parsed
    obtain ⟨two, room, returned⟩ := parsed
    cases returned
    have within : fits descAbs 60 vbios.len := fits_iff.mpr (by omega)
    simp [reportAt, two, within]

theorem analyze_ok {blob : Blob} {imgs : List Image} {pciAt fwsec : Image} {descAbs : Nat}
    (first : firstOf codeTypePciat imgs = some pciAt)
    (second : firstOf codeTypeFwsec imgs = some fwsec)
    (found : descriptorAt blob pciAt fwsec = .ok descAbs) :
    analyzeFwsec blob imgs = reportAt blob descAbs := by
  rw [analyzeFwsec, first, second, Option.bind_eq_bind, Option.bind_some, Option.bind_eq_bind,
    Option.bind_some, found]
  rfl

theorem analyze_images {blob : Blob} {imgs : List Image} {report : Report}
    (reported : analyzeFwsec blob imgs = some report) :
    (firstOf codeTypePciat imgs).isSome ∧ (firstOf codeTypeFwsec imgs).isSome := by
  rw [analyzeFwsec, Option.bind_eq_bind, Option.bind_eq_some_iff] at reported
  obtain ⟨pciAt, first, reported⟩ := reported
  rw [Option.bind_eq_bind, Option.bind_eq_some_iff] at reported
  obtain ⟨fwsec, second, _⟩ := reported
  rw [first, second]
  exact ⟨rfl, rfl⟩

/-- The analyser finds the same descriptor and the same microcode. -/
def Agrees (vbios : Blob) (descAbs : Nat) (desc : NvFwsecDesc) : Prop :=
  vbiosDump vbios = some
    { descAbs, ucodeAbs := descAbs + desc.hdrSize.toNat
      ucodeSize := desc.imemLoadSize.toNat + desc.dmemLoadSize.toNat }

/-- On every image with a plain front the analyser reports the descriptor, with the size of
the microcode modulo 2 ^ 32. -/
theorem dump_plain {vbios : Blob} {descAbs : Nat} {desc : NvFwsecDesc} (front : PlainRoms vbios)
    (located : nvFwsecLocate vbios = .ok descAbs)
    (parsed : nvFwsecDescParse vbios.bytes descAbs (vbios.len - descAbs) = .ok desc) :
    vbiosDump vbios =
      some { descAbs, ucodeAbs := descAbs + desc.hdrSize.toNat
             ucodeSize := (desc.imemLoadSize + desc.dmemLoadSize).toNat } := by
  obtain ⟨pciAt, fwsec, first, second, found⟩ := FwsecLocate.located located
  obtain ⟨pciAt', firstTool, firstDriver⟩ := plain_first front (Or.inl rfl)
  obtain ⟨fwsec', secondTool, secondDriver⟩ := plain_first front (Or.inr rfl)
  cases first.symm.trans firstDriver
  cases second.symm.trans secondDriver
  have some : walkImages vbios 32 ≠ [] := by
    intro none
    rw [none] at firstTool
    cases firstTool
  rw [vbiosDump, if_neg some, analyze_ok firstTool secondTool found, report_of_parse parsed]

theorem plain_of_dump {vbios : Blob} {report : Report} (reported : vbiosDump vbios = some report) :
    PlainRoms vbios := by
  simp only [vbiosDump] at reported
  split at reported
  · cases reported
  · obtain ⟨pciAt, fwsec⟩ := analyze_images reported
    exact plain_of_found pciAt fwsec

/-- Where the driver succeeds, the analyser agrees exactly when no NVIDIA image comes before
the images it needs and the size of the microcode fits its 32 bits. -/
theorem analysers_agree_iff (vbios : Blob) (descAbs : Nat) (desc : NvFwsecDesc)
    (located : nvFwsecLocate vbios = .ok descAbs)
    (parsed : nvFwsecDescParse vbios.bytes descAbs (vbios.len - descAbs) = .ok desc) :
    Agrees vbios descAbs desc ↔
      PlainRoms vbios ∧ desc.imemLoadSize.toNat + desc.dmemLoadSize.toNat < 2 ^ 32 := by
  have sum := UInt32.toNat_add desc.imemLoadSize desc.dmemLoadSize
  constructor
  · intro agrees
    have front := plain_of_dump agrees
    have report := (dump_plain front located parsed).symm.trans agrees
    have size := congrArg Report.ucodeSize (Option.some.inj report)
    refine ⟨front, ?_⟩
    have bound := UInt32.toNat_lt (desc.imemLoadSize + desc.dmemLoadSize)
    change (desc.imemLoadSize + desc.dmemLoadSize).toNat =
      desc.imemLoadSize.toNat + desc.dmemLoadSize.toNat at size
    rw [size] at bound
    exact bound
  · rintro ⟨front, small⟩
    rw [Nat.mod_eq_of_lt small] at sum
    rw [Agrees, dump_plain front located parsed, sum]

/-- Two images and a descriptor of 16 bytes of code and 32 of data. -/
def smallRom (fwsecSig : List UInt8) : Blob :=
  { bytes := overlay (twoImages fwsecSig [0x80, 0x02] ++
      [(0x280, [0, 3, 44]), (0x294, [16]), (0x2a0, [32])])
    len := 0x400 }

def smallDesc : NvFwsecDesc :=
  { version := 3, hdrSize := 44, imemLoadSize := 16, imemPhysBase := 0, dmemLoadSize := 32
    dmemPhysBase := 0, interfaceOffset := 0, pkcDataOffset := 0, engineIdMask := 0
    signatureVersions := 0, ucodeId := 0, signatureCount := 0 }

theorem analysers_agree_iff_pci : Agrees (smallRom [0x55, 0xaa]) 0x280 smallDesc := by
  have located : nvFwsecLocate (smallRom [0x55, 0xaa]) = .ok 0x280 := by decide +kernel
  refine (analysers_agree_iff _ _ _ located (by decide +kernel)).mpr ⟨?_, by decide⟩
  have chain : FwsecLocate.walkImages (smallRom [0x55, 0xaa]) 32 =
      [⟨0, 512, codeTypePciat, false⟩, ⟨512, 512, codeTypeFwsec, true⟩] ++ [] := by decide +kernel
  exact ⟨_, _, chain, by decide +kernel, by decide, by decide⟩

/-- A FWSEC image with the NVIDIA signature is not found. -/
theorem nvidia_image_missed :
    ¬ ∀ (vbios : Blob) (descAbs : Nat) (desc : NvFwsecDesc),
      nvFwsecLocate vbios = .ok descAbs →
        nvFwsecDescParse vbios.bytes descAbs (vbios.len - descAbs) = .ok desc →
          Agrees vbios descAbs desc := by
  intro claim
  have agrees := claim (smallRom [0x56, 0x4e]) 0x280 smallDesc (by decide +kernel)
    (by decide +kernel)
  have missed : vbiosDump (smallRom [0x56, 0x4e]) = none := by decide +kernel
  rw [Agrees, missed] at agrees
  cases agrees

end GspDriver.VbiosDump
