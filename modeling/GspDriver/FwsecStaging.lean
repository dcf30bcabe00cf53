import GspDriver.FwsecPatch

/-!
Where the staging of FWSEC reads. The descriptor lies in the shadow and the
microcode fits the staging buffer; that the microcode and the signature lie in
the shadow, and that the signature exists, is left to the descriptor's words.
-/

namespace GspDriver.FwsecStaging

open Bytes LittleEndian Checked Falcon FwsecLocate FwsecPatch

def shadow (vbios : Mem) : Blob := { bytes := vbios, len := nvVbiosScanMax }

/-- The descriptor that the driver finds in the shadow. -/
def Found (vbios : Mem) (descAbs : Nat) (desc : NvFwsecDesc) : Prop :=
  nvFwsecLocate (shadow vbios) = .ok descAbs ∧
    nvFwsecDescParse vbios descAbs (nvVbiosScanMax - descAbs) = .ok desc

/-- The version that the fuse register of the descriptor's engine and microcode holds. -/
def fuseOf (io : Mmio) (desc : NvFwsecDesc) : Option UInt32 :=
  (nvFalconSignatureFuseVersionGa102 io desc.engineIdMask desc.ucodeId).1

section Stage

variable (io : Mmio) (vbios : Mem) (frtsAddr frtsSize : UInt64) (ucode : Mem) (ucodeCap : Nat)

def copied (descAbs : Nat) (desc : NvFwsecDesc) : Mem :=
  blit (clear ucode 0 ucodeCap) 0 (desc.imemLoadSize.toNat + desc.dmemLoadSize.toNat) fun i =>
    vbios (descAbs + desc.hdrSize.toNat + i)

/-- The checks that the staging makes on the descriptor. -/
structure Admitted (descAbs : Nat) (desc : NvFwsecDesc) : Prop where
  version : desc.version = 3
  size : desc.imemLoadSize.toNat + desc.dmemLoadSize.toNat ≤ ucodeCap
  frts : ∃ patched, nvFwsecPatchFrts ucodeCap desc frtsAddr frtsSize
    (copied vbios ucode ucodeCap descAbs desc) = .ok patched
  signature : desc.signatureCount ≠ 0 → ∃ fuse, fuseOf io desc = some fuse ∧ fuse < 32 ∧
    desc.signatureVersions.toUInt32 &&& (1 <<< fuse) ≠ 0 ∧
    desc.imemLoadSize.toNat + desc.pkcDataOffset.toNat + nvBcrt30Rsa3kSigSize ≤ ucodeCap

/-- What the descriptor's words must satisfy beyond the checks. -/
structure Inside (descAbs : Nat) (desc : NvFwsecDesc) : Prop where
  ucode : descAbs + desc.hdrSize.toNat + (desc.imemLoadSize.toNat + desc.dmemLoadSize.toNat) ≤
    nvVbiosScanMax
  signature : desc.signatureCount ≠ 0 → ∀ fuse, fuseOf io desc = some fuse →
    (signatureIndex desc fuse).toNat < desc.signatureCount.toNat ∧
      signaturePlace descAbs (signatureIndex desc fuse) + nvBcrt30Rsa3kSigSize ≤ nvVbiosScanMax

end Stage

/-- A staging that goes on to the reset has read the shadow only. -/
def StagesInside (ucodeCap : Nat) (result : Except StageErr Staged) : Prop :=
  ∀ staged, result = .ok staged →
    staged.uoff + staged.usz ≤ nvVbiosScanMax ∧ staged.usz ≤ ucodeCap ∧
      ∀ index place, staged.signature = some (index, place) →
        place + nvBcrt30Rsa3kSigSize ≤ nvVbiosScanMax ∧
          index.toNat < staged.desc.signatureCount.toNat

theorem toOption_ok {Failure Value : Type} {result : Except Failure Value} {value : Value} :
    result.toOption = some value ↔ result = .ok value := by
  cases result with
  | error failure => exact iff_of_false (fun same => nomatch same) (fun same => nomatch same)
  | ok other =>
      constructor
      · intro same
        cases same
        rfl
      · intro same
        cases same
        rfl

theorem select_ok {desc : NvFwsecDesc} {fuse index : UInt32} :
    nvFwsecSelectSignatureIndex desc fuse = .ok index ↔
      desc.signatureCount ≠ 0 ∧ fuse < 32 ∧
        desc.signatureVersions.toUInt32 &&& (1 <<< fuse) ≠ 0 ∧
          signatureIndex desc fuse = index := by
  simp only [nvFwsecSelectSignatureIndex, require_bind]
  exact and_congr_right fun _ => and_congr_right fun _ => and_congr_right fun _ =>
    ⟨Except.ok.inj, congrArg Except.ok⟩

theorem patch_signature_ok {ucodeLen : Nat} {desc : NvFwsecDesc} {ucode signed : Mem}
    {sig384 : Nat → UInt8} :
    nvFwsecPatchSignature ucodeLen desc ucode sig384 = .ok signed ↔
      desc.imemLoadSize.toNat + desc.pkcDataOffset.toNat + nvBcrt30Rsa3kSigSize ≤ ucodeLen ∧
        blit ucode (desc.imemLoadSize.toNat + desc.pkcDataOffset.toNat) nvBcrt30Rsa3kSigSize
          sig384 = signed := by
  simp only [nvFwsecPatchSignature, require_bind, fits_iff]
  exact and_congr_right fun _ => ⟨Except.ok.inj, congrArg Except.ok⟩

section Stage

variable {io : Mmio} {vbios : Mem} {frtsAddr frtsSize : UInt64} {ucode : Mem} {ucodeCap : Nat}

/-- A staging that ends well has found a descriptor and made every check. -/
theorem stage_ok {staged : Staged}
    (ended : stageFwsec io vbios frtsAddr frtsSize ucode ucodeCap = .ok staged) :
    ∃ descAbs, Found vbios descAbs staged.desc ∧
      Admitted io vbios frtsAddr frtsSize ucode ucodeCap descAbs staged.desc ∧
      staged.uoff = descAbs + staged.desc.hdrSize.toNat ∧
      staged.usz = staged.desc.imemLoadSize.toNat + staged.desc.dmemLoadSize.toNat ∧
      ∀ index place, staged.signature = some (index, place) → staged.desc.signatureCount ≠ 0 ∧
        ∃ fuse, fuseOf io staged.desc = some fuse ∧ signatureIndex staged.desc fuse = index ∧
          place = signaturePlace descAbs index := by
  simp only [stageFwsec, orFail_bind, require_bind, toOption_ok] at ended
  obtain ⟨descAbs, located, desc, parsed, version, size, patched, frts, ended⟩ := ended
  split at ended
  · next unsigned =>
    cases ended
    refine ⟨descAbs, ⟨located, parsed⟩, ⟨version, size, ⟨patched, frts⟩, ?_⟩, rfl, rfl, ?_⟩
    · exact fun signed => absurd unsigned signed
    · intro index place signed
      cases signed
  · next signed =>
    simp only [orFail_bind, toOption_ok] at ended
    obtain ⟨fuse, read, index, selected, image, sealed, returned⟩ := ended
    cases returned
    obtain ⟨_, small, listed, chosen⟩ := select_ok.mp selected
    have room := (patch_signature_ok.mp sealed).1
    refine ⟨descAbs, ⟨located, parsed⟩, ⟨version, size, ⟨patched, frts⟩, ?_⟩, rfl, rfl, ?_⟩
    · exact fun _ => ⟨fuse, read, small, listed, room⟩
    · intro _ _ same
      cases same
      exact ⟨signed, fuse, read, chosen, rfl⟩

/-- A descriptor that passes the checks is staged. -/
theorem stage_admits {descAbs : Nat} {desc : NvFwsecDesc} (found : Found vbios descAbs desc)
    (admitted : Admitted io vbios frtsAddr frtsSize ucode ucodeCap descAbs desc) :
    ∃ staged, stageFwsec io vbios frtsAddr frtsSize ucode ucodeCap = .ok staged ∧
      staged.desc = desc ∧ staged.uoff = descAbs + desc.hdrSize.toNat ∧
      staged.usz = desc.imemLoadSize.toNat + desc.dmemLoadSize.toNat ∧
      (desc.signatureCount ≠ 0 → ∀ fuse, fuseOf io desc = some fuse → staged.signature =
        some (signatureIndex desc fuse, signaturePlace descAbs (signatureIndex desc fuse))) := by
  obtain ⟨located, parsed⟩ := found
  obtain ⟨patched, frts⟩ := admitted.frts
  by_cases unsigned : desc.signatureCount = 0
  · refine ⟨{ desc, uoff := _, usz := _, ucode := patched, signature := none, io }, ?_, rfl, rfl,
      rfl, fun signed => absurd unsigned signed⟩
    simp only [stageFwsec, orFail_bind, require_bind, toOption_ok]
    refine ⟨descAbs, located, desc, parsed, admitted.version, admitted.size, patched, frts, ?_⟩
    rw [if_pos unsigned]
    rfl
  · obtain ⟨fuse, read, small, listed, room⟩ := admitted.signature unsigned
    refine ⟨{ desc, uoff := _, usz := _
              ucode := blit patched (desc.imemLoadSize.toNat + desc.pkcDataOffset.toNat)
                nvBcrt30Rsa3kSigSize fun i =>
                  vbios (signaturePlace descAbs (signatureIndex desc fuse) + i)
              signature := some (signatureIndex desc fuse,
                signaturePlace descAbs (signatureIndex desc fuse))
              io := (nvFalconSignatureFuseVersionGa102 io desc.engineIdMask desc.ucodeId).2 },
      ?_, rfl, rfl, rfl, ?_⟩
    · simp only [stageFwsec, orFail_bind, require_bind, toOption_ok]
      refine ⟨descAbs, located, desc, parsed, admitted.version, admitted.size, patched, frts, ?_⟩
      rw [if_neg unsigned]
      simp only [orFail_bind, toOption_ok]
      exact ⟨fuse, read, signatureIndex desc fuse, select_ok.mpr ⟨unsigned, small, listed, rfl⟩, _,
        patch_signature_ok.mpr ⟨room, rfl⟩, rfl⟩
    · intro _ other again
      cases read.symm.trans again
      rfl

/-- The staging stays inside the shadow exactly when the words of a descriptor that
passes the checks keep it inside. -/
theorem fwsec_stays_inside_iff (io : Mmio) (vbios : Mem) (frtsAddr frtsSize : UInt64) (ucode : Mem)
    (ucodeCap : Nat) :
    StagesInside ucodeCap (stageFwsec io vbios frtsAddr frtsSize ucode ucodeCap) ↔
      ∀ descAbs desc, Found vbios descAbs desc →
        Admitted io vbios frtsAddr frtsSize ucode ucodeCap descAbs desc →
          Inside io descAbs desc := by
  constructor
  · intro inside descAbs desc found admitted
    obtain ⟨staged, ended, rfl, uoff, usz, signature⟩ := stage_admits found admitted
    obtain ⟨image, _, signed⟩ := inside staged ended
    rw [uoff, usz] at image
    refine ⟨image, fun some fuse read => ?_⟩
    obtain ⟨place, index⟩ := signed _ _ (signature some fuse read)
    exact ⟨index, place⟩
  · intro inside staged ended
    obtain ⟨descAbs, found, admitted, uoff, usz, signature⟩ := stage_ok ended
    have within := inside descAbs staged.desc found admitted
    refine ⟨?_, ?_, ?_⟩
    · rw [uoff, usz]
      exact within.ucode
    · rw [usz]
      exact admitted.size
    · intro index place signed
      obtain ⟨some, fuse, read, chosen, rfl⟩ := signature index place signed
      rw [← chosen]
      obtain ⟨below, room⟩ := within.signature some fuse read
      exact ⟨room, below⟩

end Stage

/-- A descriptor in the last 64 bytes of the shadow, with 64 bytes of microcode: 20 of
them are in the shadow. -/
def lateDescriptor : Mem :=
  overlay (twoImages [0x56, 0x4e] [0xc0, 0xff, 0x0f] ++
    [(0xfffc0, [0, 3, 44]), (0xfffe0, [64]), (0xfffec, [1, 4, 8, 1, 4, 0, 0, 0, 0, 1])])

/-- The microcode is read past the end of the shadow. -/
theorem ucode_read_past_shadow :
    ¬ ∀ (io : Mmio) (vbios : Mem) (frtsAddr frtsSize : UInt64) (ucode : Mem) (ucodeCap : Nat),
      StagesInside ucodeCap (stageFwsec io vbios frtsAddr frtsSize ucode ucodeCap) := by
  intro claim
  have inside := claim ⟨Stream'.const 0, []⟩ lateDescriptor 0 0x100000 (fun _ => 0) 0x100000
  have extent : (stageFwsec ⟨Stream'.const 0, []⟩ lateDescriptor 0 0x100000 (fun _ => 0)
      0x100000).map (fun staged => staged.uoff + staged.usz) = .ok 0x10002c := by
    decide +kernel
  cases ended : stageFwsec ⟨Stream'.const 0, []⟩ lateDescriptor 0 0x100000 (fun _ => 0)
      0x100000 with
  | error failure =>
      rw [ended] at extent
      cases extent
  | ok staged =>
      rw [ended] at extent
      have short := (inside staged ended).1
      have reach : staged.uoff + staged.usz = 0x10002c := Except.ok.inj extent
      rw [reach] at short
      exact absurd short (by decide)

end GspDriver.FwsecStaging
