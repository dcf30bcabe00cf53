import GspDriver.FwsecRoom

/-!
What `nv_fwsec_patch_frts` leaves in the buffer, whether it succeeds or fails.
The function walks the interface table of an untrusted image, stores the first
word of its patch as soon as it has found the mapper, and only then checks the
place of the command. Here it returns the buffer in either case. It is shown to
be a walk that writes nothing, followed by the stores.
-/

namespace GspDriver.FwsecEffect

open Bytes LittleEndian Checked FwsecLocate FwsecPatch FwsecRoom

/-! The function with the buffer it leaves. -/

section Patch

variable (ucodeLen : Nat) (d : NvFwsecDesc) (frtsAddr frtsSize : UInt64)

abbrev PatchReturn := Except FwsecErr Unit × Mem

def patchMapperIn (ucode : Mem) (dmemBase : UInt32) : PatchReturn :=
  let mapperOff := d.imemLoadSize.toNat + dmemBase.toNat
  if ¬ fits mapperOff (dmemmapperInitCmdOffset + 4) ucodeLen then (.error .bounds, ucode)
  else
    let ucode := st32 ucode (mapperOff + dmemmapperInitCmdOffset) nvfwDmemmapperCmdFrts
    let cmdInOff := ld32 ucode (mapperOff + dmemmapperCmdInBufferOffset)
    let frtsCmdOff := d.imemLoadSize.toNat + cmdInOff.toNat
    if ¬ fits frtsCmdOff (szReadvbios + szFrtsregion) ucodeLen then (.error .bounds, ucode)
    else (.ok (), frtsCommand ucode frtsCmdOff frtsAddr frtsSize)

def patchEntriesIn (ucode : Mem) (entrySize : Nat) : Nat → Nat → PatchReturn
  | 0, _ => (.error .parse, ucode)
  | count + 1, entryOff =>
      if ¬ fits entryOff 8 ucodeLen then (.error .bounds, ucode)
      else if ld32 ucode entryOff = nvfwFalconAppifIdDmemmapper then
        patchMapperIn ucodeLen d frtsAddr frtsSize ucode (ld32 ucode (entryOff + 4))
      else patchEntriesIn ucode entrySize count (entryOff + entrySize)

def patchFrtsIn (ucode : Mem) : PatchReturn :=
  let hdrOff := d.imemLoadSize.toNat + d.interfaceOffset.toNat
  if ¬ fits hdrOff 4 ucodeLen then (.error .bounds, ucode)
  else
    let headerSize := (ucode (hdrOff + 1)).toNat
    let entrySize := (ucode (hdrOff + 2)).toNat
    let entryCount := (ucode (hdrOff + 3)).toNat
    if ucode hdrOff ≠ 1 then (.error .parse, ucode)
    else patchEntriesIn ucodeLen d frtsAddr frtsSize ucode entrySize entryCount
      (hdrOff + headerSize)

end Patch

/-- Callers that stop at an error see only the buffer of a success. -/
def PatchReturn.result (r : PatchReturn) : Except FwsecErr Mem := r.1.map fun _ => r.2

/-! The walk alone. -/

/-- Where the mapper lies, and the places that were read to find it and its command. -/
structure Walk where
  mapper : Nat
  reads : List (Nat × Nat)

section Walks

variable (ucodeLen : Nat) (d : NvFwsecDesc)

def walkMapper (dmemBase : UInt32) : Except FwsecErr Walk :=
  let mapperOff := d.imemLoadSize.toNat + dmemBase.toNat
  if ¬ fits mapperOff (dmemmapperInitCmdOffset + 4) ucodeLen then .error .bounds
  else .ok { mapper := mapperOff, reads := [(mapperOff + dmemmapperCmdInBufferOffset, 4)] }

def readFirst (place : Nat × Nat) (walk : Except FwsecErr Walk) : Except FwsecErr Walk :=
  walk.map fun w => { w with reads := place :: w.reads }

def walkEntries (ucode : Mem) (entrySize : Nat) : Nat → Nat → Except FwsecErr Walk
  | 0, _ => .error .parse
  | count + 1, entryOff =>
      if ¬ fits entryOff 8 ucodeLen then .error .bounds
      else readFirst (entryOff, 8) <|
        if ld32 ucode entryOff = nvfwFalconAppifIdDmemmapper then
          walkMapper ucodeLen d (ld32 ucode (entryOff + 4))
        else walkEntries ucode entrySize count (entryOff + entrySize)

def walkTable (ucode : Mem) : Except FwsecErr Walk :=
  let hdrOff := d.imemLoadSize.toNat + d.interfaceOffset.toNat
  if ¬ fits hdrOff 4 ucodeLen then .error .bounds
  else if ucode hdrOff ≠ 1 then .error .parse
  else readFirst (hdrOff, 4) <|
    walkEntries ucodeLen d ucode (ucode (hdrOff + 2)).toNat (ucode (hdrOff + 3)).toNat
      (hdrOff + (ucode (hdrOff + 1)).toNat)

end Walks

/-- Where a mapper's command buffer lies. -/
def commandAt (d : NvFwsecDesc) (ucode : Mem) (mapper : Nat) : Nat :=
  d.imemLoadSize.toNat + (ld32 ucode (mapper + dmemmapperCmdInBufferOffset)).toNat

/-- The stores for a mapper that was found. -/
def patchAt (ucodeLen : Nat) (d : NvFwsecDesc) (frtsAddr frtsSize : UInt64) (ucode : Mem)
    (mapper : Nat) : PatchReturn :=
  let begun := st32 ucode (mapper + dmemmapperInitCmdOffset) nvfwDmemmapperCmdFrts
  if ¬ fits (commandAt d ucode mapper) (szReadvbios + szFrtsregion) ucodeLen then
    (.error .bounds, begun)
  else (.ok (), frtsCommand begun (commandAt d ucode mapper) frtsAddr frtsSize)

def walkThenPatch (ucodeLen : Nat) (d : NvFwsecDesc) (frtsAddr frtsSize : UInt64) (ucode : Mem)
    (walk : Except FwsecErr Walk) : PatchReturn :=
  match walk with
  | .error error => (.error error, ucode)
  | .ok w => patchAt ucodeLen d frtsAddr frtsSize ucode w.mapper

section Effect

variable {ucodeLen : Nat} {d : NvFwsecDesc} {frtsAddr frtsSize : UInt64} {ucode : Mem}

theorem walkThenPatch_read (place : Nat × Nat) (walk : Except FwsecErr Walk) :
    walkThenPatch ucodeLen d frtsAddr frtsSize ucode (readFirst place walk) =
      walkThenPatch ucodeLen d frtsAddr frtsSize ucode walk := by
  cases walk with
  | error error => rfl
  | ok w => rfl

theorem patchMapper_walks (dmemBase : UInt32) :
    patchMapperIn ucodeLen d frtsAddr frtsSize ucode dmemBase =
      walkThenPatch ucodeLen d frtsAddr frtsSize ucode (walkMapper ucodeLen d dmemBase) := by
  simp only [patchMapperIn, walkMapper, mapper_word]
  split
  · rfl
  · rfl

theorem patchEntries_walks (entrySize count entryOff : Nat) :
    patchEntriesIn ucodeLen d frtsAddr frtsSize ucode entrySize count entryOff =
      walkThenPatch ucodeLen d frtsAddr frtsSize ucode
        (walkEntries ucodeLen d ucode entrySize count entryOff) := by
  induction count generalizing entryOff with
  | zero => rfl
  | succ count ih =>
      simp only [patchEntriesIn, walkEntries]
      split
      · rfl
      · rw [walkThenPatch_read]
        split
        · exact patchMapper_walks _
        · exact ih _

/-- The patch is a walk that writes nothing and then the stores. -/
theorem patch_walks : patchFrtsIn ucodeLen d frtsAddr frtsSize ucode =
    walkThenPatch ucodeLen d frtsAddr frtsSize ucode (walkTable ucodeLen d ucode) := by
  simp only [patchFrtsIn, walkTable]
  split
  · rfl
  split
  · rfl
  · rw [walkThenPatch_read]
    exact patchEntries_walks _ _ _

/-! The function of the bring-up is this one without the buffer of a failure. -/

theorem patchMapper_result (dmemBase : UInt32) :
    patchMapper ucodeLen d frtsAddr frtsSize ucode dmemBase =
      (patchMapperIn ucodeLen d frtsAddr frtsSize ucode dmemBase).result := by
  simp only [patchMapper, patchMapperIn]
  by_cases mapper : fits (d.imemLoadSize.toNat + dmemBase.toNat) (dmemmapperInitCmdOffset + 4)
      ucodeLen
  · rw [require_pass mapper, if_neg (not_not.mpr mapper)]
    split
    · rename_i outside
      rw [require_stop outside]
      rfl
    · rename_i inside
      rw [require_pass (not_not.mp inside)]
      rfl
  · rw [require_stop mapper, if_pos mapper]
    rfl

theorem patchEntries_result (entrySize count entryOff : Nat) :
    patchEntries ucodeLen d frtsAddr frtsSize ucode entrySize count entryOff =
      (patchEntriesIn ucodeLen d frtsAddr frtsSize ucode entrySize count entryOff).result := by
  induction count generalizing entryOff with
  | zero => rfl
  | succ count ih =>
      simp only [patchEntries, patchEntriesIn]
      by_cases entry : fits entryOff 8 ucodeLen
      · rw [require_pass entry, if_neg (not_not.mpr entry)]
        split
        · exact patchMapper_result _
        · exact ih _
      · rw [require_stop entry, if_pos entry]
        rfl

theorem patchFrts_result : nvFwsecPatchFrts ucodeLen d frtsAddr frtsSize ucode =
    (patchFrtsIn ucodeLen d frtsAddr frtsSize ucode).result := by
  simp only [nvFwsecPatchFrts, patchFrtsIn]
  by_cases header : fits (d.imemLoadSize.toNat + d.interfaceOffset.toNat) 4 ucodeLen
  · rw [require_pass header, if_neg (not_not.mpr header)]
    by_cases version : ucode (d.imemLoadSize.toNat + d.interfaceOffset.toNat) = 1
    · rw [require_pass version, if_neg (not_not.mpr version)]
      exact patchEntries_result _ _ _
    · rw [require_stop version, if_pos version]
      rfl
  · rw [require_stop header, if_pos header]
    rfl

end Effect

/-! Walking a second time. -/

/-- Two buffers that hold the same bytes at the given places. -/
def SameAt (places : List (Nat × Nat)) (m m' : Mem) : Prop :=
  ∀ place ∈ places, ∀ i < place.2, m (place.1 + i) = m' (place.1 + i)

section Again

variable {ucodeLen : Nat} {d : NvFwsecDesc} {m m' : Mem}

theorem readFirst_ok {place : Nat × Nat} {walk : Except FwsecErr Walk} {w : Walk}
    (found : readFirst place walk = .ok w) :
    ∃ tail, walk = .ok tail ∧ w = { tail with reads := place :: tail.reads } := by
  cases walk with
  | error error => cases found
  | ok tail =>
      cases found
      exact ⟨tail, rfl, rfl⟩

/-- A walk finds the same in any buffer that it reads the same from. -/
theorem walkEntries_again {entrySize count entryOff : Nat} {w : Walk}
    (found : walkEntries ucodeLen d m entrySize count entryOff = .ok w)
    (same : SameAt w.reads m m') :
    walkEntries ucodeLen d m' entrySize count entryOff = .ok w := by
  induction count generalizing entryOff w with
  | zero => cases found
  | succ count ih =>
      rw [walkEntries] at found ⊢
      split at found
      · cases found
      rename_i inside
      obtain ⟨tail, rest, rfl⟩ := readFirst_ok found
      have here := same _ List.mem_cons_self
      -- Both words of the entry lie in the eight bytes that are read first.
      have id : ld32 m entryOff = ld32 m' entryOff :=
        ld32_congr fun i below => here i (by simp only; omega)
      have base : ld32 m (entryOff + 4) = ld32 m' (entryOff + 4) := by
        apply ld32_congr
        intro i below
        rw [Nat.add_assoc]
        exact here (4 + i) (by simp only; omega)
      rw [if_neg inside, ← id, ← base]
      split at rest
      · rename_i named
        rw [if_pos named, rest]
        rfl
      · rename_i other
        rw [if_neg other, ih rest fun place member => same place (List.mem_cons_of_mem _ member)]
        rfl

theorem walkTable_again {w : Walk} (found : walkTable ucodeLen d m = .ok w)
    (same : SameAt w.reads m m') : walkTable ucodeLen d m' = .ok w := by
  simp only [walkTable] at found ⊢
  split at found
  · cases found
  rename_i inside
  split at found
  · cases found
  rename_i version
  obtain ⟨tail, rest, rfl⟩ := readFirst_ok found
  have here := same _ List.mem_cons_self
  have byte : ∀ i < 4, m (d.imemLoadSize.toNat + d.interfaceOffset.toNat + i) =
      m' (d.imemLoadSize.toNat + d.interfaceOffset.toNat + i) := here
  have first := byte 0 (by decide)
  rw [Nat.add_zero] at first
  rw [if_neg inside, ← first, if_neg version, ← byte 1 (by decide), ← byte 2 (by decide),
    ← byte 3 (by decide),
    walkEntries_again rest fun place member => same place (List.mem_cons_of_mem _ member)]
  rfl

theorem walkMapper_command {dmemBase : UInt32} {w : Walk}
    (found : walkMapper ucodeLen d dmemBase = .ok w) :
    (w.mapper + dmemmapperCmdInBufferOffset, 4) ∈ w.reads := by
  rw [walkMapper] at found
  split at found
  · cases found
  · cases found
    exact List.mem_cons_self

theorem walkEntries_command {entrySize count entryOff : Nat} {w : Walk}
    (found : walkEntries ucodeLen d m entrySize count entryOff = .ok w) :
    (w.mapper + dmemmapperCmdInBufferOffset, 4) ∈ w.reads := by
  induction count generalizing entryOff w with
  | zero => cases found
  | succ count ih =>
      rw [walkEntries] at found
      split at found
      · cases found
      obtain ⟨tail, rest, rfl⟩ := readFirst_ok found
      apply List.mem_cons_of_mem
      split at rest
      · exact walkMapper_command rest
      · exact ih rest

/-- A walk reads the mapper's field for the command, too. -/
theorem walkTable_command {w : Walk} (found : walkTable ucodeLen d m = .ok w) :
    (w.mapper + dmemmapperCmdInBufferOffset, 4) ∈ w.reads := by
  simp only [walkTable] at found
  split at found
  · cases found
  split at found
  · cases found
  obtain ⟨tail, rest, rfl⟩ := readFirst_ok found
  exact List.mem_cons_of_mem _ (walkEntries_command rest)

theorem commandAt_again {w : Walk} (found : walkTable ucodeLen d m = .ok w)
    (same : SameAt w.reads m m') : commandAt d m' w.mapper = commandAt d m w.mapper := by
  have field : ld32 m (w.mapper + dmemmapperCmdInBufferOffset) =
      ld32 m' (w.mapper + dmemmapperCmdInBufferOffset) :=
    ld32_congr (same _ (walkTable_command found))
  rw [commandAt, commandAt, field]

end Again

/-! The command. -/

structure ReadVbios where
  ver : UInt32
  hdr : UInt32
  addr : UInt64
  size : UInt32
  flags : UInt32
  deriving DecidableEq

structure FrtsRegion where
  ver : UInt32
  hdr : UInt32
  addr : UInt32
  size : UInt32
  ftype : UInt32
  deriving DecidableEq

def readVbios (m : Mem) (rv : Nat) : ReadVbios :=
  { ver := ld32 m rv
    hdr := ld32 m (rv + 4)
    addr := ld64 m (rv + 8)
    size := ld32 m (rv + 16)
    flags := ld32 m (rv + 20) }

def frtsRegion (m : Mem) (rv : Nat) : FrtsRegion :=
  let fr := rv + szReadvbios
  { ver := ld32 m fr
    hdr := ld32 m (fr + 4)
    addr := ld32 m (fr + 8)
    size := ld32 m (fr + 12)
    ftype := ld32 m (fr + 16) }

section Command

variable (m : Mem) (rv : Nat) (frtsAddr frtsSize : UInt64)

theorem command_outside {x : Nat} (outside : x < rv ∨ rv + (szReadvbios + szFrtsregion) ≤ x) :
    frtsCommand m rv frtsAddr frtsSize x = m x := by
  have size : szReadvbios + szFrtsregion = 44 := rfl
  have header : szReadvbios = 24 := rfl
  simp (disch := omega) only [frtsCommand, st32_outside, st64_outside]

theorem command_vbios :
    readVbios (frtsCommand m rv frtsAddr frtsSize) rv =
      { ver := 1, hdr := UInt32.ofNat szReadvbios, addr := 0, size := 0, flags := 2 } := by
  have header : szReadvbios = 24 := rfl
  simp (disch := omega) only [readVbios, frtsCommand, ld32_st32, ld32_st32_apart, ld64_st64,
    ld64_st32_apart, ld32_st64_apart]

theorem command_region :
    frtsRegion (frtsCommand m rv frtsAddr frtsSize) rv =
      { ver := 1, hdr := UInt32.ofNat szFrtsregion, addr := (frtsAddr >>> 12).toUInt32
        size := (frtsSize >>> 12).toUInt32, ftype := nvfwFrtsRegionTypeFb } := by
  simp (disch := omega) only [frtsRegion, frtsCommand, ld32_st32, ld32_st32_apart]

end Command

/-- A page number below 2^32 is kept in full. -/
theorem page_toNat {v : UInt64} (small : v.toNat < 2 ^ 44) :
    (v >>> 12).toUInt32.toNat = v.toNat / 2 ^ 12 := by
  have shift : (12 : UInt64).toNat % 64 = 12 := by decide
  rw [UInt64.toNat_toUInt32, UInt64.toNat_shiftRight, shift, Nat.shiftRight_eq_div_pow]
  exact Nat.mod_eq_of_lt (by omega)

/-! The effect. -/

/-- Two places, each a start and a length, that share no byte. -/
def Apart (a b : Nat × Nat) : Prop := a.1 + a.2 ≤ b.1 ∨ b.1 + b.2 ≤ a.1

instance (a b : Nat × Nat) : Decidable (Apart a b) := inferInstanceAs (Decidable (_ ∨ _))

/-- Two buffers that agree but for the bytes of some places. -/
def SameOutside (places : List (Nat × Nat)) (m m' : Mem) : Prop :=
  ∀ x, (∀ place ∈ places, x < place.1 ∨ place.1 + place.2 ≤ x) → m' x = m x

def initCmdField (mapper : Nat) : Nat × Nat := (mapper + dmemmapperInitCmdOffset, 4)

def commandField (command : Nat) : Nat × Nat := (command, szReadvbios + szFrtsregion)

theorem SameOutside.at {written reads : List (Nat × Nat)} {m m' : Mem}
    (same : SameOutside written m m')
    (apart : ∀ field ∈ written, ∀ place ∈ reads, Apart field place) : SameAt reads m m' := by
  intro place read i below
  refine (same _ fun field member => ?_).symm
  rcases apart field member place read with before | behind
  · exact .inr (by omega)
  · exact .inl (by omega)

/-- A command that decodes to the region `frtsAddr`, `frtsSize` in frame buffer pages. -/
structure FrtsCommandAt (m : Mem) (command : Nat) (frtsAddr frtsSize : UInt64) : Prop where
  vbios : readVbios m command =
    { ver := 1, hdr := UInt32.ofNat szReadvbios, addr := 0, size := 0, flags := 2 }
  addr : (frtsRegion m command).addr.toNat = frtsAddr.toNat / 2 ^ 12
  size : (frtsRegion m command).size.toNat = frtsSize.toNat / 2 ^ 12
  ftype : (frtsRegion m command).ftype = nvfwFrtsRegionTypeFb

/-- What the patch leaves where the walk of the untouched buffer found `w`. -/
structure Patched (ucodeLen : Nat) (d : NvFwsecDesc) (frtsAddr frtsSize : UInt64) (w : Walk)
    (ucode patched : Mem) : Prop where
  frame : SameOutside [initCmdField w.mapper, commandField (commandAt d ucode w.mapper)] ucode
    patched
  command : FrtsCommandAt patched (commandAt d ucode w.mapper) frtsAddr frtsSize
  /-- The command is written second and may lie on the mapper's first word. -/
  first : Apart (initCmdField w.mapper) (commandField (commandAt d ucode w.mapper)) →
    ld32 patched (w.mapper + dmemmapperInitCmdOffset) = nvfwDmemmapperCmdFrts
  /-- Both may lie on the table that led to them. -/
  again : (∀ field ∈ [initCmdField w.mapper, commandField (commandAt d ucode w.mapper)],
      ∀ place ∈ w.reads, Apart field place) →
    walkTable ucodeLen d patched = .ok w ∧
      commandAt d patched w.mapper = commandAt d ucode w.mapper

section Outcome

variable {ucodeLen : Nat} {d : NvFwsecDesc} {frtsAddr frtsSize : UInt64} {ucode patched : Mem}

theorem begun_frame (m : Mem) (mapper : Nat) (v : UInt32) :
    SameOutside [initCmdField mapper] m (st32 m (mapper + dmemmapperInitCmdOffset) v) := by
  intro x outside
  exact st32_outside m _ v x (outside _ List.mem_cons_self)

theorem stores_frame (frtsAddr frtsSize : UInt64) (m : Mem) (mapper command : Nat) (v : UInt32) :
    SameOutside [initCmdField mapper, commandField command] m
      (frtsCommand (st32 m (mapper + dmemmapperInitCmdOffset) v) command frtsAddr frtsSize) := by
  intro x outside
  have away : x < command ∨ command + (szReadvbios + szFrtsregion) ≤ x :=
    outside (commandField command) (List.mem_cons_of_mem _ List.mem_cons_self)
  rw [command_outside _ _ _ _ away]
  exact begun_frame m mapper v x fun place member =>
    outside place (List.mem_cons.mpr (.inl (List.mem_singleton.mp member)))

theorem stores_command (m : Mem) (command : Nat) (address : frtsAddr.toNat < 2 ^ 44)
    (extent : frtsSize.toNat < 2 ^ 44) :
    FrtsCommandAt (frtsCommand m command frtsAddr frtsSize) command frtsAddr frtsSize := by
  have region := command_region m command frtsAddr frtsSize
  constructor
  · exact command_vbios m command frtsAddr frtsSize
  · rw [region]
    exact page_toNat address
  · rw [region]
    exact page_toNat extent
  · rw [region]

/-- A patch of a mapper that was found leaves all that a success promises. -/
theorem stores_patched {w : Walk} (found : walkTable ucodeLen d ucode = .ok w)
    (address : frtsAddr.toNat < 2 ^ 44) (extent : frtsSize.toNat < 2 ^ 44) :
    Patched ucodeLen d frtsAddr frtsSize w ucode
      (frtsCommand (st32 ucode (w.mapper + dmemmapperInitCmdOffset) nvfwDmemmapperCmdFrts)
        (commandAt d ucode w.mapper) frtsAddr frtsSize) := by
  have frame := stores_frame frtsAddr frtsSize ucode w.mapper (commandAt d ucode w.mapper)
    nvfwDmemmapperCmdFrts
  refine ⟨frame, stores_command _ _ address extent, fun separate => ?_, fun apart => ?_⟩
  · have word := ld32_st32 ucode (w.mapper + dmemmapperInitCmdOffset) nvfwDmemmapperCmdFrts
    refine (ld32_congr fun i below => command_outside _ _ _ _ ?_).trans word
    rcases separate with before | behind
    · exact .inl (Nat.lt_of_lt_of_le (by simp only [initCmdField]; omega) before)
    · exact .inr (Nat.le_trans behind (by simp only [initCmdField]; omega))
  · -- The walk and the mapper's own field are decided by the bytes in `w.reads`.
    have same := frame.at apart
    exact ⟨walkTable_again found same, commandAt_again found same⟩

/-- A success leaves a command that decodes to the region, and changes nothing but the
mapper's first word and the command. What an error leaves is the buffer as it was, unless
the mapper was found and only its command lies outside: then the first word is written. -/
theorem patch_frts_effect (address : frtsAddr.toNat < 2 ^ 44) (extent : frtsSize.toNat < 2 ^ 44)
    (left : Mem) :
    (patchFrtsIn ucodeLen d frtsAddr frtsSize ucode = (.ok (), left) →
      ∃ w, walkTable ucodeLen d ucode = .ok w ∧
        Patched ucodeLen d frtsAddr frtsSize w ucode left) ∧
    ∀ error, patchFrtsIn ucodeLen d frtsAddr frtsSize ucode = (.error error, left) →
      left = ucode ∨
      error = .bounds ∧ ∃ w, walkTable ucodeLen d ucode = .ok w ∧
        ¬ fits (commandAt d ucode w.mapper) (szReadvbios + szFrtsregion) ucodeLen ∧
        SameOutside [initCmdField w.mapper] ucode left := by
  rw [patch_walks]
  cases walk : walkTable ucodeLen d ucode with
  | error stop =>
      refine ⟨fun done => ?_, fun error failed => ?_⟩
      · cases done
      · cases failed
        exact .inl rfl
  | ok w =>
      rw [walkThenPatch, patchAt]
      split
      · rename_i outside
        refine ⟨fun done => ?_, fun error failed => ?_⟩
        · cases done
        · cases failed
          exact .inr ⟨rfl, w, rfl, outside, begun_frame _ _ _⟩
      · refine ⟨fun done => ?_, fun error failed => ?_⟩
        · cases done
          exact ⟨w, rfl, stores_patched walk address extent⟩
        · cases failed

end Outcome

/-! An image with one entry, whose mapper is at 16 and names `cmdIn` as the command's place. -/

def flatDesc : NvFwsecDesc :=
  { version := 3, hdrSize := 0, imemLoadSize := 0, imemPhysBase := 0, dmemLoadSize := 0
    dmemPhysBase := 0, interfaceOffset := 0, pkcDataOffset := 0, engineIdMask := 0
    signatureVersions := 0, ucodeId := 0, signatureCount := 0 }

def oneEntry (cmdIn : UInt32) : Mem :=
  st32 (st32 (st32 (st32 (fun _ => 0) 0 0x01080401) 4 nvfwFalconAppifIdDmemmapper) 8 16) 24 cmdIn

theorem patch_frts_effect_apart :
    ∃ patched, patchFrtsIn 128 flatDesc 0x5000 0x2000 (oneEntry 64) = (.ok (), patched) ∧
      FrtsCommandAt patched 64 0x5000 0x2000 ∧
      ld32 patched 60 = nvfwDmemmapperCmdFrts ∧
      walkTable 128 flatDesc patched =
        .ok { mapper := 16, reads := [(0, 4), (4, 8), (24, 4)] } := by
  refine ⟨_, rfl, ?_⟩
  obtain ⟨w, found, done⟩ := (patch_frts_effect (by decide) (by decide) _).1
    (rfl : patchFrtsIn 128 flatDesc 0x5000 0x2000 (oneEntry 64) = (.ok (), _))
  have walk : walkTable 128 flatDesc (oneEntry 64) =
      .ok { mapper := 16, reads := [(0, 4), (4, 8), (24, 4)] } := rfl
  rw [walk] at found
  cases found
  have apart := done.again (by decide)
  exact ⟨done.command, done.first (by decide), apart.1⟩

/-- Where the command lies outside, the first word is left behind. Where it lies on the
table, the patch succeeds and the table is gone. -/
theorem patch_frts_torn :
    ((patchFrtsIn 64 flatDesc 0x5000 0x2000 (oneEntry 0xffff)).1 = .error .bounds ∧
      oneEntry 0xffff 60 = 0 ∧
      (patchFrtsIn 64 flatDesc 0x5000 0x2000 (oneEntry 0xffff)).2 60 = 0x15) ∧
    (patchFrtsIn 64 flatDesc 0x5000 0x2000 (oneEntry 0)).1 = .ok () ∧
      walkTable 64 flatDesc (patchFrtsIn 64 flatDesc 0x5000 0x2000 (oneEntry 0)).2 =
        .error .parse := by
  refine ⟨⟨rfl, by decide, by decide⟩, rfl, rfl⟩

end GspDriver.FwsecEffect
