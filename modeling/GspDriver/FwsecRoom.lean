import GspDriver.FwsecStaging

/-!
How many bytes of microcode the two patches need. The patches look at the
buffer's length only to refuse; where they accept, what they write does not
depend on it.
-/

namespace GspDriver.FwsecRoom

open Bytes LittleEndian Checked Falcon FwsecLocate FwsecPatch FwsecStaging

/-- Memories that hold the same first `n` bytes. -/
def SameBelow (n : Nat) (m m' : Mem) : Prop := ∀ x < n, m x = m' x

section Same

variable {n : Nat} {m m' : Mem}

theorem SameBelow.symm (same : SameBelow n m m') : SameBelow n m' m :=
  fun x below => (same x below).symm

theorem SameBelow.trans {m'' : Mem} (same : SameBelow n m m') (next : SameBelow n m' m'') :
    SameBelow n m m'' := fun x below => (same x below).trans (next x below)

theorem SameBelow.le {k : Nat} (same : SameBelow n m m') (fewer : k ≤ n) : SameBelow k m m' :=
  fun x below => same x (Nat.lt_of_lt_of_le below fewer)

theorem SameBelow.ld32 (same : SameBelow n m m') {p : Nat} (inside : p + 4 ≤ n) :
    ld32 m p = ld32 m' p := by
  rw [LittleEndian.ld32, LittleEndian.ld32, same p (by omega), same (p + 1) (by omega),
    same (p + 2) (by omega), same (p + 3) (by omega)]

theorem SameBelow.put (same : SameBelow n m m') (a : Nat) (byte : UInt8) :
    SameBelow n (put m a byte) (put m' a byte) := by
  intro x below
  by_cases hit : x = a
  · simp only [Bytes.put, if_pos hit]
  · simp only [Bytes.put, if_neg hit]
    exact same x below

theorem SameBelow.st32 (same : SameBelow n m m') (p : Nat) (v : UInt32) :
    SameBelow n (st32 m p v) (st32 m' p v) :=
  (((same.put _ _).put _ _).put _ _).put _ _

theorem SameBelow.st64 (same : SameBelow n m m') (p : Nat) (v : UInt64) :
    SameBelow n (st64 m p v) (st64 m' p v) := by
  rw [LittleEndian.st64, LittleEndian.st64]
  induction List.range 8 generalizing m m' with
  | nil => exact same
  | cons i rest ih => exact ih (same.put _ _)

theorem SameBelow.blit (same : SameBelow n m m') (a k : Nat) (src : Nat → UInt8) :
    SameBelow n (blit m a k src) (blit m' a k src) := by
  intro x below
  by_cases inside : a ≤ x ∧ x < a + k
  · simp only [Bytes.blit, if_pos inside]
  · simp only [Bytes.blit, if_neg inside]
    exact same x below

theorem SameBelow.frtsCommand (same : SameBelow n m m') (rv : Nat) (frtsAddr frtsSize : UInt64) :
    SameBelow n (frtsCommand m rv frtsAddr frtsSize) (frtsCommand m' rv frtsAddr frtsSize) :=
  (((((((((same.st32 _ _).st32 _ _).st64 _ _).st32 _ _).st32 _ _).st32 _ _).st32 _ _).st32 _ _).st32
    _ _).st32 _ _

end Same

/-! The end of the last byte that a patch touches, where it would accept. -/

section Reach

variable (d : NvFwsecDesc) (m : Mem)

def mapperReach (dmemBase : UInt32) : Nat :=
  let mapperOff := d.imemLoadSize.toNat + dmemBase.toNat
  let cmdInOff := ld32 m (mapperOff + dmemmapperCmdInBufferOffset)
  max (mapperOff + (dmemmapperInitCmdOffset + 4))
    (d.imemLoadSize.toNat + cmdInOff.toNat + (szReadvbios + szFrtsregion))

def entriesReach (entrySize : Nat) : Nat → Nat → Option Nat
  | 0, _ => none
  | count + 1, entryOff =>
      if ld32 m entryOff = nvfwFalconAppifIdDmemmapper then
        some (max (entryOff + 8) (mapperReach d m (ld32 m (entryOff + 4))))
      else (entriesReach entrySize count (entryOff + entrySize)).map (max (entryOff + 8))

def frtsReach : Option Nat :=
  let hdrOff := d.imemLoadSize.toNat + d.interfaceOffset.toNat
  if m hdrOff = 1 then
    (entriesReach d m (m (hdrOff + 2)).toNat (m (hdrOff + 3)).toNat
      (hdrOff + (m (hdrOff + 1)).toNat)).map (max (hdrOff + 4))
  else none

def signatureReach : Nat :=
  if d.signatureCount = 0 then 0
  else d.imemLoadSize.toNat + d.pkcDataOffset.toNat + nvBcrt30Rsa3kSigSize

def reach : Option Nat := (frtsReach d m).map (max (signatureReach d))

end Reach

/-- `len` bytes are enough for what reaches to `reach`. -/
def Room (reach : Option Nat) (len : Nat) : Prop := ∃ n, reach = some n ∧ n ≤ len

theorem room_some (n len : Nat) : Room (some n) len ↔ n ≤ len := by
  constructor
  · rintro ⟨_, same, bound⟩
    cases same
    exact bound
  · intro bound
    exact ⟨n, rfl, bound⟩

theorem room_max (reach : Option Nat) (n len : Nat) :
    Room (reach.map (max n)) len ↔ n ≤ len ∧ Room reach len := by
  cases reach with
  | none =>
      exact iff_of_false (fun ⟨_, same, _⟩ => nomatch same) (fun ⟨_, _, same, _⟩ => nomatch same)
  | some other => rw [Option.map_some, room_some, room_some, max_le_iff]

theorem Room.le {reach : Option Nat} {len more : Nat} (room : Room reach len)
    (larger : len ≤ more) : Room reach more := by
  obtain ⟨n, same, bound⟩ := room
  exact ⟨n, same, bound.trans larger⟩

section Patch

variable {d : NvFwsecDesc} {frtsAddr frtsSize : UInt64} {len : Nat} {m : Mem}

/-- The command's place is read after the first word is written, which lies behind it. -/
theorem mapper_word (m : Mem) (mapperOff : Nat) (v : UInt32) :
    ld32 (st32 m (mapperOff + dmemmapperInitCmdOffset) v)
      (mapperOff + dmemmapperCmdInBufferOffset) =
    ld32 m (mapperOff + dmemmapperCmdInBufferOffset) := by
  apply UInt32.toNat_inj.mp
  have order : dmemmapperCmdInBufferOffset + 4 ≤ dmemmapperInitCmdOffset := by decide
  rw [ld32_toNat, ld32_toNat, st32_eq_store, load_store_apart _ _ _ _ _ _ (.inl (by omega))]

theorem mapper_accepts (dmemBase : UInt32) :
    (∃ patched, patchMapper len d frtsAddr frtsSize m dmemBase = .ok patched) ↔
      mapperReach d m dmemBase ≤ len := by
  simp only [patchMapper, require_bind, fits_iff, mapper_word, mapperReach, max_le_iff]
  constructor
  · rintro ⟨_, first, second, _⟩
    exact ⟨first, second⟩
  · rintro ⟨first, second⟩
    exact ⟨_, first, second, rfl⟩

theorem entries_accept (entrySize count entryOff : Nat) :
    (∃ patched, patchEntries len d frtsAddr frtsSize m entrySize count entryOff = .ok patched) ↔
      Room (entriesReach d m entrySize count entryOff) len := by
  induction count generalizing entryOff with
  | zero => exact iff_of_false (fun ⟨_, same⟩ => nomatch same) (fun ⟨_, same, _⟩ => nomatch same)
  | succ count ih =>
      simp only [patchEntries, require_bind, fits_iff, entriesReach]
      by_cases named : ld32 m entryOff = nvfwFalconAppifIdDmemmapper
      · simp only [if_pos named, room_some, max_le_iff, exists_and_left, mapper_accepts]
      · simp only [if_neg named, room_max, exists_and_left, ih]

theorem frts_accepts (frtsAddr frtsSize : UInt64) :
    (∃ patched, nvFwsecPatchFrts len d frtsAddr frtsSize m = .ok patched) ↔
      Room (frtsReach d m) len := by
  simp only [nvFwsecPatchFrts, require_bind, fits_iff, frtsReach, exists_and_left, entries_accept]
  by_cases version : m (d.imemLoadSize.toNat + d.interfaceOffset.toNat) = 1
  · simp only [version, if_true, room_max, true_and]
  · simp only [version, if_false, false_and, and_false]
    refine iff_of_false id ?_
    rintro ⟨_, same, _⟩
    cases same

/-- What is written does not depend on the length that was checked. -/
theorem mapper_same {k : Nat} {dmemBase : UInt32} {one other : Mem}
    (first : patchMapper len d frtsAddr frtsSize m dmemBase = .ok one)
    (second : patchMapper k d frtsAddr frtsSize m dmemBase = .ok other) : one = other := by
  simp only [patchMapper, require_bind] at first second
  exact Except.ok.inj (first.2.2.symm.trans second.2.2)

theorem entries_same {k entrySize count entryOff : Nat} {one other : Mem}
    (first : patchEntries len d frtsAddr frtsSize m entrySize count entryOff = .ok one)
    (second : patchEntries k d frtsAddr frtsSize m entrySize count entryOff = .ok other) :
    one = other := by
  induction count generalizing entryOff with
  | zero => cases first
  | succ count ih =>
      simp only [patchEntries, require_bind] at first second
      by_cases named : ld32 m entryOff = nvfwFalconAppifIdDmemmapper
      · rw [if_pos named] at first second
        exact mapper_same first.2 second.2
      · rw [if_neg named] at first second
        exact ih first.2 second.2

theorem frts_same {k : Nat} {one other : Mem}
    (first : nvFwsecPatchFrts len d frtsAddr frtsSize m = .ok one)
    (second : nvFwsecPatchFrts k d frtsAddr frtsSize m = .ok other) : one = other := by
  simp only [nvFwsecPatchFrts, require_bind] at first second
  exact entries_same first.2.2 second.2.2

/-! Buffers that agree on the checked length are patched alike. -/

variable {m' : Mem} (same : SameBelow len m m')

include same

theorem mapper_alike {dmemBase : UInt32} {one : Mem}
    (first : patchMapper len d frtsAddr frtsSize m dmemBase = .ok one) :
    ∃ other, patchMapper len d frtsAddr frtsSize m' dmemBase = .ok other ∧
      SameBelow len one other := by
  simp only [patchMapper, require_bind, mapper_word, fits_iff] at first ⊢
  obtain ⟨mapper, command, returned⟩ := first
  cases returned
  have order : dmemmapperCmdInBufferOffset + 4 ≤ dmemmapperInitCmdOffset + 4 := by decide
  have word := same.ld32 (p := d.imemLoadSize.toNat + dmemBase.toNat + dmemmapperCmdInBufferOffset)
    (by omega)
  rw [← word]
  exact ⟨_, ⟨mapper, command, rfl⟩, (same.st32 _ _).frtsCommand _ _ _⟩

theorem entries_alike {entrySize count entryOff : Nat} {one : Mem}
    (first : patchEntries len d frtsAddr frtsSize m entrySize count entryOff = .ok one) :
    ∃ other, patchEntries len d frtsAddr frtsSize m' entrySize count entryOff = .ok other ∧
      SameBelow len one other := by
  induction count generalizing entryOff with
  | zero => cases first
  | succ count ih =>
      simp only [patchEntries, require_bind, fits_iff] at first ⊢
      obtain ⟨inside, first⟩ := first
      have name := same.ld32 (p := entryOff) (by omega)
      have place := same.ld32 (p := entryOff + 4) (by omega)
      rw [← name, ← place]
      by_cases named : ld32 m entryOff = nvfwFalconAppifIdDmemmapper
      · rw [if_pos named] at first ⊢
        obtain ⟨other, second, alike⟩ := mapper_alike same first
        exact ⟨other, ⟨inside, second⟩, alike⟩
      · rw [if_neg named] at first ⊢
        obtain ⟨other, second, alike⟩ := ih first
        exact ⟨other, ⟨inside, second⟩, alike⟩

theorem frts_alike {one : Mem} (first : nvFwsecPatchFrts len d frtsAddr frtsSize m = .ok one) :
    ∃ other, nvFwsecPatchFrts len d frtsAddr frtsSize m' = .ok other ∧
      SameBelow len one other := by
  simp only [nvFwsecPatchFrts, require_bind, fits_iff] at first ⊢
  obtain ⟨inside, version, first⟩ := first
  rw [← same _ (by omega), ← same _ (by omega), ← same _ (by omega), ← same _ (by omega)]
  obtain ⟨other, second, alike⟩ := entries_alike same first
  exact ⟨other, ⟨inside, version, second⟩, alike⟩

theorem frts_room : Room (frtsReach d m) len ↔ Room (frtsReach d m') len := by
  rw [← frts_accepts 0 0, ← frts_accepts 0 0]
  constructor
  · rintro ⟨_, accepted⟩
    obtain ⟨other, second, _⟩ := frts_alike same accepted
    exact ⟨other, second⟩
  · rintro ⟨_, accepted⟩
    obtain ⟨other, second, _⟩ := frts_alike same.symm accepted
    exact ⟨other, second⟩

omit same

/-- Two buffers with the same microcode of `n` bytes, with room for the patch in it,
hold the same microcode after it. -/
theorem frts_agree {n k : Nat} {one other : Mem} (start : SameBelow n m m')
    (room : Room (frtsReach d m) n)
    (first : nvFwsecPatchFrts len d frtsAddr frtsSize m = .ok one)
    (second : nvFwsecPatchFrts k d frtsAddr frtsSize m' = .ok other) : SameBelow n one other := by
  obtain ⟨within, accepted⟩ := (frts_accepts frtsAddr frtsSize).mpr room
  obtain ⟨copy, again, alike⟩ := frts_alike start accepted
  rw [frts_same first accepted, frts_same second again]
  exact alike

end Patch

end GspDriver.FwsecRoom
