import GspDriver.UserTransfer

/-!
Writes of a client that run out of what the call may write. A handle is resolved
for the whole range, and a buffer in the call is checked as a whole. A memory
descriptor at a plain offset is checked chunk by chunk, so the chunks that still
fit have been written when the first one is turned away.
-/

namespace GspDriver.AtomicWrites

open Bytes Words Pramin Vram VramPool MilcorixFB MilcorixFB.Owner MilcorixUserClient ZeroOnAlloc
open FlatBuffer UserTransfer

variable {n : Nat}

def writeSelector (resource : Bool) : UInt32 :=
  if resource then kMilcorixMethodWriteBuffer else kMilcorixMethodWrite

/-- The range lies in what the call may write: the resource of its handle, or
the data region. -/
def InRange (c : Client n) (args : IOExternalMethodArguments) (resource : Bool) (len : UInt64) :
    Prop :=
  if resource then ∃ a, liveAt c.fPool (args.scalarInput 0) = some a ∧
    (args.scalarInput 1).toNat + len.toNat ≤ a.size.toNat
  else (args.scalarInput 0).toNat + len.toNat ≤ c.owner.scratchSize.toNat

/-- The call fails, and video memory is as it was. -/
def RejectedAtomically (env : Outside) (c : Client n) (call : ExternalCall) : Prop :=
  ∃ reply next, externalMethod env c call = some (reply, next) ∧ reply.rc ≠ .success ∧
    next.owner.card.vram = c.owner.card.vram

/-- The call comes to the loop over the chunks of `md`, at a plain offset. -/
structure Chunked (c : Client n) (call : ExternalCall) (md : IOMemoryDescriptor) : Prop where
  selector : call.selector = kMilcorixMethodWrite
  active : call.inactive = false
  activeLocked : call.inactiveLocked = false
  unmanaged : c.fManaged = false
  count : call.args.scalarInputCount = 1
  absent : call.args.structureInput = none
  given : call.args.structureInputDescriptor = some md
  some : 0 < md.length.toNat
  few : md.length ≤ milcorixMaxXfer
  aligned : call.args.scalarInput 0 &&& 3 = 0
  prepares : md.prepares = true
  mallocs : call.mallocs = true

/-- Some first chunks of the descriptor land, and a byte of them is new. -/
def LeavesHead (env : Outside) (c : Client n) (call : ExternalCall) : Prop :=
  ∃ md, Chunked c call md ∧ ∃ k,
    (∀ i < k, Lands env (c.owner.tick env) md (call.args.scalarInput 0) i) ∧
    ∃ x < chunksBefore md.length k,
      md.bytes x ≠ c.owner.card.vram (regionAddr c.owner (call.args.scalarInput 0) + x)

section Calls

variable {env : Outside} {c : Client n} {call : ExternalCall} {resource : Bool} {len : UInt64}
  {data : Nat → UInt8} {md : IOMemoryDescriptor}

/-- The client that a method is called on: the device may be torn down before. -/
abbrev atMethod (env : Outside) (c : Client n) : Client n := { c with owner := c.owner.tick env }

theorem external_write (selector : call.selector = writeSelector resource)
    (active : call.inactive = false) (activeLocked : call.inactiveLocked = false)
    (admitted : resource = false → c.fManaged = false) :
    externalMethod env c call =
      methodWrite env (atMethod env c) call.args call.mallocs resource := by
  have known : ¬ call.selector ≥ kMilcorixMethodCount := by
    rw [selector]
    cases resource <;> decide
  have served : ¬ (c.fManaged = true ∧ call.selector ≥ kMilcorixMethodWrite ∧
      call.selector ≤ kMilcorixMethodCopy) := by
    rw [selector]
    cases resource with
    | false => simp [admitted rfl]
    | true => exact fun all => absurd all.2.2 (by decide)
  rw [externalMethod, if_neg (by simp [active]), if_neg known]
  simp only [activeLocked, Bool.false_eq_true, ↓reduceIte, if_neg served]
  rw [dispatch, selector]
  cases resource <;> rfl

/-- The dispatcher turns a call away before any method sees it. -/
theorem external_refused (selector : call.selector = writeSelector resource)
    (closed : ¬ (call.inactive = false ∧ call.inactiveLocked = false ∧
      (resource = false → c.fManaged = false))) : RejectedAtomically env c call := by
  have known : ¬ call.selector ≥ kMilcorixMethodCount := by
    rw [selector]
    cases resource <;> decide
  unfold RejectedAtomically externalMethod
  by_cases inactive : call.inactive = true
  · rw [if_pos inactive]
    exact ⟨_, _, rfl, IOReturn.noConfusion, rfl⟩
  rw [if_neg inactive, if_neg known]
  by_cases inactiveLocked : call.inactiveLocked = true
  · simp only [if_pos inactiveLocked]
    exact ⟨_, _, rfl, IOReturn.noConfusion, rfl⟩
  rw [Bool.not_eq_true] at inactive inactiveLocked
  have legacy : resource = false ∧ c.fManaged = true := by
    cases resource <;> cases managed : c.fManaged <;> simp_all
  obtain ⟨rfl, managed⟩ := legacy
  have reserved : c.fManaged = true ∧ call.selector ≥ kMilcorixMethodWrite ∧
      call.selector ≤ kMilcorixMethodCopy := by
    rw [selector]
    exact ⟨managed, by decide, by decide⟩
  simp only [inactiveLocked, Bool.false_eq_true, ↓reduceIte, if_pos reserved]
  exact ⟨_, _, rfl, IOReturn.noConfusion, rfl⟩

/-! The whole range is checked where a handle is resolved. -/

theorem resolve_refused {args : IOExternalMethodArguments} (outside : ¬ InRange c args true len) :
    transferOffset c args true len = none := by
  have refused : (nvVramResolve c.fPool (args.scalarInput 0) (args.scalarInput 1) len).1 ≠ 0 := by
    rw [resolve_spec]
    simp only [InRange, ↓reduceIte, not_exists, not_and, Nat.not_le] at outside
    cases found : liveAt c.fPool (args.scalarInput 0) with
    | none => simp
    | some a =>
        have beyond := outside a found
        simp only
        rw [if_pos]
        · decide
        · by_cases above : args.scalarInput 1 > a.size
          · exact Or.inr (Or.inl above)
          · right
            right
            rw [gt_iff_lt, UInt64.not_lt] at above
            rw [gt_iff_lt, UInt64.lt_iff_toNat_lt, UInt64.toNat_sub_of_le _ _ above]
            rw [UInt64.le_iff_toNat_le] at above
            omega
  simp only [transferOffset, ↓reduceIte, if_pos (And.intro trivial refused)]
  simp

/-! A plain offset. -/

theorem inRange_plain {args : IOExternalMethodArguments} : InRange c args false len ↔
    (args.scalarInput 0).toNat + len.toNat ≤ c.owner.scratchSize.toNat := Iff.rfl

theorem plain_offset {args : IOExternalMethodArguments} {offset : UInt64}
    (found : transferOffset c args false len = some offset) :
    args.scalarInputCount = 1 ∧ args.scalarInput 0 &&& 3 = 0 ∧ offset = args.scalarInput 0 := by
  simp only [transferOffset, Bool.false_eq_true, false_and, ↓reduceIte] at found
  split at found
  · cases found
  rename_i count
  split at found
  · cases found
  split at found
  · cases found
  rename_i aligned
  cases found
  rw [ne_eq, not_not] at count aligned
  exact ⟨count, aligned, rfl⟩

theorem plain_found {args : IOExternalMethodArguments} (count : args.scalarInputCount = 1)
    (some : 0 < len.toNat) (few : len ≤ milcorixMaxXfer) (aligned : args.scalarInput 0 &&& 3 = 0) :
    transferOffset c args false len = Option.some (args.scalarInput 0) := by
  have size := mt (length_refused len).mp
    (not_not_intro ⟨some, UInt64.le_iff_toNat_le.mp few⟩)
  simp only [transferOffset, Bool.false_eq_true, false_and, ↓reduceIte, if_neg size, count,
    aligned, ne_eq, not_true_eq_false]

variable (reached : Reached c.owner)
include reached

/-- A descriptor at a plain offset ends at the first chunk that does not land. -/
theorem chunked_ends (chunked : Chunked c call md) :
    ∃ ended, Ends env (c.owner.tick env) md (call.args.scalarInput 0)
        (written (c.owner.tick env) md (call.args.scalarInput 0)) (fun _ => []) ended ∧
      externalMethod env c call =
        some (⟨ended.1, [], .nothing⟩, { c with owner := ended.2.owner }) := by
  obtain ⟨selector, active, activeLocked, unmanaged, count, absent, given, some, few, aligned,
    prepares, mallocs⟩ := chunked
  have found := @plain_found n (atMethod env c) md.length call.args count some few aligned
  rw [@external_write n env c call false selector active activeLocked fun _ => unmanaged]
  unfold methodWrite
  simp only [absent, given, found]
  rcases @transfer_ends n env _ md (call.args.scalarInput 0) _ _ (atMethod env c) rfl _
    (write_turn_flat reached) (written_zero _ md _) rfl call.mallocs (fun _ => .nothing)
    with ⟨_, _, stopped, _⟩ | ⟨_, ended, ends, returned⟩
  · exact absurd ⟨some, few, prepares, mallocs⟩ stopped
  · exact ⟨ended, ends, returned⟩

omit reached in
/-- A buffer in the call is checked as a whole, also at a plain offset. -/
theorem buffer_rejected {given : Nat → UInt8} (input : call.args.structureInput = some given)
    (found : transferOffset (atMethod env c) call.args false call.args.structureInputSize.toUInt64 =
      some (call.args.scalarInput 0))
    (outside : ¬ InRange c call.args false call.args.structureInputSize.toUInt64) :
    ∃ reply next, methodWrite env (atMethod env c) call.args call.mallocs false =
      some (reply, next) ∧ reply.rc ≠ .success ∧ next.owner.card.vram = c.owner.card.vram := by
  have refused : ¬ Passes env (atMethod env c).owner (call.args.scalarInput 0)
      call.args.structureInputSize := by
    intro passes
    have room := passes.room
    rw [← UInt32.toNat_toUInt64] at room
    exact outside (inRange_plain.mpr room)
  obtain ⟨fails, same⟩ := gpuWrite_refused given refused
  unfold methodWrite
  simp only [input, found]
  split
  · exact ⟨_, _, rfl, IOReturn.noConfusion, rfl⟩
  · exact ⟨_, _, rfl, fails, same⟩

/-- Everywhere else the whole range is checked before the first byte is written. -/
theorem unchunked_rejected (selector : call.selector = writeSelector resource)
    (source : writeSource call.args = some (len, data))
    (outside : ¬ InRange c call.args resource len) (unchunked : ∀ md, ¬ Chunked c call md) :
    RejectedAtomically env c call := by
  by_cases served : call.inactive = false ∧ call.inactiveLocked = false ∧
      (resource = false → c.fManaged = false)
  swap
  · exact external_refused selector served
  obtain ⟨active, activeLocked, admitted⟩ := served
  rw [RejectedAtomically, external_write selector active activeLocked admitted]
  cases found : transferOffset (atMethod env c) call.args resource len with
  | none =>
      rw [write_turned_away env source found]
      exact ⟨_, _, rfl, IOReturn.noConfusion, rfl⟩
  | some offset =>
      cases resource with
      | true =>
          have none := @resolve_refused n (atMethod env c) len call.args outside
          rw [none] at found
          cases found
      | false =>
          obtain ⟨count, aligned, rfl⟩ := plain_offset found
          rw [writeSource] at source
          cases input : call.args.structureInput with
          | some given =>
              rw [input] at source
              cases source
              exact buffer_rejected input found outside
          | none =>
              cases descriptor : call.args.structureInputDescriptor with
              | none =>
                  rw [input, descriptor] at source
                  cases source
              | some md =>
                  rw [input, descriptor] at source
                  cases source
                  unfold methodWrite
                  simp only [input, descriptor, found]
                  rcases @transfer_ends n env _ md (call.args.scalarInput 0) _ _ (atMethod env c)
                    rfl _ (write_turn_flat reached) (written_zero _ md _) rfl call.mallocs
                    (fun _ => .nothing)
                    with ⟨rc, fails, _, returned⟩ | ⟨⟨some, few, prepares, mallocs⟩, _⟩
                  · exact ⟨_, _, returned, fails, rfl⟩
                  · exact absurd ⟨selector, active, activeLocked, admitted rfl, count, input,
                      descriptor, some, few, aligned, prepares, mallocs⟩ (unchunked md)

/-- The chunks that landed stay written. -/
theorem head_stays (leaves : LeavesHead env c call) : ¬ RejectedAtomically env c call := by
  obtain ⟨md, chunked, k, landed, x, inside, new⟩ := leaves
  obtain ⟨ended, ⟨_, j, _, vram, outcome⟩, returned⟩ :=
    @chunked_ends n env c call md reached chunked
  rintro ⟨reply, next, again, fails, same⟩
  rw [returned] at again
  cases again
  rcases outcome with ⟨success, _⟩ | ⟨_, _, stopped⟩
  · exact fails success
  · -- The first chunk that does not land lies behind the ones that do.
    have behind : k ≤ j := by
      by_contra before
      exact stopped (landed j (by omega))
    have deep : x < chunksBefore md.length j := by
      rw [chunksBefore] at inside ⊢
      omega
    have byte := congrFun (same.symm.trans vram) (regionAddr c.owner (call.args.scalarInput 0) + x)
    have start : regionAddr (c.owner.tick env) (call.args.scalarInput 0) =
        regionAddr c.owner (call.args.scalarInput 0) := rfl
    rw [written, start, blit_inside _ _ _ _ _ (by omega), Nat.add_sub_cancel_left] at byte
    exact new byte.symm

/-- A descriptor that runs out of the region fails, and changes what its first
chunks change. -/
theorem chunked_rejected (chunked : Chunked c call md)
    (outside : ¬ InRange c call.args false md.length) (stays : ¬ LeavesHead env c call) :
    RejectedAtomically env c call := by
  obtain ⟨ended, ⟨_, j, landed, vram, outcome⟩, returned⟩ :=
    @chunked_ends n env c call md reached chunked
  have same : ended.2.owner.card.vram = c.owner.card.vram := by
    rw [vram, written]
    funext y
    have start : regionAddr (c.owner.tick env) (call.args.scalarInput 0) =
        regionAddr c.owner (call.args.scalarInput 0) := rfl
    rw [blit, start]
    split
    · rename_i written
      obtain ⟨x, rfl⟩ := Nat.exists_eq_add_of_le written.1
      rw [Nat.add_sub_cancel_left]
      by_contra new
      exact stays ⟨md, chunked, j, landed, x, by omega, new⟩
    · rfl
  refine ⟨_, _, returned, ?_, same⟩
  rcases outcome with ⟨_, whole, _⟩ | ⟨fails, _⟩
  · -- All chunks landed, so the last one ends inside the region.
    have some := chunked.some
    have last := (landed ((md.length.toNat - 1) / 65536) (by omega)).room
    have size : (c.owner.tick env).scratchSize = c.owner.scratchSize := rfl
    rw [chunkSize, size] at last
    exact absurd (inRange_plain.mpr (by omega)) outside
  · exact fails

end Calls

/-- A write that runs out of what the call may write is rejected atomically if
and only if it leaves no head of a descriptor behind. -/
theorem rejected_atomically_iff (env : Outside) (c : Client n) (reached : Reached c.owner)
    (call : ExternalCall) (resource : Bool) (selector : call.selector = writeSelector resource)
    (len : UInt64) (data : Nat → UInt8) (source : writeSource call.args = some (len, data))
    (outside : ¬ InRange c call.args resource len) :
    RejectedAtomically env c call ↔ ¬ LeavesHead env c call := by
  constructor
  · intro rejected leaves
    exact head_stays reached leaves rejected
  · intro stays
    by_cases chunked : ∃ md, Chunked c call md
    · obtain ⟨md, chunked⟩ := chunked
      have legacy : resource = false := by
        cases resource with
        | false => rfl
        | true => exact absurd (selector.symm.trans chunked.selector) (by decide)
      subst legacy
      rw [writeSource, chunked.absent, chunked.given] at source
      cases source
      exact chunked_rejected reached chunked outside stays
    · exact unchunked_rejected reached selector source outside (not_exists.mp chunked)

/-! Two chunks, of which the region has room for one. Without an external address
space it is what is left of one MiB behind the channel's first 12 KiB. -/

def serviceOwner : Owner :=
  { gibibyteOwner with
    externalVmm := false, poolSelftestOk := false, fGpuClients := 0
    scratchVA := 0x20003000, scratchSize := 0xfd000 }

def serviceClient : Client nvVramMaxAllocs :=
  { owner := { serviceOwner with fGpuClients := 1 }, fManaged := false
    fPool := ⟨0, 0x20003000, 0xfd000, 0, 1, fun _ => .zero⟩ }

def writeCall (offset length : UInt64) : ExternalCall :=
  { selector := kMilcorixMethodWrite, args := writeArgs offset length, inactive := false
    inactiveLocked := false, mallocs := true, superReturn := .unsupported }

/-- The second chunk starts where the region ends. -/
theorem overrun_rejected_behind_the_end :
    RejectedAtomically healthy serviceClient (writeCall 0xfd000 0x20000) := by
  apply (rejected_atomically_iff healthy serviceClient (show _ ≤ reach by decide)
    (writeCall 0xfd000 0x20000) false rfl 0x20000 (fun i => UInt8.ofNat i) rfl
    (mt inRange_plain.mp (by decide))).mpr
  rintro ⟨md, chunked, k, landed, x, inside, _⟩
  cases chunked.given
  have positive : 0 < k := by
    by_contra none
    rw [Nat.eq_zero_of_not_pos none] at inside
    exact absurd inside (by rw [chunksBefore]; omega)
  exact absurd (landed 0 positive).room (by decide)

/-- A started client whose first chunk lands although the second one is refused. -/
theorem overrun_leaves_first_chunk :
    start serviceOwner = some serviceClient ∧
      ¬ InRange serviceClient (writeCall 0xed000 0x20000).args false 0x20000 ∧
      ¬ RejectedAtomically healthy serviceClient (writeCall 0xed000 0x20000) := by
  refine ⟨?_, mt inRange_plain.mp (by decide), head_stays (show _ ≤ reach by decide) ?_⟩
  · rw [start, gpuClientOpen, if_pos ⟨rfl, rfl, rfl⟩]
    simp only [nvVramPoolInit]
    rw [if_neg (by decide)]
    rfl
  refine ⟨countingBuffer 0x20000, ⟨rfl, rfl, rfl, rfl, rfl, rfl, rfl, by decide, by decide,
    by decide, rfl, rfl⟩, 1, ?_, 0, by decide, by decide⟩
  intro i first
  obtain rfl : i = 0 := by omega
  exact ⟨rfl, rfl, rfl, rfl, by decide⟩

end GspDriver.AtomicWrites
