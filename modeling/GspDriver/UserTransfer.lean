import GspDriver.FlatBuffer
import GspDriver.ClientIsolation

/-!
Transfers of a client against a flat byte array. A buffer in the call is moved
by one call of the provider, a memory descriptor by one for each chunk of
64 KiB. The loop over the chunks goes on as long as they land: the invariant is
that the bytes moved so far are a prefix of the buffer.
-/

namespace GspDriver.UserTransfer

open Bytes Loop Words Pramin Vram MilcorixFB MilcorixFB.Owner MilcorixUserClient ZeroOnAlloc
open ClientIsolation FlatBuffer

variable {n : Nat}

/-- The bytes of chunk `i`. -/
def chunkSize (total : UInt64) (i : Nat) : Nat := min 65536 (total.toNat - 65536 * i)

/-- The bytes of the chunks before chunk `i`. -/
def chunksBefore (total : UInt64) (i : Nat) : Nat := min (65536 * i) total.toNat

section Chunks

variable (env : Outside) (o : Owner) (md : IOMemoryDescriptor) (offset : UInt64)

/-- Chunk `i` is moved and its call goes through, if those before it did. -/
structure Lands (i : Nat) : Prop where
  moves : md.moves (65536 * i) = true
  lock : o.fGpuLock = true
  ok : o.ok = true
  stands : env.torn (o.clock + i) = false
  room : offset.toNat + 65536 * i + chunkSize md.length i ≤ o.scratchSize.toNat

/-- The loop when `j` chunks have landed, with the memory that `left` says. -/
structure After (left : Nat → Mem) (data : Nat → List UInt8) (j : Nat) (t : Transfer) : Prop where
  landed : ∀ i < j, Lands env o md offset i
  done : t.done.toNat = chunksBefore md.length j
  keeps : Keeps o t.owner
  ok : t.owner.ok = o.ok
  clock : t.owner.clock = o.clock + j
  vram : t.owner.card.vram = left (chunksBefore md.length j)
  data : t.data = data (chunksBefore md.length j)

/-- The loop ends behind the last chunk, or at the first one that does not land. -/
structure Ends (left : Nat → Mem) (data : Nat → List UInt8) (ended : IOReturn × Transfer) :
    Prop where
  keeps : Keeps o ended.2.owner
  reaches : ∃ j, (∀ i < j, Lands env o md offset i) ∧
    ended.2.owner.card.vram = left (chunksBefore md.length j) ∧
    (ended.1 = .success ∧ md.length.toNat ≤ 65536 * j ∧
        ended.2.data = data (chunksBefore md.length j) ∨
      ended.1 ≠ .success ∧ 65536 * j < md.length.toNat ∧ ¬ Lands env o md offset j)

variable {env o md offset} {left : Nat → Mem} {data : Nat → List UInt8} {j : Nat} {t : Transfer}

/-- The chunk at hand is chunk `j`, and it lies `65536 * j` bytes behind the offset. -/
theorem chunk_at (after : After env o md offset left data j t) (short : t.done < md.length) :
    t.done.toNat = 65536 * j ∧ (chunkAt md.length t.done).toNat = chunkSize md.length j ∧
      (offset + t.done).toNat = offset.toNat + 65536 * j := by
  have size := chunkAt_spec short
  have done := after.done
  have wide := o.scratchSize.toNat_lt
  have first := offset.toNat_lt
  rw [UInt64.lt_iff_toNat_lt] at short
  rw [chunksBefore] at done
  have here : t.done.toNat = 65536 * j := by omega
  refine ⟨here, by rw [size, here, chunkSize], ?_⟩
  cases j with
  | zero => rw [add_toNat (by omega), here]
  | succ j =>
      have room := (after.landed j (by omega)).room
      rw [chunkSize] at room
      rw [add_toNat (by omega), here]

/-- The provider takes the chunk at hand exactly when it lands. -/
theorem passes_iff (after : After env o md offset left data j t) (short : t.done < md.length)
    (moves : md.moves t.done.toNat = true) :
    Passes env t.owner (offset + t.done) (chunkAt md.length t.done) ↔ Lands env o md offset j := by
  obtain ⟨here, size, start⟩ := chunk_at after short
  have positive : 0 < chunkSize md.length j := by
    rw [UInt64.lt_iff_toNat_lt, here] at short
    rw [chunkSize]
    omega
  constructor
  · rintro ⟨lock, ok, stands, _, room⟩
    rw [start, size, after.keeps.size] at room
    exact ⟨here ▸ moves, after.keeps.lock ▸ lock, after.ok ▸ ok, after.clock ▸ stands, room⟩
  · rintro ⟨_, lock, ok, stands, room⟩
    refine ⟨after.keeps.lock.trans lock, after.ok.trans ok, ?_, size ▸ positive, ?_⟩
    · rw [after.clock]
      exact stands
    · rw [start, size, after.keeps.size]
      exact room

theorem chunksBefore_succ (short : 65536 * j < md.length.toNat) :
    chunksBefore md.length (j + 1) = 65536 * j + chunkSize md.length j := by
  rw [chunksBefore, chunkSize]
  omega

theorem done_next (after : After env o md offset left data j t) (short : t.done < md.length) :
    (t.done + (chunkAt md.length t.done).toUInt64).toNat = chunksBefore md.length (j + 1) := by
  obtain ⟨here, size, _⟩ := chunk_at after short
  have bound := md.length.toNat_lt
  rw [UInt64.lt_iff_toNat_lt, here] at short
  rw [chunksBefore_succ short, add_toNat, UInt32.toNat_toUInt64, size, here]
  rw [UInt32.toNat_toUInt64, size, here, chunkSize]
  omega

theorem left_next (after : After env o md offset left data j t) (short : t.done < md.length) :
    md.length.toNat - (t.done + (chunkAt md.length t.done).toUInt64).toNat <
      md.length.toNat - t.done.toNat := by
  have here := (chunk_at after short).1
  rw [UInt64.lt_iff_toNat_lt, here] at short
  rw [done_next after (UInt64.lt_iff_toNat_lt.mpr (here ▸ short)), here, chunksBefore_succ short,
    chunkSize]
  omega

/-- The loop leaves at the end of the buffer. -/
theorem ends_whole (after : After env o md offset left data j t) (whole : ¬ t.done < md.length) :
    Ends env o md offset left data (.success, t) := by
  rw [UInt64.not_lt, UInt64.le_iff_toNat_le, after.done, chunksBefore] at whole
  exact ⟨after.keeps, j, after.landed, after.vram, Or.inl ⟨rfl, by omega, after.data⟩⟩

/-- It leaves at chunk `j`, which did not land, with video memory as it was. -/
theorem ends_refused (after : After env o md offset left data j t) (short : t.done < md.length)
    (refused : ¬ Lands env o md offset j) {rc : IOReturn} (fails : rc ≠ .success) {owner : Owner}
    (keeps : Keeps t.owner owner) (same : owner.card.vram = t.owner.card.vram) :
    Ends env o md offset left data (rc, { t with owner := owner }) := by
  rw [UInt64.lt_iff_toNat_lt, after.done, chunksBefore] at short
  exact ⟨keeps_trans after.keeps keeps, j, after.landed, same.trans after.vram,
    Or.inr ⟨fails, by omega, refused⟩⟩

/-- What a write has left of the memory that it found. -/
def written (o : Owner) (md : IOMemoryDescriptor) (offset : UInt64) (len : Nat) : Mem :=
  blit o.card.vram (regionAddr o offset) len md.bytes

theorem written_zero (o : Owner) (md : IOMemoryDescriptor) (offset : UInt64) :
    o.card.vram = written o md offset 0 := by
  funext x
  exact (blit_outside _ _ _ _ x (by omega)).symm

theorem place_next (after : After env o md offset left data j t) (short : t.done < md.length) :
    regionAddr t.owner (offset + t.done) = regionAddr o offset + 65536 * j := by
  obtain ⟨_, _, start⟩ := chunk_at after short
  rw [regionAddr, regionAddr, start, after.keeps.phys, Nat.add_assoc]

variable (reached : Reached o)
include reached

theorem reached_keeps {owner : Owner} (keeps : Keeps o owner) : Reached owner := by
  rw [Reached, keeps.phys, keeps.size]
  exact reached

theorem write_turn_flat (t : Transfer)
    (under : ∃ j, After env o md offset (written o md offset) (fun _ => []) j t) :
    Establishes (fun t => ∃ j, After env o md offset (written o md offset) (fun _ => []) j t)
      (fun t => md.length.toNat - t.done.toNat)
      (Ends env o md offset (written o md offset) fun _ => []) t (writeTurn env md offset t) := by
  obtain ⟨j, after⟩ := under
  rw [writeTurn]
  by_cases short : t.done < md.length
  · rw [if_pos short]
    obtain ⟨here, size, _⟩ := chunk_at after short
    have performs := gpuWrite_performs env t.owner (offset + t.done)
      (fun i => md.bytes (t.done.toNat + i)) (chunkAt md.length t.done)
    by_cases moves : md.moves t.done.toNat = true
    · by_cases lands : Lands env o md offset j
      · have passes := (passes_iff after short moves).mpr lands
        obtain ⟨success, ok, clock, vram⟩ := gpuWrite_passes
          (reached_keeps reached after.keeps) (fun i => md.bytes (t.done.toNat + i)) passes
        have next := done_next after short
        have before := short
        rw [UInt64.lt_iff_toNat_lt, here] at before
        simp only [if_neg (not_not_intro moves), success, ne_eq, not_true_eq_false, ↓reduceIte]
        refine ⟨⟨j + 1, Nat.forall_lt_succ_right.mpr ⟨after.landed, lands⟩, next,
          keeps_trans after.keeps performs.keeps, ok.trans lands.ok.symm, ?_, ?_, after.data⟩, ?_⟩
        · rw [clock, after.clock, Nat.add_assoc]
        · rw [vram, after.vram, place_next after short, size, chunksBefore_succ before, here]
          rw [written, written, chunksBefore, Nat.min_eq_left (by omega), blit_append]
        · exact left_next after short
      · have refused := mt (passes_iff after short moves).mp lands
        obtain ⟨fails, same⟩ := gpuWrite_refused (fun i => md.bytes (t.done.toNat + i)) refused
        simp only [if_neg (not_not_intro moves), if_pos fails]
        exact ends_refused after short lands fails performs.keeps same
    · have lost : ¬ Lands env o md offset j := fun lands => moves (here ▸ lands.moves)
      simp only [if_pos moves]
      exact ends_refused after short lost IOReturn.noConfusion (keeps_refl _) rfl
  · rw [if_neg short]
    exact ends_whole after short

theorem read_turn_flat (t : Transfer)
    (under : ∃ j, After env o md offset (fun _ => o.card.vram)
      (flatRead o.card.vram (regionAddr o offset)) j t) :
    Establishes (fun t => ∃ j, After env o md offset (fun _ => o.card.vram)
        (flatRead o.card.vram (regionAddr o offset)) j t)
      (fun t => md.length.toNat - t.done.toNat)
      (Ends env o md offset (fun _ => o.card.vram) (flatRead o.card.vram (regionAddr o offset))) t
      (readTurn env md offset t) := by
  obtain ⟨j, after⟩ := under
  rw [readTurn]
  by_cases short : t.done < md.length
  · rw [if_pos short]
    obtain ⟨here, size, _⟩ := chunk_at after short
    have performs := gpuRead_performs env t.owner (offset + t.done) (chunkAt md.length t.done)
    by_cases passes : Passes env t.owner (offset + t.done) (chunkAt md.length t.done)
    · obtain ⟨success, bytes, ok, clock, vram⟩ :=
        gpuRead_passes (reached_keeps reached after.keeps) passes
      simp only [success, ne_eq, not_true_eq_false, ↓reduceIte]
      by_cases moves : md.moves t.done.toNat = true
      · have lands := (passes_iff after short moves).mp passes
        have next := done_next after short
        have before := short
        rw [UInt64.lt_iff_toNat_lt, here] at before
        rw [if_neg (not_not_intro moves)]
        refine ⟨⟨j + 1, Nat.forall_lt_succ_right.mpr ⟨after.landed, lands⟩, next,
          keeps_trans after.keeps performs.keeps, ok.trans lands.ok.symm, ?_,
          vram.trans after.vram, ?_⟩, ?_⟩
        · rw [clock, after.clock, Nat.add_assoc]
        · rw [bytes, after.data, after.vram, place_next after short, size,
            chunksBefore_succ before, flatRead_add, chunksBefore, Nat.min_eq_left (by omega)]
        · exact left_next after short
      · have lost : ¬ Lands env o md offset j := fun lands => moves (here ▸ lands.moves)
        rw [if_pos moves]
        exact ends_refused after short lost IOReturn.noConfusion performs.keeps vram
    · have lost : ¬ Lands env o md offset j := by
        intro lands
        exact passes ((passes_iff after short (here ▸ lands.moves)).mpr lands)
      obtain ⟨fails, same⟩ := gpuRead_refused passes
      simp only [if_pos fails]
      exact ends_refused after short lost fails performs.keeps same
  · rw [if_neg short]
    exact ends_whole after short

omit reached in
/-- The descriptor path around either loop. -/
theorem transfer_ends {c : Client n} (owner : c.owner = o)
    {turn : Transfer → Turn Transfer (IOReturn × Transfer)}
    (turns : ∀ t, (∃ j, After env o md offset left data j t) →
      Establishes (fun t => ∃ j, After env o md offset left data j t)
        (fun t => md.length.toNat - t.done.toNat) (Ends env o md offset left data) t (turn t))
    (start : o.card.vram = left 0) (blank : data 0 = []) (mallocs : Bool)
    (output : List UInt8 → Output) :
    (∃ rc, rc ≠ .success ∧ ¬ (0 < md.length.toNat ∧ md.length ≤ milcorixMaxXfer ∧
        md.prepares = true ∧ mallocs = true) ∧
      transfer turn c md mallocs output = some (fail rc, c)) ∨
    (0 < md.length.toNat ∧ md.length ≤ milcorixMaxXfer ∧ md.prepares = true ∧ mallocs = true) ∧
      ∃ ended, Ends env o md offset left data ended ∧
        transfer turn c md mallocs output =
          some (⟨ended.1, [], output ended.2.data⟩, { c with owner := ended.2.owner }) := by
  subst owner
  rw [transfer]
  by_cases size : md.length = 0 ∨ md.length > milcorixMaxXfer
  · refine Or.inl ⟨.badArgument, IOReturn.noConfusion, ?_, if_pos size⟩
    rintro ⟨some, few, _⟩
    rcases size with zero | long
    · rw [zero] at some
      exact absurd some (by decide)
    · exact UInt64.not_lt.mpr few long
  rw [if_neg size]
  by_cases ready : md.prepares = true
  · by_cases memory : mallocs = true
    · right
      rw [if_neg (not_not_intro ready), if_neg (not_not_intro memory)]
      rw [not_or, gt_iff_lt, UInt64.not_lt] at size
      have first : After env c.owner md offset left data 0 ⟨0, c.owner, []⟩ := by
        refine ⟨fun i none => absurd none (Nat.not_lt_zero i), ?_, keeps_refl _, rfl, rfl, ?_, ?_⟩
        · rw [chunksBefore, Nat.mul_zero, Nat.zero_min]
          rfl
        · rw [chunksBefore, Nat.mul_zero, Nat.zero_min]
          exact start
        · rw [chunksBefore, Nat.mul_zero, Nat.zero_min]
          exact blank.symm
      obtain ⟨ended, returned, ends⟩ := while_returns turn _ _ _ turns (md.length.toNat + 1) _
        ⟨0, first⟩ (by simp only [UInt64.toNat_zero]; omega)
      refine ⟨⟨pos_toNat size.1, size.2, ready, memory⟩, ended, ends, ?_⟩
      rw [returned]
      rfl
    · refine Or.inl ⟨.noMemory, IOReturn.noConfusion, fun all => memory all.2.2.2, ?_⟩
      rw [if_neg (not_not_intro ready), if_pos memory]
  · refine Or.inl ⟨.vmError, IOReturn.noConfusion, fun all => ready all.2.2.1, ?_⟩
    rw [if_pos ready]

end Chunks

/-! What a call asks for. -/

/-- The bytes that a write brings, in the call or in a descriptor. -/
def writeSource (args : IOExternalMethodArguments) : Option (UInt64 × (Nat → UInt8)) :=
  match args.structureInput, args.structureInputDescriptor with
  | some data, _ => some (args.structureInputSize.toUInt64, data)
  | none, some md => some (md.length, md.bytes)
  | none, none => none

/-- The bytes that a read has room for. -/
def readSize (args : IOExternalMethodArguments) : Option UInt64 :=
  match args.structureOutput, args.structureOutputDescriptor with
  | true, _ => some args.structureOutputSize.toUInt64
  | false, some md => some md.length
  | false, none => none

/-- The call asks for `len` bytes at `offset` of the data region: the offset is
passed as it is, or resolved from a handle and an offset in its resource. -/
structure Requests (c : Client n) (args : IOExternalMethodArguments) (resource : Bool)
    (offset len : UInt64) : Prop where
  count : args.scalarInputCount = if resource then 2 else 1
  target : if resource then
    (nvVramResolve c.fPool (args.scalarInput 0) (args.scalarInput 1) len).1 = 0 ∧
      (nvVramResolve c.fPool (args.scalarInput 0) (args.scalarInput 1) len).2.1 = offset
    else args.scalarInput 0 = offset
  aligned : 4 ∣ offset.toNat
  some : 0 < len.toNat
  few : len.toNat ≤ 4194304
  room : offset.toNat + len.toNat ≤ c.owner.scratchSize.toNat

/-- The device is ready and stays so. -/
structure Ready (env : Outside) (o : Owner) : Prop where
  lock : o.fGpuLock = true
  ok : o.ok = true
  stands : ∀ k, env.torn k = false

/-- The kernel maps the descriptor, has memory for a stage, and moves every chunk. -/
structure Mapped (md : IOMemoryDescriptor) (mallocs : Bool) : Prop where
  prepares : md.prepares = true
  mallocs : mallocs = true
  moves : ∀ i, md.moves i = true

section Methods

variable {env : Outside} {c : Client n} {args : IOExternalMethodArguments} {resource : Bool}
  {offset len : UInt64}

/-- The check of a length that every transfer makes. -/
theorem length_refused (len : UInt64) :
    len = 0 ∨ len > milcorixMaxXfer ↔ ¬ (0 < len.toNat ∧ len.toNat ≤ 4194304) := by
  have most : milcorixMaxXfer.toNat = 4194304 := by decide
  rw [gt_iff_lt, UInt64.lt_iff_toNat_lt, most, ← UInt64.toNat_inj, UInt64.toNat_zero]
  omega

theorem requests_offset (requests : Requests c args resource offset len) :
    transferOffset c args resource len = some offset := by
  obtain ⟨count, target, aligned, some, few, _⟩ := requests
  have size := mt (length_refused len).mp (not_not_intro ⟨some, few⟩)
  have clear : ¬ offset &&& 3 ≠ 0 := by
    rw [not_not, ← UInt64.toNat_inj, and_mask_toNat offset (k := 2) (by decide)]
    exact Nat.mod_eq_zero_of_dvd aligned
  simp only [transferOffset, count, ne_eq, not_true_eq_false, ↓reduceIte, if_neg size]
  cases resource with
  | false =>
      simp only [Bool.false_eq_true, false_and, ↓reduceIte] at target ⊢
      rw [target]
      exact if_neg clear
  | true =>
      simp only [↓reduceIte] at target
      simp only [target.1, target.2, not_true_eq_false, and_false, ↓reduceIte]
      exact if_neg clear

/-- Nothing stops the chunks of a mapped descriptor inside the region. -/
theorem mapped_lands {o : Owner} {md : IOMemoryDescriptor} {mallocs : Bool} {j : Nat}
    (ready : Ready env o) (mapped : Mapped md mallocs)
    (room : offset.toNat + md.length.toNat ≤ o.scratchSize.toNat)
    (short : 65536 * j < md.length.toNat) : Lands env o md offset j := by
  refine ⟨mapped.moves _, ready.lock, ready.ok, ready.stands _, ?_⟩
  rw [chunkSize]
  omega

/-- A transfer that succeeds has moved the whole buffer, and one inside the
region succeeds when nothing stops it. -/
theorem ends_flat {o : Owner} {md : IOMemoryDescriptor} {left : Nat → Mem} {data : Nat → List UInt8}
    {ended : IOReturn × Transfer} (ends : Ends env o md offset left data ended)
    (room : offset.toNat + md.length.toNat ≤ o.scratchSize.toNat) :
    (ended.1 = .success → ended.2.owner.card.vram = left md.length.toNat ∧
        ended.2.data = data md.length.toNat) ∧
      ∀ mallocs, Ready env o → Mapped md mallocs → ended.1 = .success := by
  obtain ⟨_, j, _, vram, ⟨success, whole, bytes⟩ | ⟨fails, short, stopped⟩⟩ := ends
  · rw [chunksBefore, Nat.min_eq_right whole] at vram bytes
    exact ⟨fun _ => ⟨vram, bytes⟩, fun _ _ _ => success⟩
  · constructor
    · intro success
      exact absurd success fails
    · intro mallocs ready mapped
      exact absurd (mapped_lands ready mapped room short) stopped

/-- The same check of the length of a buffer in the call. -/
theorem size_fits {size : UInt32} (some : 0 < size.toUInt64.toNat)
    (few : size.toUInt64.toNat ≤ 4194304) : ¬ (size = 0 ∨ size.toUInt64 > milcorixMaxXfer) := by
  intro refused
  refine (length_refused size.toUInt64).mp (refused.imp_left ?_) ⟨some, few⟩
  rintro rfl
  rfl

theorem ready_passes {o : Owner} {size : UInt32} (ready : Ready env o) (some : 0 < size.toNat)
    (room : offset.toNat + size.toNat ≤ o.scratchSize.toNat) : Passes env o offset size :=
  ⟨ready.lock, ready.ok, ready.stands _, some, room⟩

variable (reached : Reached c.owner) (mallocs : Bool)

include reached in
theorem write_flat {data : Nat → UInt8} (source : writeSource args = some (len, data))
    (requests : Requests c args resource offset len) :
    ∃ reply next, methodWrite env c args mallocs resource = some (reply, next) ∧
      Keeps c.owner next.owner ∧ next.fPool = c.fPool ∧
      (reply.rc = .success → next.owner.card.vram =
        blit c.owner.card.vram (regionAddr c.owner offset) len.toNat data) ∧
      (Ready env c.owner → (args.structureInput = none →
          ∀ md, args.structureInputDescriptor = some md → Mapped md mallocs) →
        reply.rc = .success) := by
  have found := requests_offset requests
  have some := requests.some
  have few := requests.few
  have room := requests.room
  rw [writeSource] at source
  unfold methodWrite
  cases input : args.structureInput with
  | some given =>
      rw [input] at source
      cases source
      rw [UInt32.toNat_toUInt64] at some room
      simp only [found, if_neg (size_fits requests.some few), UInt32.toNat_toUInt64]
      have performs := gpuWrite_performs env c.owner offset data args.structureInputSize
      refine ⟨_, _, rfl, performs.keeps, rfl, ?_, ?_⟩
      · intro success
        by_cases passes : Passes env c.owner offset args.structureInputSize
        · exact (gpuWrite_passes reached data passes).2.2.2
        · exact absurd success (gpuWrite_refused data passes).1
      · intro ready _
        exact (gpuWrite_passes reached data (ready_passes ready some room)).1
  | none =>
      cases descriptor : args.structureInputDescriptor with
      | none =>
          rw [input, descriptor] at source
          cases source
      | some md =>
          rw [input, descriptor] at source
          cases source
          simp only [found]
          rcases transfer_ends rfl (write_turn_flat reached) (written_zero c.owner md offset) rfl
            mallocs (fun _ => .nothing)
            with ⟨rc, fails, stopped, returned⟩ | ⟨_, ended, ends, returned⟩
          · refine ⟨_, _, returned, keeps_refl _, rfl, fun success => absurd success fails, ?_⟩
            intro _ mapped
            have ready := mapped trivial md rfl
            exact absurd ⟨some, UInt64.le_iff_toNat_le.mpr few, ready.prepares, ready.mallocs⟩
              stopped
          · obtain ⟨whole, goes⟩ := ends_flat ends room
            refine ⟨_, _, returned, ends.keeps, rfl, fun success => (whole success).1, ?_⟩
            intro ready mapped
            exact goes mallocs ready (mapped trivial md rfl)

include reached in
theorem read_flat (size : readSize args = some len)
    (requests : Requests c args resource offset len) :
    ∃ reply next, methodRead env c args mallocs resource = some (reply, next) ∧
      (reply.rc = .success → next.owner.card.vram = c.owner.card.vram ∧
        reply.output = .bytes (flatRead c.owner.card.vram (regionAddr c.owner offset) len.toNat)) ∧
      (Ready env c.owner → (args.structureOutput = false →
          ∀ md, args.structureOutputDescriptor = some md → Mapped md mallocs) →
        reply.rc = .success) := by
  have found := requests_offset requests
  have some := requests.some
  have few := requests.few
  have room := requests.room
  rw [readSize] at size
  unfold methodRead
  cases output : args.structureOutput with
  | true =>
      rw [output] at size
      cases size
      rw [UInt32.toNat_toUInt64] at some room
      simp only [found, if_neg (size_fits requests.some few), UInt32.toNat_toUInt64]
      refine ⟨_, _, rfl, ?_, ?_⟩
      · intro success
        by_cases passes : Passes env c.owner offset args.structureOutputSize
        · obtain ⟨_, bytes, _, _, vram⟩ := gpuRead_passes reached passes
          exact ⟨vram, congrArg Output.bytes bytes⟩
        · exact absurd success (gpuRead_refused passes).1
      · intro ready _
        exact (gpuRead_passes reached (ready_passes ready some room)).1
  | false =>
      cases descriptor : args.structureOutputDescriptor with
      | none =>
          rw [output, descriptor] at size
          cases size
      | some md =>
          rw [output, descriptor] at size
          cases size
          simp only [found]
          rcases transfer_ends rfl (read_turn_flat reached) rfl rfl mallocs .bytes
            with ⟨rc, fails, stopped, returned⟩ | ⟨_, ended, ends, returned⟩
          · refine ⟨_, _, returned, fun success => absurd success fails, ?_⟩
            intro _ mapped
            have ready := mapped trivial md rfl
            exact absurd ⟨some, UInt64.le_iff_toNat_le.mpr few, ready.prepares, ready.mallocs⟩
              stopped
          · obtain ⟨whole, goes⟩ := ends_flat ends room
            refine ⟨_, _, returned, fun success => ?_, ?_⟩
            · obtain ⟨vram, bytes⟩ := whole success
              exact ⟨vram, congrArg Output.bytes bytes⟩
            · intro ready mapped
              exact goes mallocs ready (mapped trivial md rfl)

end Methods

/-- A buffer of another length is turned away by the first checks. -/
theorem refused_length {c : Client n} {args : IOExternalMethodArguments} {len : UInt64}
    (wrong : len.toNat = 0 ∨ 4194304 < len.toNat) (resource : Bool) :
    transferOffset c args resource len = none := by
  have size := (length_refused len).mpr (by omega)
  simp only [transferOffset, if_pos size, ite_self]

theorem write_turned_away (env : Outside) {c : Client n} {args : IOExternalMethodArguments}
    {len : UInt64} {data : Nat → UInt8} (source : writeSource args = some (len, data))
    {resource : Bool} (none : transferOffset c args resource len = none) (mallocs : Bool) :
    methodWrite env c args mallocs resource = some (fail .badArgument, c) := by
  rw [writeSource] at source
  unfold methodWrite
  cases input : args.structureInput with
  | some given =>
      rw [input] at source
      cases source
      simp only [none]
  | none =>
      cases descriptor : args.structureInputDescriptor with
      | none =>
          rw [input, descriptor] at source
          cases source
      | some md =>
          rw [input, descriptor] at source
          cases source
          simp only [none]

theorem read_turned_away (env : Outside) {c : Client n} {args : IOExternalMethodArguments}
    {len : UInt64} (size : readSize args = some len) {resource : Bool}
    (none : transferOffset c args resource len = none) (mallocs : Bool) :
    methodRead env c args mallocs resource = some (fail .badArgument, c) := by
  rw [readSize] at size
  unfold methodRead
  cases output : args.structureOutput with
  | true =>
      rw [output] at size
      cases size
      simp only [none]
  | false =>
      cases descriptor : args.structureOutputDescriptor with
      | none =>
          rw [output, descriptor] at size
          cases size
      | some md =>
          rw [output, descriptor] at size
          cases size
          simp only [none]

theorem requests_keep {c next : Client n} (keeps : Keeps c.owner next.owner)
    (pool : next.fPool = c.fPool) {args : IOExternalMethodArguments} {resource : Bool}
    {offset len : UInt64} (requests : Requests c args resource offset len) :
    Requests next args resource offset len := by
  obtain ⟨count, target, aligned, some, few, room⟩ := requests
  exact ⟨count, pool ▸ target, aligned, some, few, keeps.size ▸ room⟩

/-- Both ways of passing a buffer write and read the data region as a flat byte
array, for every length up to the transfer limit; other lengths are refused. -/
theorem user_io_flat (env : Outside) (c : Client n) (reached : Reached c.owner) :
    (∀ args mallocs resource offset len data, writeSource args = some (len, data) →
      Requests c args resource offset len →
      ∃ reply next, methodWrite env c args mallocs resource = some (reply, next) ∧
        (reply.rc = .success → next.owner.card.vram =
          blit c.owner.card.vram (regionAddr c.owner offset) len.toNat data) ∧
        (Ready env c.owner → (args.structureInput = none →
            ∀ md, args.structureInputDescriptor = some md → Mapped md mallocs) →
          reply.rc = .success)) ∧
    (∀ args mallocs resource offset len, readSize args = some len →
      Requests c args resource offset len →
      ∃ reply next, methodRead env c args mallocs resource = some (reply, next) ∧
        (reply.rc = .success → next.owner.card.vram = c.owner.card.vram ∧
          reply.output =
            .bytes (flatRead c.owner.card.vram (regionAddr c.owner offset) len.toNat)) ∧
        (Ready env c.owner → (args.structureOutput = false →
            ∀ md, args.structureOutputDescriptor = some md → Mapped md mallocs) →
          reply.rc = .success)) ∧
    (∀ args mallocs resource args' mallocs' resource' env' offset len data reply next reply' next',
      writeSource args = some (len, data) → Requests c args resource offset len →
      readSize args' = some len → Requests c args' resource' offset len →
      methodWrite env c args mallocs resource = some (reply, next) → reply.rc = .success →
      methodRead env' next args' mallocs' resource' = some (reply', next') →
      reply'.rc = .success → reply'.output = .bytes ((List.range len.toNat).map data)) ∧
    ∀ args mallocs resource len, len.toNat = 0 ∨ 4194304 < len.toNat →
      (∀ data, writeSource args = some (len, data) →
        methodWrite env c args mallocs resource = some (fail .badArgument, c)) ∧
      (readSize args = some len →
        methodRead env c args mallocs resource = some (fail .badArgument, c)) := by
  refine ⟨?_, ?_, ?_, ?_⟩
  · intro args mallocs resource offset len data source requests
    obtain ⟨reply, next, returned, _, _, flat, goes⟩ :=
      @write_flat n env c args resource offset len reached mallocs data source requests
    exact ⟨reply, next, returned, flat, goes⟩
  · intro args mallocs resource offset len size requests
    exact read_flat reached mallocs size requests
  · intro args mallocs resource args' mallocs' resource' env' offset len data reply next reply'
      next' source requests size requests' returned success returned' success'
    obtain ⟨_, _, same, keeps, pool, flat, _⟩ :=
      @write_flat n env c args resource offset len reached mallocs data source requests
    rw [returned] at same
    cases same
    obtain ⟨_, _, same', bytes, _⟩ := @read_flat n env' next args' resource' offset len
      (reached_keeps reached keeps) mallocs' size (requests_keep keeps pool requests')
    rw [returned'] at same'
    cases same'
    -- The region has not moved, so the bytes read are those that were just written.
    have here : regionAddr next.owner offset = regionAddr c.owner offset := by
      rw [regionAddr, regionAddr, keeps.phys]
    rw [(bytes success').2, flat success, here, flatRead]
    congr 1
    apply List.map_congr_left
    intro i member
    have below := List.mem_range.mp member
    rw [blit_inside _ _ _ _ _ (by omega), Nat.add_sub_cancel_left]
  · intro args mallocs resource len wrong
    have none := @refused_length n c args len wrong resource
    exact ⟨fun data source => write_turned_away env source none mallocs,
      fun size => read_turned_away env size none mallocs⟩

/-! Two chunks at the start of a gibibyte, and a buffer that is too long. -/

def countingBuffer (length : UInt64) : IOMemoryDescriptor :=
  { length := length, prepares := true, bytes := fun i => UInt8.ofNat i, moves := fun _ => true }

def writeArgs (offset length : UInt64) : IOExternalMethodArguments :=
  { scalars [offset] 0 with structureInputDescriptor := some (countingBuffer length) }

def readArgs (offset : UInt64) (length : UInt32) : IOExternalMethodArguments :=
  { scalars [offset] 0 with structureOutput := true, structureOutputSize := length }

theorem user_io_flat_two_chunks :
    ∃ reply next, methodWrite healthy gibibyteClient (writeArgs 8 65543) true false =
        some (reply, next) ∧ reply.rc = .success ∧
      next.owner.card.vram =
        blit (fun _ => 0xff) (regionAddr gibibyteOwner 8) 65543 (fun i => UInt8.ofNat i) ∧
      ∀ reply' next', methodRead healthy next (readArgs 8 65543) true false =
        some (reply', next') → reply'.rc = .success →
        reply'.output = .bytes ((List.range 65543).map fun i => UInt8.ofNat i) := by
  have reached : Reached gibibyteClient.owner := show _ ≤ reach by decide
  obtain ⟨writes, _, again, _⟩ := user_io_flat healthy gibibyteClient reached
  have wants : Requests gibibyteClient (writeArgs 8 65543) false 8 65543 :=
    ⟨rfl, rfl, by decide, by decide, by decide, by decide⟩
  have fits : Requests gibibyteClient (readArgs 8 65543) false 8 65543 :=
    ⟨rfl, rfl, by decide, by decide, by decide, by decide⟩
  obtain ⟨reply, next, returned, flat, goes⟩ :=
    writes (writeArgs 8 65543) true false 8 65543 (fun i => UInt8.ofNat i) rfl wants
  have success : reply.rc = .success := by
    apply goes ⟨rfl, rfl, fun _ => rfl⟩
    intro _ md given
    cases given
    exact ⟨rfl, rfl, fun _ => rfl⟩
  refine ⟨reply, next, returned, success, flat success, ?_⟩
  intro reply' next' returned' success'
  exact again (writeArgs 8 65543) true false (readArgs 8 65543) true false healthy 8 65543
    (fun i => UInt8.ofNat i) reply next reply' next' rfl wants rfl fits returned success returned'
    success'

/-- The old data is no write of the counting bytes. -/
theorem not_written {len : Nat} (some : 0 < len) : gibibyteOwner.card.vram ≠
    blit gibibyteOwner.card.vram (regionAddr gibibyteOwner 8) len fun i => UInt8.ofNat i := by
  intro same
  have first := congrFun same (regionAddr gibibyteOwner 8)
  rw [blit_inside _ _ _ _ _ (by omega), Nat.sub_self] at first
  exact absurd first (by decide)

/-- A buffer longer than the limit is refused inside the region too, and one
that fits when there is no memory for a stage. -/
theorem long_write_refused :
    8 + 0x400004 ≤ gibibyteOwner.scratchSize.toNat ∧
      (∃ reply next, methodWrite healthy gibibyteClient (writeArgs 8 0x400004) true false =
          some (reply, next) ∧ reply.rc = .badArgument ∧
        next.owner.card.vram ≠ blit gibibyteOwner.card.vram (regionAddr gibibyteOwner 8) 0x400004
          fun i => UInt8.ofNat i) ∧
      ∃ reply next, methodWrite healthy gibibyteClient (writeArgs 8 65543) false false =
          some (reply, next) ∧ reply.rc = .noMemory ∧
        next.owner.card.vram ≠ blit gibibyteOwner.card.vram (regionAddr gibibyteOwner 8) 65543
          fun i => UInt8.ofNat i := by
  have long : methodWrite healthy gibibyteClient (writeArgs 8 0x400004) true false =
      some (fail .badArgument, gibibyteClient) := rfl
  have full : methodWrite healthy gibibyteClient (writeArgs 8 65543) false false =
      some (fail .noMemory, gibibyteClient) := rfl
  exact ⟨by decide, ⟨_, _, long, rfl, not_written (by omega)⟩,
    ⟨_, _, full, rfl, not_written (by omega)⟩⟩

end GspDriver.UserTransfer
