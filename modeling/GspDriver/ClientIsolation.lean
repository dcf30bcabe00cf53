import GspDriver.ZeroOnAlloc

/-!
What a connected client can reach. A run is any list of calls with arbitrary
selectors and arguments. Once the pool holds an allocation the client is
managed, the dispatcher turns the legacy selectors away, and every operation of
a method that takes handles stays inside the allocations that they name. The
pool is laid out over the owner's data region, so an offset in the one is an
offset in the other.
-/

namespace GspDriver.ClientIsolation

open Loop Words Vram VramPool MilcorixFB MilcorixFB.Owner MilcorixUserClient ZeroOnAlloc

variable {n : Nat}

/-- PRAMIN moves whole words, so the last one may reach past the length. -/
def words (len : Nat) : Nat := (len + 3) / 4 * 4

/-- `len` bytes at `offset` lie in the live allocation of `handle`, and that in
the data region. -/
def Granted (c : Client n) (handle offset : UInt64) (len : Nat) : Prop :=
  ∃ a, liveAt c.fPool handle = some a ∧ a.offset.toNat ≤ offset.toNat ∧
    offset.toNat + len ≤ limit a ∧ limit a ≤ c.owner.scratchSize.toNat

/-- The operation stays inside the allocations whose handles the call passed. -/
def Owns (c : Client n) (args : IOExternalMethodArguments) : HwOp → Prop
  | .write offset len => Granted c (args.scalarInput 0) offset (words len.toNat)
  | .read offset len => Granted c (args.scalarInput 0) offset (words len.toNat)
  | .copy src dst bytes =>
      Granted c (args.scalarInput 0) src bytes.toNat ∧
        Granted c (args.scalarInput 2) dst bytes.toNat

def UsesHandles (selector : UInt32) : Prop :=
  selector = kMilcorixMethodWriteBuffer ∨ selector = kMilcorixMethodReadBuffer ∨
    selector = kMilcorixMethodCopyBuffer

def Legacy (selector : UInt32) : Prop :=
  selector = kMilcorixMethodWrite ∨ selector = kMilcorixMethodRead ∨
    selector = kMilcorixMethodCopy

structure ClientInv (c : Client n) : Prop where
  backed : Backed c
  managed : ∀ handle a, liveAt c.fPool handle = some a → c.fManaged = true

/-- A method that touches the hardware only through `good` operations. -/
structure Serves (good : HwOp → Prop) (c next : Client n) : Prop where
  issues : Issues good c.owner next.owner
  pool : next.fPool = c.fPool
  managed : next.fManaged = c.fManaged

theorem serves_refl (good : HwOp → Prop) (c : Client n) : Serves good c c :=
  ⟨issues_refl good c.owner, rfl, rfl⟩

/-! The offset of a transfer. -/

theorem resolve_granted {c : Client n} (backed : Backed c) {handle offset bytes : UInt64}
    (resolved : (nvVramResolve c.fPool handle offset bytes).1 = 0) :
    ∃ a, liveAt c.fPool handle = some a ∧ 4 ∣ limit a ∧
      limit a ≤ c.owner.scratchSize.toNat ∧
      a.offset.toNat ≤ (nvVramResolve c.fPool handle offset bytes).2.1.toNat ∧
      (nvVramResolve c.fPool handle offset bytes).2.1.toNat + bytes.toNat ≤ limit a := by
  obtain ⟨inv, phys, size⟩ := backed
  cases whole : nvVramResolve c.fPool handle offset bytes with
  | mk rc addresses =>
      obtain ⟨at_, va⟩ := addresses
      rw [whole] at resolved
      cases resolved
      obtain ⟨i, live, named, _, fits, exact_, _⟩ := resolve_inside inv whole
      have inside := inv.inside i live
      obtain ⟨_, sizePage, offsetPage⟩ := inv.sized i live
      rw [phys, UInt64.toNat_zero] at exact_
      refine ⟨c.fPool.allocations i, ?_, ?_, by rw [← size]; exact inside, ?_, ?_⟩
      · rw [← named]
        exact liveAt_slot inv live
      · rw [limit]
        omega
      · simp only
        omega
      · simp only [limit]
        omega

theorem transferOffset_granted {c : Client n} (backed : Backed c)
    {args : IOExternalMethodArguments} {totalBytes offset : UInt64}
    (found : transferOffset c args true totalBytes = some offset) :
    4 ∣ offset.toNat ∧ Granted c (args.scalarInput 0) offset (words totalBytes.toNat) := by
  simp only [transferOffset, true_and, ↓reduceIte] at found
  split at found
  · cases found
  split at found
  · cases found
  split at found
  · cases found
  rename_i resolved
  split at found
  · cases found
  rename_i aligned
  cases found
  rw [ne_eq, not_not] at resolved aligned
  have mask : (3 : UInt64).toNat = 2 ^ 2 - 1 := by decide
  have whole : 4 ∣ _ := dvd_of_and_mask mask aligned
  obtain ⟨a, live, wide, inside, above, below⟩ := resolve_granted backed resolved
  refine ⟨whole, a, live, above, ?_, inside⟩
  rw [words]
  omega

/-! The descriptor loops. Every chunk but the last is a whole stage. -/

def Progress (total done : UInt64) : Prop :=
  done.toNat ≤ total.toNat ∧ (done = total ∨ 65536 ∣ done.toNat)

theorem chunkAt_spec {total done : UInt64} (short : done < total) :
    (chunkAt total done).toNat = min 65536 (total.toNat - done.toNat) := by
  have stage : milcorixStageChunk.toNat = 65536 := by decide
  rw [UInt64.lt_iff_toNat_lt] at short
  have left : (total - done).toNat = total.toNat - done.toNat := sub_toNat (by omega)
  rw [chunkAt]
  split
  · rename_i more
    rw [gt_iff_lt, UInt64.lt_iff_toNat_lt, stage, left] at more
    rw [UInt64.toNat_toUInt32, stage]
    omega
  · rename_i less
    rw [gt_iff_lt, UInt64.not_lt, UInt64.le_iff_toNat_le, stage, left] at less
    rw [UInt64.toNat_toUInt32, left]
    omega

theorem progress_next {total done : UInt64} (progress : Progress total done)
    (short : done < total) :
    Progress total (done + (chunkAt total done).toUInt64) ∧
      total.toNat - (done + (chunkAt total done).toUInt64).toNat < total.toNat - done.toNat := by
  have size := chunkAt_spec short
  have bound := total.toNat_lt
  obtain ⟨below, shape⟩ := progress
  rw [UInt64.lt_iff_toNat_lt] at short
  have sum : (done + (chunkAt total done).toUInt64).toNat =
      done.toNat + (chunkAt total done).toNat := by
    rw [add_toNat (by rw [UInt32.toNat_toUInt64]; omega), UInt32.toNat_toUInt64]
  rw [Progress, ← UInt64.toNat_inj, sum, size]
  rw [← UInt64.toNat_inj] at shape
  omega

section Transfer

variable (env : Outside) {good : HwOp → Prop} {o : Owner} {md : IOMemoryDescriptor}
  {offset : UInt64}

structure Under (good : HwOp → Prop) (o : Owner) (total : UInt64) (t : Transfer) : Prop where
  issues : Issues good o t.owner
  progress : Progress total t.done

/-- Every chunk of the transfer is a `good` operation. -/
def Chunks (good : HwOp → Prop) (op : UInt64 → UInt32 → HwOp) (offset total : UInt64) : Prop :=
  ∀ done, done < total → Progress total done → good (op (offset + done) (chunkAt total done))

theorem write_turn (chunks : Chunks good .write offset md.length) {t : Transfer}
    (under : Under good o md.length t) :
    Establishes (Under good o md.length) (fun t => md.length.toNat - t.done.toNat)
      (fun ended => Issues good o ended.2.owner) t (writeTurn env md offset t) := by
  obtain ⟨issues, progress⟩ := under
  rw [writeTurn]
  by_cases short : t.done < md.length
  · rw [if_pos short]
    have next := issues_next issues (gpuWrite_performs env t.owner (offset + t.done)
      (fun i => md.bytes (t.done.toNat + i)) (chunkAt md.length t.done))
      (chunks t.done short progress)
    simp only
    split
    · exact issues
    · split
      · exact next
      · obtain ⟨on, less⟩ := progress_next progress short
        exact ⟨⟨next, on⟩, less⟩
  · rw [if_neg short]
    exact issues

theorem read_turn (chunks : Chunks good .read offset md.length) {t : Transfer}
    (under : Under good o md.length t) :
    Establishes (Under good o md.length) (fun t => md.length.toNat - t.done.toNat)
      (fun ended => Issues good o ended.2.owner) t (readTurn env md offset t) := by
  obtain ⟨issues, progress⟩ := under
  rw [readTurn]
  by_cases short : t.done < md.length
  · rw [if_pos short]
    have next := issues_next issues (gpuRead_performs env t.owner (offset + t.done)
      (chunkAt md.length t.done)) (chunks t.done short progress)
    simp only
    split
    · exact next
    · split
      · exact next
      · obtain ⟨on, less⟩ := progress_next progress short
        exact ⟨⟨next, on⟩, less⟩
  · rw [if_neg short]
    exact issues

/-- A transfer whose turns issue only `good` operations returns and issues only
such. -/
theorem transfer_serves {turn : Transfer → Turn Transfer (IOReturn × Transfer)} {c : Client n}
    (mallocs : Bool) (output : List UInt8 → Output)
    (turns : ∀ t, Under good c.owner md.length t →
      Establishes (Under good c.owner md.length) (fun t => md.length.toNat - t.done.toNat)
        (fun ended => Issues good c.owner ended.2.owner) t (turn t)) :
    ∃ reply next, transfer turn c md mallocs output = some (reply, next) ∧
      Serves good c next := by
  rw [transfer]
  split
  · exact ⟨_, _, rfl, serves_refl good c⟩
  split
  · exact ⟨_, _, rfl, serves_refl good c⟩
  split
  · exact ⟨_, _, rfl, serves_refl good c⟩
  · have start : Under good c.owner md.length ⟨0, c.owner, []⟩ :=
      ⟨issues_refl good c.owner, Nat.zero_le _, Or.inr (Nat.dvd_zero _)⟩
    obtain ⟨ended, returned, issues⟩ := while_returns turn (Under good c.owner md.length)
      (fun t => md.length.toNat - t.done.toNat) (fun ended => Issues good c.owner ended.2.owner)
      turns (md.length.toNat + 1) _ start (by
        simp only [UInt64.toNat_zero]
        omega)
    rw [returned]
    exact ⟨_, _, rfl, issues, rfl, rfl⟩

end Transfer

/-! The methods. -/

theorem serves_one {good : HwOp → Prop} {c : Client n} {op : HwOp} {owner : Owner}
    (performs : Performs c.owner op owner) (fine : good op) :
    Serves good c { c with owner := owner } :=
  ⟨issues_next (issues_refl good c.owner) performs fine, rfl, rfl⟩

theorem chunk_granted {c : Client n} {handle offset total done : UInt64}
    (granted : Granted c handle offset (words total.toNat)) (short : done < total)
    (progress : Progress total done) :
    Granted c handle (offset + done) (words (chunkAt total done).toNat) := by
  obtain ⟨a, live, above, below, inside⟩ := granted
  have size := chunkAt_spec short
  have bound := c.owner.scratchSize.toNat_lt
  obtain ⟨_, shape⟩ := progress
  rw [UInt64.lt_iff_toNat_lt] at short
  rw [← UInt64.toNat_inj] at shape
  rw [words] at below
  have place : (offset + done).toNat = offset.toNat + done.toNat := add_toNat (by omega)
  refine ⟨a, live, ?_, ?_, inside⟩
  · rw [place]
    omega
  · rw [place, words, size]
    omega

section Methods

variable (env : Outside) {c : Client n} (backed : Backed c) (args : IOExternalMethodArguments)
  (mallocs resource : Bool)
include backed

theorem write_serves :
    ∃ reply next, methodWrite env c args mallocs resource = some (reply, next) ∧
      Serves (fun op => resource = true → Owns c args op) c next := by
  unfold methodWrite
  -- Small data comes in the call, larger data in memory that is mapped chunk by chunk.
  cases args.structureInput with
  | some data =>
      simp only
      cases found : transferOffset c args resource args.structureInputSize.toUInt64 with
      | none => exact ⟨_, _, rfl, serves_refl _ c⟩
      | some offset =>
          simp only
          split
          · exact ⟨_, _, rfl, serves_refl _ c⟩
          · refine ⟨_, _, rfl, serves_one (gpuWrite_performs env c.owner offset data _) ?_⟩
            rintro rfl
            have granted := (transferOffset_granted backed found).2
            rwa [UInt32.toNat_toUInt64] at granted
  | none =>
      cases args.structureInputDescriptor with
      | none =>
          simp only
          split <;> exact ⟨_, _, rfl, serves_refl _ c⟩
      | some md =>
          simp only
          cases found : transferOffset c args resource md.length with
          | none => exact ⟨_, _, rfl, serves_refl _ c⟩
          | some offset =>
              refine transfer_serves mallocs _ fun t under => write_turn env ?_ under
              intro done short progress
              rintro rfl
              exact chunk_granted (transferOffset_granted backed found).2 short progress

theorem read_serves :
    ∃ reply next, methodRead env c args mallocs resource = some (reply, next) ∧
      Serves (fun op => resource = true → Owns c args op) c next := by
  unfold methodRead
  cases args.structureOutput with
  | true =>
      simp only
      cases found : transferOffset c args resource args.structureOutputSize.toUInt64 with
      | none => exact ⟨_, _, rfl, serves_refl _ c⟩
      | some offset =>
          simp only
          split
          · exact ⟨_, _, rfl, serves_refl _ c⟩
          · refine ⟨_, _, rfl, serves_one (gpuRead_performs env c.owner offset _) ?_⟩
            rintro rfl
            have granted := (transferOffset_granted backed found).2
            rwa [UInt32.toNat_toUInt64] at granted
  | false =>
      cases args.structureOutputDescriptor with
      | none =>
          simp only
          split <;> exact ⟨_, _, rfl, serves_refl _ c⟩
      | some md =>
          simp only
          cases found : transferOffset c args resource md.length with
          | none => exact ⟨_, _, rfl, serves_refl _ c⟩
          | some offset =>
              refine transfer_serves mallocs _ fun t under => read_turn env ?_ under
              intro done short progress
              rintro rfl
              exact chunk_granted (transferOffset_granted backed found).2 short progress

theorem copy_serves :
    Serves (fun op => resource = true → Owns c args op) c (methodCopy env c args resource).2 := by
  cases resource with
  | false =>
      simp only [methodCopy, Bool.false_eq_true, ↓reduceIte, false_and]
      split
      · exact serves_refl _ c
      split
      · exact serves_refl _ c
      · exact serves_one (gpuCopy_performs env c.owner _ _ _) nofun
  | true =>
      simp only [methodCopy, ↓reduceIte, true_and]
      split
      · exact serves_refl _ c
      split
      · exact serves_refl _ c
      rename_i sized
      split
      · exact serves_refl _ c
      rename_i resolved
      have most : milcorixMaxXfer.toNat = 0x400000 := by decide
      simp only [not_or, not_not, ne_eq, gt_iff_lt, UInt64.not_lt, UInt64.le_iff_toNat_le,
        most] at sized resolved
      -- The length was checked in 64 bits and is passed on in 32.
      have narrow : (args.scalarInput 4).toUInt32.toNat = (args.scalarInput 4).toNat := by
        rw [UInt64.toNat_toUInt32]
        omega
      obtain ⟨src, srcLive, _, srcInside, srcAbove, srcBelow⟩ := resolve_granted backed resolved.1
      obtain ⟨dst, dstLive, _, dstInside, dstAbove, dstBelow⟩ := resolve_granted backed resolved.2
      rw [← narrow] at srcBelow dstBelow
      exact serves_one (gpuCopy_performs env c.owner _ _ _) fun _ =>
        ⟨⟨src, srcLive, srcAbove, srcBelow, srcInside⟩, dst, dstLive, dstAbove, dstBelow, dstInside⟩

end Methods

/-! One call. -/

structure Isolated (c next : Client n) (call : ExternalCall) : Prop where
  inv : ClientInv next
  stays : c.fManaged = true → next.fManaged = true
  owned : ∃ ops, next.owner.issued = ops ++ c.owner.issued ∧
    (UsesHandles call.selector → ∀ op ∈ ops, Owns c call.args op)

section Call

variable {c : Client n} (inv : ClientInv c) {call : ExternalCall}
include inv

theorem idle_isolated : Isolated c c call :=
  ⟨inv, id, [], rfl, fun _ _ member => absurd member List.not_mem_nil⟩

theorem serves_isolated {next : Client n} {resource : Bool}
    (serves : Serves (fun op => resource = true → Owns c call.args op) c next)
    (handles : UsesHandles call.selector → resource = true) : Isolated c next call := by
  obtain ⟨⟨keeps, ops, listed, fine⟩, pool, managed⟩ := serves
  refine ⟨⟨⟨?_, ?_, ?_⟩, ?_⟩, ?_, ops, listed, fun uses op member => fine op member (handles uses)⟩
  · rw [pool]
    exact inv.backed.inv
  · rw [pool]
    exact inv.backed.phys
  · rw [pool, keeps.size]
    exact inv.backed.size
  · rw [pool, managed]
    exact inv.managed
  · rw [managed]
    exact id

theorem alloc_isolated {next : Client n} {bytes : UInt64} {reply : Reply}
    (spec : AllocSpec c bytes reply next) (plain : ¬ UsesHandles call.selector) :
    Isolated c next call := by
  have size := inv.backed.size
  have phys := inv.backed.phys
  cases spec with
  | refused rc out bad => exact idle_isolated inv
  | released rc owner pool bad keeps issued same live =>
      obtain ⟨ops, listed, _⟩ := issued
      refine ⟨⟨⟨same.inv, same.phys.trans phys, ?_⟩, ?_⟩, id, ops, listed,
        fun uses => absurd uses plain⟩
      · change pool.size = owner.scratchSize
        rw [same.size, keeps.size, size]
      · change ∀ handle a, liveAt pool handle = some a → c.fManaged = true
        rw [live]
        exact inv.managed
  | granted owner pool a rounded keeps same unused live issued zero =>
      obtain ⟨ops, listed, _⟩ := issued
      refine ⟨⟨⟨same.inv, same.phys.trans phys, ?_⟩, fun _ _ _ => rfl⟩, fun _ => rfl, ops, listed,
        fun uses => absurd uses plain⟩
      change pool.size = owner.scratchSize
      rw [same.size, keeps.size, size]

theorem free_isolated : Isolated c (methodFree c call.args).2 call := by
  rw [methodFree]
  split
  · exact idle_isolated inv
  rcases free_spec (p := c.fPool) (call.args.scalarInput 0) with ⟨missing, _⟩ |
    ⟨i, live, named, freed⟩
  · simp only [missing]
    exact idle_isolated inv
  · simp only [freed]
    refine ⟨⟨⟨evict_inv inv.backed.inv, inv.backed.phys, inv.backed.size⟩, ?_⟩, id, [], rfl,
      fun _ _ member => absurd member List.not_mem_nil⟩
    intro handle a found
    have released : liveAt (evict c.fPool i) =
        Function.update (liveAt c.fPool) (c.fPool.allocations i).handle none :=
      congrArg Lease.Table.live (evict_lease inv.backed.inv live)
    change liveAt (evict c.fPool i) handle = some a at found
    rw [released] at found
    by_cases same : handle = (c.fPool.allocations i).handle
    · rw [same, Function.update_self] at found
      cases found
    · rw [Function.update_of_ne same] at found
      exact inv.managed handle a found

omit inv in
theorem plain_selector {selector : UInt32} {k : Nat} (named : selector.toNat = k) (low : k < 7) :
    ¬ UsesHandles selector := by
  rintro (rfl | rfl | rfl)
  · exact absurd (named ▸ low : kMilcorixMethodWriteBuffer.toNat < 7) (by decide)
  · exact absurd (named ▸ low : kMilcorixMethodReadBuffer.toNat < 7) (by decide)
  · exact absurd (named ▸ low : kMilcorixMethodCopyBuffer.toNat < 7) (by decide)

theorem dispatch_isolated (env : Outside) :
    ∃ reply next, dispatch env c call = some (reply, next) ∧ Isolated c next call := by
  have backed := inv.backed
  have served : ∀ (resource : Bool) (outcome : Option (Reply × Client n)),
      (UsesHandles call.selector → resource = true) →
      (∃ reply next, outcome = some (reply, next) ∧
        Serves (fun op => resource = true → Owns c call.args op) c next) →
      ∃ reply next, outcome = some (reply, next) ∧ Isolated c next call := by
    rintro resource outcome handles ⟨reply, next, returned, serves⟩
    exact ⟨reply, next, returned, serves_isolated inv serves handles⟩
  unfold dispatch
  split
  · exact ⟨_, _, rfl, idle_isolated inv⟩
  · rename_i named
    exact served false _ (fun uses => absurd uses (plain_selector named (by decide)))
      (write_serves env backed call.args call.mallocs false)
  · rename_i named
    exact served false _ (fun uses => absurd uses (plain_selector named (by decide)))
      (read_serves env backed call.args call.mallocs false)
  · rename_i named
    exact served false _ (fun uses => absurd uses (plain_selector named (by decide)))
      ⟨_, _, rfl, copy_serves env backed call.args false⟩
  · exact ⟨_, _, rfl, idle_isolated inv⟩
  · rename_i named
    obtain ⟨reply, next, returned, spec⟩ := alloc_outcome env c backed call.args call.mallocs
    exact ⟨reply, next, returned, alloc_isolated inv spec (plain_selector named (by decide))⟩
  · exact ⟨_, _, rfl, free_isolated inv⟩
  · exact served true _ (fun _ => rfl) (write_serves env backed call.args call.mallocs true)
  · exact served true _ (fun _ => rfl) (read_serves env backed call.args call.mallocs true)
  · exact served true _ (fun _ => rfl) ⟨_, _, rfl, copy_serves env backed call.args true⟩
  · exact ⟨_, _, rfl, idle_isolated inv⟩

/-- Every call returns; in managed mode a legacy one leaves the hardware alone. -/
theorem call_isolated (env : Outside) :
    ∃ reply next, externalMethod env c call = some (reply, next) ∧ Isolated c next call ∧
      (c.fManaged = true → Legacy call.selector →
        next.owner.issued = c.owner.issued ∧ next.owner.card = c.owner.card) := by
  have later : ClientInv { c with owner := c.owner.tick env } :=
    ⟨⟨inv.backed.inv, inv.backed.phys, inv.backed.size⟩, inv.managed⟩
  have waited : Isolated c { c with owner := c.owner.tick env } call :=
    ⟨later, id, [], rfl, fun _ _ member => absurd member List.not_mem_nil⟩
  unfold externalMethod
  split
  · exact ⟨_, _, rfl, idle_isolated inv, fun _ _ => ⟨rfl, rfl⟩⟩
  split
  · exact ⟨_, _, rfl, idle_isolated inv, fun _ _ => ⟨rfl, rfl⟩⟩
  simp only
  split
  · exact ⟨_, _, rfl, waited, fun _ _ => ⟨rfl, rfl⟩⟩
  split
  · exact ⟨_, _, rfl, waited, fun _ _ => ⟨rfl, rfl⟩⟩
  · rename_i gate
    obtain ⟨reply, next, returned, isolated⟩ := @dispatch_isolated _ _ later call env
    obtain ⟨ops, listed, owned⟩ := isolated.owned
    refine ⟨reply, next, returned, ⟨isolated.inv, isolated.stays, ops, listed, owned⟩, ?_⟩
    intro managed legacy
    -- The gate has stopped a legacy call before this point.
    refine absurd ⟨managed, ?_⟩ gate
    rcases legacy with write | read | copy
    · rw [write]
      decide
    · rw [read]
      decide
    · rw [copy]
      decide

end Call

/-! Runs. -/

def runCalls (env : Outside) (c : Client n) : List ExternalCall → Option (Client n)
  | [] => some c
  | call :: rest =>
      match externalMethod env c call with
      | none => none
      | some (_, next) => runCalls env next rest

theorem run_inv (env : Outside) {c : Client n} (inv : ClientInv c) (calls : List ExternalCall) :
    ∃ t, runCalls env c calls = some t ∧ ClientInv t := by
  induction calls generalizing c with
  | nil => exact ⟨c, rfl, inv⟩
  | cons call rest ih =>
      obtain ⟨reply, next, returned, isolated, _⟩ := @call_isolated _ _ inv call env
      obtain ⟨t, ended, final⟩ := ih isolated.inv
      refine ⟨t, ?_, final⟩
      simp only [runCalls, returned, ended]

theorem start_inv {owner : Owner} {c : Client n} (started : start owner = some c) :
    ClientInv c := by
  unfold start at started
  split at started
  · cases started
  rename_i opened open_
  split at started
  · cases started
  rename_i rc pool initialised
  cases started
  have shape : rc = 0 ∧ ⟨0, opened.scratchVA, opened.scratchSize, 0, 1, fun _ => .zero⟩ = pool := by
    unfold nvVramPoolInit at initialised
    split at initialised
    · cases initialised
    · exact ⟨(congrArg Prod.fst initialised).symm, Option.some.inj (congrArg Prod.snd initialised)⟩
  obtain ⟨rfl, rfl⟩ := shape
  refine ⟨⟨(VramRuns.init_inv _ _ _ _ initialised).pool, rfl, rfl⟩, ?_⟩
  intro handle a found
  obtain ⟨i, live, _⟩ := liveAt_some found
  exact absurd rfl live

/-- Isolation in every state that a started client reaches, and for every next
call there. -/
theorem client_isolated (env : Outside) (owner : Owner) (c : Client n)
    (started : start owner = some c) (calls : List ExternalCall) :
    ∃ t, runCalls env c calls = some t ∧
      (∀ handle a, liveAt t.fPool handle = some a → t.fManaged = true) ∧
      ∀ call, ∃ reply next ops, externalMethod env t call = some (reply, next) ∧
        next.owner.issued = ops ++ t.owner.issued ∧
        (t.fManaged = true → next.fManaged = true) ∧
        (t.fManaged = true → Legacy call.selector →
          ops = [] ∧ next.owner.card = t.owner.card) ∧
        (UsesHandles call.selector → ∀ op ∈ ops, Owns t call.args op) := by
  obtain ⟨t, ended, inv⟩ := run_inv env (start_inv started) calls
  refine ⟨t, ended, inv.managed, fun call => ?_⟩
  obtain ⟨reply, next, returned, isolated, away⟩ := @call_isolated _ _ inv call env
  obtain ⟨ops, listed, owned⟩ := isolated.owned
  refine ⟨reply, next, ops, returned, listed, isolated.stays, fun managed legacy => ?_, owned⟩
  obtain ⟨same, card⟩ := away managed legacy
  rw [same] at listed
  exact ⟨List.self_eq_append_left.mp listed, card⟩

def freeOwner : Owner := { gibibyteOwner with fGpuClients := 0 }

def ordinaryCall (selector : UInt32) (args : IOExternalMethodArguments) : ExternalCall :=
  { selector, args, inactive := false, inactiveLocked := false, mallocs := true
    superReturn := .unsupported }

theorem client_isolated_buffers :
    ∃ t, runCalls healthy gibibyteClient
        [ordinaryCall 5 (scalars [0x3000, 0x1000] 2),
          ordinaryCall 9 (scalars [1, 0, 1, 0x2000, 0x1000] 1)] = some t ∧
      ∀ handle a, liveAt t.fPool handle = some a → t.fManaged = true := by
  have started : start freeOwner = some gibibyteClient := by
    rw [start, gpuClientOpen, if_pos ⟨rfl, rfl, rfl⟩]
    simp only [nvVramPoolInit]
    rw [if_neg (by decide)]
    rfl
  obtain ⟨t, ended, managed, _⟩ := client_isolated healthy freeOwner gibibyteClient started _
  exact ⟨t, ended, managed⟩

end GspDriver.ClientIsolation
