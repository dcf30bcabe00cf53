import GspDriver.Base.Elapsed
import GspDriver.QueueTermination

/-!
How long the polls of the driver last when what they wait for never comes. Each
loop counts the time it has waited in 32 bits, in steps of 10 or of 1000, and
gives up when the count has reached the timeout; a timeout so close to `2 ^ 32`
that the count wraps before is not kept. The call of an RPC gives up only
between two passes over its queue, so each of them has to end as well.
-/

namespace GspDriver.PollBounds

open Bytes LittleEndian Loop Orbit Elapsed GspRpc GspRm MsgQueue Falcon CpuSequencer
open QueueTermination

/-- The polls that a timeout pays for. -/
def budget (step timeoutUs : UInt32) : Nat := rounds step.toNat timeoutUs.toNat + 1

/-- A timeout of 0 stands for four seconds. -/
def orDefault (usec : UInt32) : UInt32 := if usec = 0 then 4000000 else usec

/-- No answer is the one that is waited for. -/
def Unready (ready : UInt32 → Bool) (answers : Stream' UInt32) : Prop :=
  ∀ n, ready (answers.get n) = false

def GivesUp (rc : Rc) : Prop := ∃ code, rc.1 = some code ∧ code ≠ nvOk

/-! Registers. -/

section Registers

variable {ready : UInt32 → Bool} {addr step timeoutUs : UInt32} {late : Int}

/-- A poll that is never answered ends in the first round whose count has
reached the timeout. -/
theorem poll_gives_up_iff (failing : late ≠ nvOk) {spins n : Nat} {waited : UInt32} {io : Mmio}
    (unready : Unready ready io.answers)
    (counted : waited.toNat = elapsed (2 ^ 32) step.toNat n) :
    GivesUp (pollUntil ready addr step timeoutUs late spins waited io) ↔
      ∃ k, n ≤ k ∧ k < n + spins ∧ timeoutUs.toNat ≤ elapsed (2 ^ 32) step.toNat k := by
  induction spins generalizing n waited io with
  | zero =>
      constructor
      · rintro ⟨code, returned, _⟩
        cases returned
      · rintro ⟨k, low, high, _⟩
        omega
  | succ spins ih =>
      have miss : ¬ ready (io.rd addr).1 = true := by
        rw [show (io.rd addr).1 = io.answers.get 0 from rfl, unready 0]
        decide
      rw [pollUntil]
      simp only [if_neg miss, ge_iff_le, UInt32.le_iff_toNat_le]
      by_cases due : timeoutUs.toNat ≤ waited.toNat
      · rw [if_pos due]
        constructor
        · intro _
          exact ⟨n, le_rfl, by omega, counted ▸ due⟩
        · intro _
          exact ⟨late, rfl, failing⟩
      · have next : (waited + step).toNat = elapsed (2 ^ 32) step.toNat (n + 1) := by
          rw [UInt32.toNat_add, counted, elapsed_succ]
        have rest : Unready ready ((io.rd addr).2.udelay step).answers := fun m => unready (m + 1)
        rw [if_neg due, ih rest next]
        constructor
        · rintro ⟨k, low, high, reached⟩
          exact ⟨k, by omega, by omega, reached⟩
        · rintro ⟨k, low, high, reached⟩
          refine ⟨k, Nat.lt_of_le_of_ne low ?_, by omega, reached⟩
          rintro rfl
          exact due (counted ▸ reached)

theorem poll_in_budget (failing : late ≠ nvOk) {io : Mmio} (unready : Unready ready io.answers)
    (positive : 0 < step.toNat) :
    GivesUp (pollUntil ready addr step timeoutUs late (budget step timeoutUs) 0 io) ↔
      rounds step.toNat timeoutUs.toNat * step.toNat < 2 ^ 32 := by
  have start : (0 : UInt32).toNat = elapsed (2 ^ 32) step.toNat 0 := by
    rw [elapsed, Nat.zero_mul]
    rfl
  have small := step.toNat_lt.le
  have below := timeoutUs.toNat_lt
  rw [poll_gives_up_iff failing unready start]
  constructor
  · rintro ⟨k, _, soon, reached⟩
    rw [budget] at soon
    exact ((reached_iff positive small below (by omega)).mp reached).2
  · intro fits
    refine ⟨rounds step.toNat timeoutUs.toNat, by omega, by rw [budget]; omega, ?_⟩
    exact (reached_iff positive small below le_rfl).mpr ⟨rfl, fits⟩

/-- The loops that count in tens. -/
theorem poll_tens (failing : late ≠ nvOk) {io : Mmio} (unready : Unready ready io.answers) :
    GivesUp (pollUntil ready addr 10 timeoutUs late (budget 10 timeoutUs) 0 io) ↔
      timeoutUs.toNat ≤ 4294967290 := by
  have ten : (10 : UInt32).toNat = 10 := rfl
  rw [poll_in_budget failing unready (by decide), rounds, ten]
  omega

end Registers

/-! The message queue. `shown` is the channel at each poll of a call whose polls
before it took everything that was queued. -/

def writePtr (c : NvGspRpcChan) : Nat := (nvGspMsgqWriteptr c.shm nvGspShmCompute).toNat

/-- The walk over the queue comes to the write pointer. -/
def Drains (c : NvGspRpcChan) : Prop :=
  Meets 63 (nextSlot c.shm) (· = writePtr c) c.msgqRptr.toNat

/-- It does not come to a message with the awaited function number before. -/
def Silent (fn : UInt32) (c : NvGspRpcChan) : Prop :=
  ∀ k, (∀ i ≤ k, (nextSlot c.shm)^[i] c.msgqRptr.toNat ≠ writePtr c) →
    slotFunction c.shm ((nextSlot c.shm)^[k] c.msgqRptr.toNat) ≠ fn

/-- The channel when its queue has been taken up to the write pointer. -/
def emptied (c : NvGspRpcChan) : NvGspRpcChan :=
  let wptr := nvGspMsgqWriteptr c.shm c.lay
  if c.msgqRptr = wptr then c
  else { c with shm := msgqSetReadptr c.shm c.lay wptr, msgqRptr := wptr }

def shown (world : Nat → Mem → Mem) (ch : NvGspRpcChan) : Nat → NvGspRpcChan
  | 0 => { ch with shm := world 0 ch.shm }
  | j + 1 =>
      let c := emptied (shown world ch j)
      { c with shm := world (j + 1) c.shm }

section Queue

variable {fn replyCap : UInt32}

theorem readptr_twice (m : Mem) (a b : UInt32) :
    msgqSetReadptr (msgqSetReadptr m nvGspShmCompute a) nvGspShmCompute b =
      msgqSetReadptr m nvGspShmCompute b := by
  funext x
  simp only [msgqSetReadptr, st32_eq_store]
  by_cases inside : nvGspShmCompute.msgqOff.toNat + nvGspMsgqRxhdroff ≤ x ∧
      x < nvGspShmCompute.msgqOff.toNat + nvGspMsgqRxhdroff + 4
  · obtain ⟨i, rfl⟩ := Nat.exists_eq_add_of_le inside.1
    rw [store_inside _ _ _ _ _ (by omega), store_inside _ _ _ _ _ (by omega)]
  · rw [store_outside _ _ _ _ _ (by omega), store_outside _ _ _ _ _ (by omega),
      store_outside _ _ _ _ _ (by omega)]

/-- One message that is not awaited is passed over. -/
theorem turn_passes {m : Mem} {ch : NvGspRpcChan} (receiving : Receiving m ch)
    (behind : ch.msgqRptr.toNat ≠ (nvGspMsgqWriteptr m nvGspShmCompute).toNat)
    (other : slotFunction m ch.msgqRptr.toNat ≠ fn) :
    recvTurn fn replyCap (nvGspMsgqWriteptr m nvGspShmCompute) ch =
      .again (consume ch (slotCount m ch.msgqRptr.toNat)) := by
  obtain ⟨lay, slot, fixed⟩ := receiving
  obtain ⟨count, function⟩ := element_read fixed ch.msgqRptr
  have more : ch.msgqRptr ≠ nvGspMsgqWriteptr m nvGspShmCompute :=
    fun same => behind (congrArg UInt32.toNat same)
  simp only [recvTurn, if_neg more, lay, count, function, if_neg other]

theorem consume_receiving {m : Mem} {ch : NvGspRpcChan} (receiving : Receiving m ch) :
    Receiving m (consume ch (slotCount m ch.msgqRptr.toNat)) ∧
      (consume ch (slotCount m ch.msgqRptr.toNat)).msgqRptr.toNat =
        nextSlot m ch.msgqRptr.toNat := by
  obtain ⟨lay, slot, fixed⟩ := receiving
  have moved : (wrapSlot ch.lay (ch.msgqRptr + slotCount m ch.msgqRptr.toNat)).toNat =
      nextSlot m ch.msgqRptr.toNat := by
    rw [lay, moved_toNat slot]
  refine ⟨⟨lay, ?_, ?_⟩, moved⟩
  · exact moved ▸ nextSlot_lt m _ slot
  · show Fixed m (msgqSetReadptr ch.shm ch.lay _)
    rw [lay]
    exact rptr_fixed fixed _

/-- A pass over `k` messages, none of them awaited, ends at the write pointer. -/
theorem scan_drains {m : Mem} {ch : NvGspRpcChan} (receiving : Receiving m ch) {fuel k : Nat}
    (enough : k < fuel)
    (hit : (nextSlot m)^[k] ch.msgqRptr.toNat = (nvGspMsgqWriteptr m nvGspShmCompute).toNat)
    (miss : ∀ i < k, (nextSlot m)^[i] ch.msgqRptr.toNat ≠
        (nvGspMsgqWriteptr m nvGspShmCompute).toNat ∧
      slotFunction m ((nextSlot m)^[i] ch.msgqRptr.toNat) ≠ fn) :
    whileFuel (recvTurn fn replyCap (nvGspMsgqWriteptr m nvGspShmCompute)) fuel ch =
      some (.drained,
        if ch.msgqRptr = nvGspMsgqWriteptr m nvGspShmCompute then ch
        else { ch with
          shm := msgqSetReadptr ch.shm nvGspShmCompute (nvGspMsgqWriteptr m nvGspShmCompute)
          msgqRptr := nvGspMsgqWriteptr m nvGspShmCompute }) := by
  induction k generalizing ch fuel with
  | zero =>
      obtain ⟨fuel, rfl⟩ := Nat.exists_eq_succ_of_ne_zero (Nat.ne_of_gt enough)
      have here : ch.msgqRptr = nvGspMsgqWriteptr m nvGspShmCompute := UInt32.toNat_inj.mp hit
      rw [whileFuel, recvTurn, if_pos here, if_pos here]
  | succ k ih =>
      obtain ⟨fuel, rfl⟩ := Nat.exists_eq_succ_of_ne_zero (Nat.ne_of_gt (Nat.zero_lt_of_lt enough))
      obtain ⟨behind, other⟩ := miss 0 (by omega)
      obtain ⟨next, moved⟩ := consume_receiving receiving
      have away : ch.msgqRptr ≠ nvGspMsgqWriteptr m nvGspShmCompute :=
        fun same => behind (congrArg UInt32.toNat same)
      rw [Function.iterate_succ_apply, ← moved] at hit
      have rest := ih next (Nat.lt_of_succ_lt_succ enough) hit (fun i below => by
        have later := miss (i + 1) (by omega)
        rw [Function.iterate_succ_apply, ← moved] at later
        exact later)
      rw [whileFuel, turn_passes receiving behind other]
      simp only
      rw [rest, if_neg away]
      -- The read pointer is published anew for each message; the last one stays.
      split
      · rename_i arrived
        simp only [consume, receiving.lay] at arrived ⊢
        rw [arrived]
      · simp only [consume, receiving.lay, readptr_twice]

theorem poll_drains {c : NvGspRpcChan} (lay : c.lay = nvGspShmCompute)
    (slot : c.msgqRptr.toNat < 63) (drains : Drains c) (silent : Silent fn c) :
    recvPoll fn replyCap c = some (.drained, emptied c) := by
  classical
  obtain ⟨bound, few, there⟩ := drains
  have exists_hit : ∃ k, (nextSlot c.shm)^[k] c.msgqRptr.toNat = writePtr c := ⟨bound, there⟩
  have first := Nat.find_spec exists_hit
  have soon := Nat.find_min' exists_hit there
  have receiving : Receiving c.shm c := ⟨lay, slot, fun _ _ => rfl⟩
  have fuel : nvGspShmCompute.msgCount.toNat + 1 = 64 := rfl
  have scanned := @scan_drains fn replyCap c.shm c receiving 64 _ (by omega) first (by
    intro i below
    have away : ∀ j ≤ i, (nextSlot c.shm)^[j] c.msgqRptr.toNat ≠ writePtr c :=
      fun j low => Nat.find_min exists_hit (by omega)
    exact ⟨away i le_rfl, silent i away⟩)
  rw [lay] at scanned
  rw [recvPoll, emptied, lay, fuel]
  exact scanned

theorem poll_stuck {c : NvGspRpcChan} (lay : c.lay = nvGspShmCompute)
    (slot : c.msgqRptr.toNat < 63) (stuck : ¬ Drains c) (silent : Silent fn c) :
    recvPoll fn replyCap c = none := by
  have receiving : Receiving c.shm c := ⟨lay, slot, fun _ _ => rfl⟩
  have never : ∀ k, (nextSlot c.shm)^[k] c.msgqRptr.toNat ≠ writePtr c := by
    rw [Drains, meets_iff (nextSlot_lt c.shm) slot] at stuck
    exact fun k hit => stuck ⟨k, hit⟩
  by_contra ended
  obtain ⟨result, returned⟩ := Option.ne_none_iff_exists'.mp ended
  rw [recvPoll, lay] at returned
  obtain ⟨k, wptr | mine⟩ := (walk_ends_iff (recv_walks fn replyCap) receiving).mp
    ⟨_, result, returned⟩
  · exact never k wptr
  · exact silent k (fun i _ => never i) mine

theorem emptied_lay (c : NvGspRpcChan) : (emptied c).lay = c.lay := by
  rw [emptied]
  split
  · rfl
  · rfl

theorem emptied_slot {c : NvGspRpcChan} (lay : c.lay = nvGspShmCompute)
    (slot : c.msgqRptr.toNat < 63) (drains : Drains c) : (emptied c).msgqRptr.toNat < 63 := by
  obtain ⟨k, _, there⟩ := drains
  have inside := iterate_lt (nextSlot_lt c.shm) slot k
  rw [there, writePtr] at inside
  rw [emptied, lay]
  split
  · exact slot
  · exact inside

end Queue

/-- An RPC that ends without a reply. -/
def RpcGivesUp (returned : Option (RpcReturn × NvGspRpcChan)) : Prop :=
  ∃ rc after, returned = some (rc, after) ∧ (rc = .errTimeout ∨ rc = .errBounds)

section Calls

variable {world : Nat → Mem → Mem} {fn replyCap timeoutUs : UInt32} {sent : NvGspRpcChan}

/-- The awaited reply never comes, whatever else the GSP does. -/
def Unanswered (world : Nat → Mem → Mem) (fn : UInt32) (sent : NvGspRpcChan) : Prop :=
  ∀ j, (∀ i < j, Drains (shown world sent i)) → Silent fn (shown world sent j)

/-- The loop of a call at poll `j`, when every poll before it drained the queue. -/
structure PollAt (world : Nat → Mem → Mem) (sent : NvGspRpcChan) (j : Nat) (w : Waiting) :
    Prop where
  number : w.poll = j
  sees : { w.ch with shm := world w.poll w.ch.shm } = shown world sent j
  counted : w.waited.toNat = elapsed (2 ^ 32) pollStep.toNat j
  lay : (shown world sent j).lay = nvGspShmCompute
  slot : (shown world sent j).msgqRptr.toNat < 63
  drained : ∀ i < j, Drains (shown world sent i)

theorem poll_next {j : Nat} {w : Waiting} (at_ : PollAt world sent j w)
    (drains : Drains (shown world sent j)) :
    PollAt world sent (j + 1) { poll := w.poll + 1, waited := w.waited + pollStep
                                ch := emptied (shown world sent j) } := by
  obtain ⟨number, _, counted, lay, slot, drained⟩ := at_
  subst number
  refine ⟨rfl, rfl, ?_, (emptied_lay _).trans lay, emptied_slot lay slot drains, ?_⟩
  · rw [UInt32.toNat_add, counted, elapsed_succ]
  · exact Nat.forall_lt_succ_right.mpr ⟨drained, drains⟩

theorem call_gives_up_iff (unanswered : Unanswered world fn sent) {fuel j : Nat} {w : Waiting}
    (at_ : PollAt world sent j w) :
    RpcGivesUp (whileFuel (callTurn world fn replyCap timeoutUs) fuel w).join ↔
      ∃ k, j ≤ k ∧ k < j + fuel ∧ timeoutUs.toNat ≤ elapsed (2 ^ 32) pollStep.toNat k ∧
        ∀ i ≤ k, Drains (shown world sent i) := by
  induction fuel generalizing j w with
  | zero =>
      constructor
      · rintro ⟨rc, after, returned, _⟩
        cases returned
      · rintro ⟨k, low, high, _⟩
        omega
  | succ fuel ih =>
      have silent := unanswered j at_.drained
      by_cases drains : Drains (shown world sent j)
      · have polled := @poll_drains fn replyCap _ at_.lay at_.slot drains silent
        by_cases due : timeoutUs.toNat ≤ w.waited.toNat
        · have stops : callTurn world fn replyCap timeoutUs w =
              .stop (some (.errTimeout, emptied (shown world sent j))) := by
            rw [callTurn, at_.sees, polled]
            exact if_pos (UInt32.le_iff_toNat_le.mpr due)
          rw [whileFuel, stops]
          constructor
          · intro _
            have every := Nat.forall_lt_succ_right.mpr ⟨at_.drained, drains⟩
            exact ⟨j, le_rfl, by omega, at_.counted ▸ due, fun i low =>
              every i (Nat.lt_succ_of_le low)⟩
          · intro _
            exact ⟨.errTimeout, _, rfl, Or.inl rfl⟩
        · have again : callTurn world fn replyCap timeoutUs w = .again
              { poll := w.poll + 1, waited := w.waited + pollStep
                ch := emptied (shown world sent j) } := by
            rw [callTurn, at_.sees, polled]
            exact if_neg fun late => due (UInt32.le_iff_toNat_le.mp late)
          rw [whileFuel, again]
          simp only
          rw [ih (poll_next at_ drains)]
          constructor
          · rintro ⟨k, low, high, reached, every⟩
            exact ⟨k, by omega, by omega, reached, every⟩
          · rintro ⟨k, low, high, reached, every⟩
            refine ⟨k, Nat.lt_of_le_of_ne low ?_, by omega, reached, every⟩
            rintro rfl
            exact due (at_.counted ▸ reached)
      · have stops : callTurn world fn replyCap timeoutUs w = .stop none := by
          rw [callTurn, at_.sees, poll_stuck at_.lay at_.slot drains silent]
        rw [whileFuel, stops]
        constructor
        · rintro ⟨rc, after, returned, _⟩
          cases returned
        · rintro ⟨k, low, _, _, every⟩
          exact absurd (every j low) drains

end Calls

theorem orDefault_fits {step : Nat} (timeoutUs : UInt32) (positive : 0 < step)
    (small : step ≤ 1000) : rounds step (orDefault timeoutUs).toNat * step < 2 ^ 32 ↔
      rounds step timeoutUs.toNat * step < 2 ^ 32 := by
  by_cases zero : timeoutUs = 0
  · have most : ∀ limit ≤ 4000000, rounds step limit * step < 2 ^ 32 := by
      intro limit low
      have whole := Nat.div_mul_le_self (limit + step - 1) step
      rw [rounds]
      omega
    have four : (orDefault timeoutUs).toNat = 4000000 := by
      rw [orDefault, if_pos zero]
      rfl
    have none : timeoutUs.toNat = 0 := congrArg UInt32.toNat zero
    rw [four, none]
    have low := most 0 (by omega)
    have high := most 4000000 (by omega)
    exact iff_of_true high low
  · rw [orDefault, if_neg zero]

theorem thousands_iff (limit : Nat) : rounds 1000 limit * 1000 < 2 ^ 32 ↔ limit ≤ 4294967000 := by
  rw [rounds]
  omega

theorem call_in_budget {world : Nat → Mem → Mem} {ch : NvGspRpcChan} {fn : UInt32} {req : Payload}
    {reqLen replyCap timeoutUs : UInt32} (lay : ch.lay = nvGspShmCompute)
    (slot : ch.msgqRptr.toNat < 63) (unanswered : Unanswered world fn (rpcSend ch fn req reqLen)) :
    RpcGivesUp (nvGspRpcCall (budget pollStep (orDefault timeoutUs)) world ch fn req reqLen replyCap
        timeoutUs) ↔
      timeoutUs.toNat ≤ 4294967000 ∧ ∀ j < budget pollStep (orDefault timeoutUs),
        Drains (shown world (rpcSend ch fn req reqLen) j) := by
  have thousand : pollStep.toNat = 1000 := rfl
  have below := (orDefault timeoutUs).toNat_lt
  have fits := @orDefault_fits 1000 timeoutUs (by omega) le_rfl
  have sentLay : (rpcSend ch fn req reqLen).lay = nvGspShmCompute := lay
  have sentSlot : (rpcSend ch fn req reqLen).msgqRptr.toNat < 63 := slot
  show RpcGivesUp (whileFuel (callTurn world fn replyCap (orDefault timeoutUs)) _
    { poll := 0, waited := 0, ch := rpcSend ch fn req reqLen }).join ↔ _
  generalize rpcSend ch fn req reqLen = sent at unanswered sentLay sentSlot ⊢
  have start : PollAt world sent 0 { poll := 0, waited := 0, ch := sent } := by
    refine ⟨rfl, rfl, ?_, sentLay, sentSlot, fun i none => absurd none (Nat.not_lt_zero i)⟩
    rw [elapsed, Nat.zero_mul]
    rfl
  rw [call_gives_up_iff unanswered start, ← thousands_iff, ← fits, budget, thousand]
  constructor
  · rintro ⟨k, _, soon, reached, every⟩
    obtain ⟨last, within⟩ :=
      (reached_iff (by omega) (by omega) below (by omega)).mp reached
    exact ⟨within, fun j low => every j (by omega)⟩
  · rintro ⟨within, every⟩
    refine ⟨rounds 1000 (orDefault timeoutUs).toNat, by omega, by omega, ?_, fun i low =>
      every i (by omega)⟩
    exact (reached_iff (by omega) (by omega) below le_rfl).mpr ⟨rfl, within⟩

/-- A poll of what never comes ends with an error in the rounds that its timeout
pays for exactly when its 32-bit count does not wrap before, and an RPC besides
only if each pass over the queue comes to the write pointer. -/
theorem polls_bounded_iff (io : Falcon.Mmio) (timeoutUs : UInt32) :
    (∀ addr mask val, Unready (fun v => v &&& mask = val) io.answers →
      (GivesUp (seqPoll (budget 10 (orDefault timeoutUs)) io addr mask val timeoutUs) ↔
        timeoutUs.toNat ≤ 4294967290)) ∧
    (∀ base, Unready (fun v => v &&& hwcfg2MemScrubbing = 0) io.answers →
      (GivesUp (nvFalconWaitMemScrubbing (budget 10 timeoutUs) io base timeoutUs) ↔
        timeoutUs.toNat ≤ 4294967290)) ∧
    (∀ base, Unready (fun v => v &&& cpuctlHalted ≠ 0) io.answers →
      (GivesUp (nvFalconWaitHalted (budget 10 timeoutUs) io base timeoutUs) ↔
        timeoutUs.toNat ≤ 4294967290)) ∧
    (∀ falcon2Base, io.answers.head &&& 0x10 ≠ 0 →
      Unready (fun v => v &&& 1 ≠ 0) io.answers.tail →
      (GivesUp (nvFalconSelectCoreGa102 (budget 10 timeoutUs) io falcon2Base timeoutUs) ↔
        timeoutUs.toNat ≤ 4294967290)) ∧
    (Unready (fun v => v &&& 0xff = nvGfwBootProgressCompleted) io.answers →
      (GivesUp (nvWaitGfwBootCompleted (budget 1000 timeoutUs) io timeoutUs) ↔
        timeoutUs.toNat ≤ 4294967000)) ∧
    ∀ world ch fn req reqLen replyCap, ch.lay = nvGspShmCompute →
      ch.msgqRptr.toNat < 63 → Unanswered world fn (rpcSend ch fn req reqLen) →
      (RpcGivesUp (nvGspRpcCall (budget pollStep (orDefault timeoutUs)) world ch fn req reqLen
          replyCap timeoutUs) ↔
        timeoutUs.toNat ≤ 4294967000 ∧ ∀ j < budget pollStep (orDefault timeoutUs),
          Drains (shown world (rpcSend ch fn req reqLen) j)) := by
  have timeout : nvErrTimeout ≠ nvOk := by decide
  refine ⟨?_, ?_, ?_, ?_, ?_, ?_⟩
  · intro addr mask val unready
    have fits := @orDefault_fits 10 timeoutUs (by omega) (by omega)
    have polled := @poll_in_budget _ addr 10 (orDefault timeoutUs) (-1) (by decide) io unready
      (by decide)
    have ten : (10 : UInt32).toNat = 10 := rfl
    rw [ten, fits, rounds] at polled
    exact polled.trans (by omega)
  · intro base unready
    exact poll_tens timeout unready
  · intro base unready
    exact poll_tens timeout unready
  · intro falcon2Base riscv unready
    rw [nvFalconSelectCoreGa102]
    exact (if_pos riscv) ▸ poll_tens timeout unready
  · intro unready
    have thousand : (1000 : UInt32).toNat = 1000 := rfl
    rw [nvWaitGfwBootCompleted, poll_in_budget timeout unready (by decide), thousand]
    exact thousands_iff timeoutUs.toNat
  · intro world ch fn req reqLen replyCap lay slot unanswered
    exact call_in_budget lay slot unanswered

/-- A card whose registers read 0, and a channel whose queue stays empty. -/
def idleCard : Falcon.Mmio := ⟨Stream'.const 0, []⟩

def quietChan : NvGspRpcChan :=
  { shm := fun _ => 0, lay := nvGspShmCompute, cmdqWptr := 0, seq := 0, msgqRptr := 0 }

theorem idle_unready {ready : UInt32 → Bool} (no : ready 0 = false) :
    Unready ready idleCard.answers := fun _ => no

/-- A queue that is empty and left alone stays so. -/
theorem shown_still {sent : NvGspRpcChan}
    (empty : sent.msgqRptr = nvGspMsgqWriteptr sent.shm sent.lay) (j : Nat) :
    shown (fun _ shm => shm) sent j = sent := by
  induction j with
  | zero => rfl
  | succ j ih => rw [shown, ih, emptied, if_pos empty]

/-- A halt that never comes, and a reply that never comes. -/
theorem polls_bounded_iff_idle :
    GivesUp (nvFalconWaitHalted (budget 10 2000000) idleCard 0x110000 2000000) ∧
      RpcGivesUp (nvGspRpcCall (budget pollStep (orDefault 3000)) (fun _ shm => shm) quietChan 76
        none 0 16 3000) := by
  constructor
  · obtain ⟨_, _, halted, _⟩ := polls_bounded_iff idleCard 2000000
    exact (halted 0x110000 (idle_unready (by decide))).mpr (by decide)
  · have empty : (rpcSend quietChan 76 none 0).msgqRptr.toNat =
        writePtr (rpcSend quietChan 76 none 0) := by decide +kernel
    have still := @shown_still (rpcSend quietChan 76 none 0) (UInt32.toNat_inj.mp empty)
    obtain ⟨_, _, _, _, _, called⟩ := polls_bounded_iff idleCard 3000
    refine (called (fun _ shm => shm) quietChan 76 none 0 16 rfl (by decide) ?_).mpr
      ⟨by decide, ?_⟩
    · intro j _ k behind
      rw [still j] at behind
      exact absurd empty (behind 0 (Nat.zero_le k))
    · intro j _
      rw [still j]
      exact ⟨0, by decide, empty⟩

/-- The count goes up in tens from 0, so it is even, before and after it wraps:
it never reaches the largest timeout. -/
theorem full_timeout_never_ends : Unready (fun v => v &&& 1 = 1) idleCard.answers ∧
    ¬ ∃ spins, GivesUp (seqPoll spins idleCard 0 1 1 0xffffffff) := by
  have unready : Unready (fun v => v &&& 1 = 1) idleCard.answers := idle_unready (by decide)
  refine ⟨unready, ?_⟩
  rintro ⟨spins, gives⟩
  obtain ⟨k, _, _, reached⟩ := (@poll_gives_up_iff _ 0 10 0xffffffff (-1) (by decide) spins 0 0 _
    unready rfl).mp gives
  have before := @never_reached (2 ^ 32) 10 4294967295 2 k (by decide) (by decide) (by decide)
    (by decide)
  exact absurd reached (Nat.not_le.mpr before)

end GspDriver.PollBounds
