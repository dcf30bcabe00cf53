import GspDriver.MsgQueue

/-!
Which bytes of shared memory `nv_gsp_rpc_call` copies into the caller's reply.
The length of the copy comes from the message's length field and the caller's
capacity alone, the element it lies in from the count field. The two are not
compared, so the copy stays in the element exactly where they happen to agree.
-/

namespace GspDriver.ReplyCopy

open Bytes LittleEndian Loop GspRpc GspRm MsgQueue

/-! The message at the read pointer, as the receiver reads it. -/

def elementAt (ch : NvGspRpcChan) : Nat := entryAddr ch.lay.msgqOff.toNat ch.msgqRptr

def elementSlots (ch : NvGspRpcChan) : UInt32 :=
  let mec := ld32 ch.shm (elementAt ch + nvGspMsgElemcountOff)
  if mec = 0 ∨ mec > ch.lay.msgCount then 1 else mec

def elementFunction (ch : NvGspRpcChan) : UInt32 :=
  ld32 ch.shm (elementAt ch + nvGspRpcHdrOff + nvGspRpcFFunction)

def elementResult (ch : NvGspRpcChan) : UInt32 := ld32 ch.shm (elementAt ch + nvGspRpcHdrOff + 16)

def elementLength (ch : NvGspRpcChan) : UInt32 :=
  ld32 ch.shm (elementAt ch + nvGspRpcHdrOff + nvGspRpcFLength)

/-- The payload length that the message claims. -/
def claimedLen (ch : NvGspRpcChan) : UInt32 :=
  if elementLength ch ≥ nvGspRpcHdrSize then elementLength ch - nvGspRpcHdrSize else 0

def copyLen (replyCap : UInt32) (ch : NvGspRpcChan) : UInt32 :=
  if claimedLen ch < replyCap then claimedLen ch else replyCap

/-- The addresses that are copied from, in order. -/
def copied (replyCap : UInt32) (ch : NvGspRpcChan) : List Nat :=
  (List.range (copyLen replyCap ch).toNat).map fun i => elementAt ch + nvGspRpcPayloadOff + i

/-- The message is the reply, and the guard at the end of the ring lets it pass. -/
def Accepts (fn wptr : UInt32) (ch : NvGspRpcChan) : Prop :=
  ch.msgqRptr ≠ wptr ∧ elementFunction ch = fn ∧
    ¬ ch.msgqRptr + elementSlots ch > ch.lay.msgCount

instance (fn wptr : UInt32) (ch : NvGspRpcChan) : Decidable (Accepts fn wptr ch) :=
  inferInstanceAs (Decidable (_ ∧ _ ∧ _))

theorem recvTurn_eq (fn replyCap wptr : UInt32) (ch : NvGspRpcChan) :
    recvTurn fn replyCap wptr ch =
      if ch.msgqRptr = wptr then .stop (.drained, ch)
      else if elementFunction ch = fn then
        if ch.msgqRptr + elementSlots ch > ch.lay.msgCount then .stop (.bounds, ch)
        else .stop (.ok ((copied replyCap ch).map ch.shm) (claimedLen ch) (elementResult ch),
          consume ch (elementSlots ch))
      else .again (consume ch (elementSlots ch)) := by
  simp only [copied, List.map_map]
  rfl

/-! The channels whose reply a call copies, in order. -/

def turnLog (fn wptr : UInt32) (ch : NvGspRpcChan) : List NvGspRpcChan :=
  if Accepts fn wptr ch then [ch] else []

def pollLog (fn replyCap : UInt32) (ch : NvGspRpcChan) : List NvGspRpcChan :=
  let wptr := nvGspMsgqWriteptr ch.shm ch.lay
  whileLog (recvTurn fn replyCap wptr) (turnLog fn wptr) (ch.lay.msgCount.toNat + 1) ch

def callLog (polls : Nat) (world : Nat → Mem → Mem) (ch : NvGspRpcChan) (fn : UInt32)
    (req : Payload) (reqLen replyCap timeoutUs : UInt32) : List NvGspRpcChan :=
  let timeoutUs := if timeoutUs = 0 then 4000000 else timeoutUs
  whileLog (callTurn world fn replyCap timeoutUs)
    (fun w => pollLog fn replyCap { w.ch with shm := world w.poll w.ch.shm }) polls
    { poll := 0, waited := 0, ch := rpcSend ch fn req reqLen }

/-- The driver's layout, and a read pointer that is a slot. -/
structure Reading (ch : NvGspRpcChan) : Prop where
  lay : ch.lay = nvGspShmCompute
  slot : ch.msgqRptr.toNat < 63

theorem shown_reading {ch : NvGspRpcChan} (reading : Reading ch) (shm : Mem) :
    Reading { ch with shm := shm } := ⟨reading.lay, reading.slot⟩

theorem consume_reading {ch : NvGspRpcChan} (reading : Reading ch) (mec : UInt32) :
    Reading (consume ch mec) := by
  refine ⟨reading.lay, ?_⟩
  simp only [consume]
  rw [reading.lay, wrapSlot_toNat]
  exact Nat.mod_lt _ (by omega)

section Turns

variable {fn replyCap wptr : UInt32}

theorem turn_reading (ch next : NvGspRpcChan) (reading : Reading ch)
    (again : recvTurn fn replyCap wptr ch = .again next) : Reading next := by
  rw [recvTurn_eq] at again
  split at again
  · cases again
  split at again
  · split at again <;> cases again
  · cases again
    exact consume_reading reading _

theorem turn_quiet (ch next : NvGspRpcChan) (again : recvTurn fn replyCap wptr ch = .again next) :
    turnLog fn wptr ch = [] := by
  rw [recvTurn_eq] at again
  split at again
  · cases again
  split at again
  · split at again <;> cases again
  · rename_i other
    exact if_neg fun accepts => other accepts.2.1

/-- A turn that copies a reply copies the one that its channel shows. -/
theorem turn_copies {ch after : NvGspRpcChan} {reply : List UInt8} {plen mres : UInt32}
    (stopped : recvTurn fn replyCap wptr ch = .stop (.ok reply plen mres, after)) :
    turnLog fn wptr ch = [ch] ∧ reply = (copied replyCap ch).map ch.shm ∧ plen = claimedLen ch ∧
      after = consume ch (elementSlots ch) := by
  rw [recvTurn_eq] at stopped
  split at stopped
  · cases stopped
  rename_i ready
  split at stopped
  · rename_i same
    split at stopped
    · cases stopped
    rename_i inside
    cases stopped
    exact ⟨if_pos ⟨ready, same, inside⟩, rfl, rfl, rfl⟩
  · cases stopped

theorem turn_ends {ch after : NvGspRpcChan} {poll : Poll}
    (reading : Reading ch) (stopped : recvTurn fn replyCap wptr ch = .stop (poll, after)) :
    Reading after := by
  rw [recvTurn_eq] at stopped
  split at stopped
  · cases stopped
    exact reading
  split at stopped
  · split at stopped
    · cases stopped
      exact reading
    · cases stopped
      exact consume_reading reading _
  · cases stopped

/-- Only a reply is logged. -/
theorem drained_quiet {ch after : NvGspRpcChan}
    (stopped : recvTurn fn replyCap wptr ch = .stop (.drained, after)) :
    turnLog fn wptr ch = [] := by
  rw [recvTurn_eq] at stopped
  split at stopped
  · rename_i empty
    exact if_neg fun accepts => accepts.1 empty
  split at stopped
  · split at stopped <;> cases stopped
  · cases stopped

end Turns

/-! One poll, and the polls of a call. -/

section Polls

variable {fn replyCap : UInt32}

theorem poll_copies {ch after : NvGspRpcChan} {reply : List UInt8} {plen mres : UInt32}
    (returned : recvPoll fn replyCap ch = some (.ok reply plen mres, after)) :
    ∃ c, pollLog fn replyCap ch = [c] ∧ reply = (copied replyCap c).map c.shm ∧
      plen = claimedLen c := by
  obtain ⟨last, _, stopped, logged⟩ := while_last _ (fun _ => True) (fun _ _ _ _ => trivial)
    (turnLog fn (nvGspMsgqWriteptr ch.shm ch.lay)) turn_quiet _ ch trivial _ returned
  obtain ⟨here, copies, length, _⟩ := turn_copies stopped
  exact ⟨last, logged.trans here, copies, length⟩

theorem poll_quiet {ch after : NvGspRpcChan}
    (returned : recvPoll fn replyCap ch = some (.drained, after)) : pollLog fn replyCap ch = [] := by
  obtain ⟨last, _, stopped, logged⟩ := while_last _ (fun _ => True) (fun _ _ _ _ => trivial)
    (turnLog fn (nvGspMsgqWriteptr ch.shm ch.lay)) turn_quiet _ ch trivial _ returned
  exact logged.trans (drained_quiet stopped)

theorem poll_reading {ch after : NvGspRpcChan} {poll : Poll} (reading : Reading ch)
    (returned : recvPoll fn replyCap ch = some (poll, after)) : Reading after := by
  obtain ⟨last, there, stopped, _⟩ := while_last _ Reading turn_reading
    (turnLog fn (nvGspMsgqWriteptr ch.shm ch.lay)) turn_quiet _ ch reading _ returned
  exact turn_ends there stopped

variable {world : Nat → Mem → Mem} {timeoutUs : UInt32}

/-- A poll that is followed by another one has drained the queue. -/
theorem call_again {w next : Waiting}
    (again : callTurn world fn replyCap timeoutUs w = .again next) :
    recvPoll fn replyCap { w.ch with shm := world w.poll w.ch.shm } = some (.drained, next.ch) := by
  rw [callTurn] at again
  split at again
  · cases again
  · cases again
  · cases again
  · rename_i after drained
    split at again
    · cases again
    · cases again
      exact drained

theorem call_stops {w : Waiting} {reply : List UInt8} {plen mres : UInt32} {after : NvGspRpcChan}
    (stopped : callTurn world fn replyCap timeoutUs w =
      .stop (some (.ok reply plen mres, after))) :
    recvPoll fn replyCap { w.ch with shm := world w.poll w.ch.shm } =
      some (.ok reply plen mres, after) := by
  rw [callTurn] at stopped
  split at stopped
  · cases stopped
  · rename_i taken
    cases stopped
    exact taken
  · cases stopped
  · split at stopped <;> cases stopped

theorem call_reading (w next : Waiting) (reading : Reading w.ch)
    (again : callTurn world fn replyCap timeoutUs w = .again next) : Reading next.ch := by
  have drained := call_again again
  exact poll_reading (shown_reading reading _) drained

end Polls

/-- The channel that a call leaves. -/
theorem rpc_reading {polls : Nat} {world : Nat → Mem → Mem} {ch after : NvGspRpcChan} {fn : UInt32}
    {req : Payload} {reqLen replyCap timeoutUs : UInt32} {outcome : RpcReturn}
    (reading : Reading ch)
    (returned : nvGspRpcCall polls world ch fn req reqLen replyCap timeoutUs =
      some (outcome, after)) : Reading after := by
  rw [nvGspRpcCall, Option.join_eq_some_iff] at returned
  generalize (if timeoutUs = 0 then 4000000 else timeoutUs) = timeout at returned
  have sent : Reading (rpcSend ch fn req reqLen) := ⟨reading.lay, reading.slot⟩
  obtain ⟨last, there, stopped, _⟩ := while_last _ (fun w : Waiting => Reading w.ch) call_reading
    (fun _ => ([] : List Unit)) (fun _ _ _ => rfl) polls _ sent _ returned
  have shown := shown_reading there (world last.poll last.ch.shm)
  rw [callTurn] at stopped
  split at stopped
  · cases stopped
  · rename_i taken
    cases stopped
    exact poll_reading shown taken
  · rename_i taken
    cases stopped
    exact poll_reading shown taken
  · rename_i taken
    split at stopped
    · cases stopped
      exact poll_reading shown taken
    · cases stopped

/-- What a call hands back was copied from the one reply that it logs. -/
theorem call_copies {polls : Nat} {world : Nat → Mem → Mem} {ch after : NvGspRpcChan} {fn : UInt32}
    {req : Payload} {reqLen replyCap timeoutUs plen mres : UInt32} {reply : List UInt8}
    (returned : nvGspRpcCall polls world ch fn req reqLen replyCap timeoutUs =
      some (.ok reply plen mres, after)) :
    ∃ c, callLog polls world ch fn req reqLen replyCap timeoutUs = [c] ∧
      reply = (copied replyCap c).map c.shm ∧ plen = claimedLen c := by
  rw [nvGspRpcCall, Option.join_eq_some_iff] at returned
  simp only [callLog]
  generalize (if timeoutUs = 0 then 4000000 else timeoutUs) = timeout at returned ⊢
  generalize rpcSend ch fn req reqLen = channel at returned ⊢
  -- Every poll before the last one drained the queue and logged nothing.
  obtain ⟨last, _, stopped, logged⟩ := while_last (callTurn world fn replyCap timeout)
    (fun _ => True) (fun _ _ _ _ => trivial)
    (fun w => pollLog fn replyCap { w.ch with shm := world w.poll w.ch.shm })
    (fun w next again => poll_quiet (call_again again)) polls
    { poll := 0, waited := 0, ch := channel } trivial _ returned
  obtain ⟨c, one, copies, length⟩ := poll_copies (call_stops stopped)
  exact ⟨c, logged.trans one, copies, length⟩

/-! Where the copied bytes lie. -/

/-- A message that is consumed takes slots of the ring. -/
structure Consumable (c : NvGspRpcChan) : Prop where
  reading : Reading c
  some_slots : 1 ≤ (elementSlots c).toNat
  within : c.msgqRptr.toNat + (elementSlots c).toNat ≤ 63

theorem slots_bounds {c : NvGspRpcChan} (lay : c.lay = nvGspShmCompute) :
    1 ≤ (elementSlots c).toNat ∧ (elementSlots c).toNat ≤ 63 := by
  have limit : (63 : UInt32).toNat = 63 := rfl
  simp only [elementSlots, lay, layout_count]
  split
  · decide
  · rename_i sane
    simp only [not_or, gt_iff_lt, UInt32.not_lt, UInt32.le_iff_toNat_le] at sane
    have some : (ld32 c.shm (elementAt c + nvGspMsgElemcountOff)).toNat ≠ 0 :=
      fun zero => sane.1 (UInt32.toNat_inj.mp zero)
    omega

theorem accepts_consumable {fn wptr : UInt32} {c : NvGspRpcChan} (reading : Reading c)
    (accepts : Accepts fn wptr c) : Consumable c := by
  have count := slots_bounds reading.lay
  have slot := reading.slot
  have guarded := accepts.2.2
  rw [reading.lay, layout_count, gt_iff_lt, UInt32.not_lt, UInt32.le_iff_toNat_le,
    UInt32.toNat_add] at guarded
  have limit : (63 : UInt32).toNat = 63 := rfl
  exact ⟨reading, count.1, by omega⟩

theorem turn_consumable {fn wptr : UInt32} (ch : NvGspRpcChan) (reading : Reading ch) :
    ∀ c ∈ turnLog fn wptr ch, Consumable c := by
  intro c member
  rw [turnLog] at member
  split at member
  · rename_i accepts
    obtain rfl := List.mem_singleton.mp member
    exact accepts_consumable reading accepts
  · cases member

theorem poll_consumable {fn replyCap : UInt32} {ch : NvGspRpcChan} (reading : Reading ch) :
    ∀ c ∈ pollLog fn replyCap ch, Consumable c :=
  while_logs _ _ Reading Consumable turn_reading turn_consumable _ ch reading

theorem log_consumable (polls : Nat) (world : Nat → Mem → Mem) {ch : NvGspRpcChan} (fn : UInt32)
    (req : Payload) (reqLen replyCap timeoutUs : UInt32) (reading : Reading ch) :
    ∀ c ∈ callLog polls world ch fn req reqLen replyCap timeoutUs, Consumable c := by
  have sent : Reading (rpcSend ch fn req reqLen) := ⟨reading.lay, reading.slot⟩
  simp only [callLog]
  generalize rpcSend ch fn req reqLen = channel at sent ⊢
  apply while_logs _ _ (fun w : Waiting => Reading w.ch) Consumable call_reading _ _ _ sent
  intro w there
  exact poll_consumable (shown_reading there _)

/-- Only bytes of the element's slots are copied, and so only bytes of the queue. -/
def StaysInside (replyCap : UInt32) (c : NvGspRpcChan) : Prop :=
  ∀ a ∈ copied replyCap c,
    (elementAt c ≤ a ∧ a < elementAt c + 0x1000 * (elementSlots c).toNat) ∧
      msgqBase ≤ a ∧ a < msgqBase + nvGspQueueSize.toNat

/-- The message ends in its slots, or the caller's buffer is no larger than
what they hold of a payload. -/
def Fits (replyCap : UInt32) (c : NvGspRpcChan) : Prop :=
  48 + (elementLength c).toNat ≤ 0x1000 * (elementSlots c).toNat ∨
    80 + replyCap.toNat ≤ 0x1000 * (elementSlots c).toNat

instance (replyCap : UInt32) (c : NvGspRpcChan) : Decidable (Fits replyCap c) :=
  inferInstanceAs (Decidable (_ ∨ _))

theorem claimedLen_toNat (c : NvGspRpcChan) :
    (claimedLen c).toNat = (elementLength c).toNat - 32 := by
  have header : nvGspRpcHdrSize.toNat = 32 := rfl
  rw [claimedLen]
  split
  · rename_i long
    rw [UInt32.toNat_sub_of_le _ _ long, header]
  · rename_i short
    rw [ge_iff_le, UInt32.not_le, UInt32.lt_iff_toNat_lt, header] at short
    rw [UInt32.toNat_zero]
    omega

theorem copyLen_toNat (replyCap : UInt32) (c : NvGspRpcChan) :
    (copyLen replyCap c).toNat = min ((elementLength c).toNat - 32) replyCap.toNat := by
  rw [copyLen, Words.lesser_toNat, claimedLen_toNat]

/-- A reply is as long as the message says, up to the caller's capacity. -/
theorem reply_length {polls : Nat} {world : Nat → Mem → Mem} {ch after : NvGspRpcChan}
    {fn : UInt32} {req : Payload} {reqLen replyCap timeoutUs plen mres : UInt32}
    {reply : List UInt8}
    (returned : nvGspRpcCall polls world ch fn req reqLen replyCap timeoutUs =
      some (.ok reply plen mres, after)) : reply.length = min plen.toNat replyCap.toNat := by
  obtain ⟨c, _, copies, length⟩ := call_copies returned
  rw [copies, length, List.length_map, copied, List.length_map, List.length_range, copyLen_toNat,
    claimedLen_toNat]

theorem stays_iff {replyCap : UInt32} {c : NvGspRpcChan} (consumable : Consumable c) :
    StaysInside replyCap c ↔ Fits replyCap c := by
  have length := copyLen_toNat replyCap c
  have within := consumable.within
  have some := consumable.some_slots
  have start : elementAt c = 0x42000 + 0x1000 * c.msgqRptr.toNat := by
    rw [elementAt, consumable.reading.lay, entry_place]
  have region : msgqBase = 0x41000 ∧ nvGspQueueSize.toNat = 0x40000 := ⟨rfl, rfl⟩
  constructor
  · intro stays
    by_cases empty : (copyLen replyCap c).toNat = 0
    · rw [Fits]
      omega
    · -- the last byte of the copy decides
      have last := stays (elementAt c + 80 + ((copyLen replyCap c).toNat - 1))
        (List.mem_map_of_mem (List.mem_range.mpr (by omega)))
      rw [Fits]
      omega
  · intro fits a member
    obtain ⟨i, below, rfl⟩ := List.mem_map.mp member
    have below := List.mem_range.mp below
    simp only [Fits] at fits
    simp only [nvGspRpcPayloadOff]
    omega

/-- A call copies its reply from one message, and whatever it copies stays in
that message's slots exactly when the message or the caller's buffer fits in them. -/
theorem copies_stay_iff (polls : Nat) (world : Nat → Mem → Mem) (ch : NvGspRpcChan) (fn : UInt32)
    (req : Payload) (reqLen replyCap timeoutUs : UInt32) (reading : Reading ch) :
    (∀ reply plen mres after, nvGspRpcCall polls world ch fn req reqLen replyCap timeoutUs =
        some (.ok reply plen mres, after) →
      ∃ c, callLog polls world ch fn req reqLen replyCap timeoutUs = [c] ∧
        reply = (copied replyCap c).map c.shm) ∧
    ((∀ c ∈ callLog polls world ch fn req reqLen replyCap timeoutUs, StaysInside replyCap c) ↔
      ∀ c ∈ callLog polls world ch fn req reqLen replyCap timeoutUs, Fits replyCap c) := by
  constructor
  · intro reply plen mres after returned
    obtain ⟨c, one, copies, _⟩ := call_copies returned
    exact ⟨c, one, copies⟩
  · have consumable := log_consumable polls world fn req reqLen replyCap timeoutUs reading
    exact forall₂_congr fun c member => stays_iff (consumable c member)

/-- A buffer of 4016 bytes or less is never filled from behind a message. -/
theorem small_stays {replyCap : UInt32} {c : NvGspRpcChan} (consumable : Consumable c)
    (small : replyCap.toNat ≤ 4016) : StaysInside replyCap c := by
  have some := consumable.some_slots
  exact (stays_iff consumable).mpr (Or.inr (by omega))

def idleChan : NvGspRpcChan :=
  { shm := fun _ => 0, lay := nvGspShmCompute, cmdqWptr := 0, seq := 0, msgqRptr := 0 }

/-- A message of one slot at the front of the queue whose length field is 0x1000. -/
def longReply : Mem := fun a =>
  if a = 0x41010 then 1 else if a = 0x42000 + 40 then 1 else if a = 0x42000 + 57 then 0x10
  else if a = 0x42000 + 60 then 76 else 0

/-- The long reply is consumed, and its copy into 16 bytes stays inside. -/
theorem copies_stay_iff_long_reply : ∃ c,
    callLog 1 (fun _ _ => longReply) idleChan 76 none 0 16 1000 = [c] ∧ StaysInside 16 c := by
  refine ⟨{ rpcSend idleChan 76 none 0 with shm := longReply }, by rfl, ?_⟩
  refine (copies_stay_iff 1 (fun _ _ => longReply) idleChan 76 none 0 16 1000
    ⟨rfl, by decide⟩).2.mpr ?_ _ (List.mem_singleton.mpr rfl)
  intro c member
  obtain rfl := List.mem_singleton.mp member
  decide

/-- With room for a page the copy runs into the slot behind the message. -/
theorem long_reply_escapes : ∃ c,
    callLog 1 (fun _ _ => longReply) idleChan 76 none 0 0x1000 1000 = [c] ∧
      ¬ StaysInside 0x1000 c := by
  refine ⟨{ rpcSend idleChan 76 none 0 with shm := longReply }, by rfl, ?_⟩
  rw [stays_iff ⟨⟨rfl, by decide⟩, by decide, by decide⟩]
  decide

end GspDriver.ReplyCopy
