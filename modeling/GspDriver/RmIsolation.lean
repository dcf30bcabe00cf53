import GspDriver.RmCalls
import GspDriver.ReplyCopy

/-!
What a caller of `nv_gsp_rm_alloc` or `nv_gsp_rm_control` can observe depends on
the channel's pointers and on the message queue that its polls find, not on the
contents of the static buffers and of the rest of shared memory. Every byte that
is sent was written by the call, and every byte that is handed back lies in the
part of the reply buffer that the call's own RPC filled: the header because a
shorter reply is an error, the params because both lengths bound the copy.
-/

namespace GspDriver.RmIsolation

open Bytes LittleEndian Loop GspRpc GspRm MsgQueue ReplyCopy RmCalls

/-- A channel apart from the shared memory, where earlier requests still lie. -/
structure Pointers where
  lay : NvGspShmLayout
  cmdqWptr : UInt32
  seq : UInt32
  msgqRptr : UInt32
  deriving DecidableEq

def pointers (ch : NvGspRpcChan) : Pointers :=
  { lay := ch.lay
    cmdqWptr := ch.cmdqWptr
    seq := ch.seq
    msgqRptr := ch.msgqRptr }

/-- What a call shows to its caller, to the GSP and to the calls after it. -/
structure Observation where
  rc : Except RmError Unit
  status : Option UInt32
  params : Payload
  sent : Option (List UInt8)
  pointers : Pointers

def observation (returned : RmReturn) : Observation :=
  { rc := returned.rc
    status := returned.status
    params := returned.params
    sent := returned.sent
    pointers := pointers returned.ch }

/-! The message queue, as the receiver reads it. -/

/-- The write pointer that the GSP publishes, and the slots of the ring. -/
def InMessages (x : Nat) : Prop :=
  msgqBase + 0x10 ≤ x ∧ x < msgqBase + 0x14 ∨
    msgqBase + 0x1000 ≤ x ∧ x < msgqBase + nvGspQueueSize.toNat

def SameMessages (one two : Mem) : Prop := ∀ x, InMessages x → one x = two x

structure Alike (one two : NvGspRpcChan) : Prop where
  reading : Reading one
  pointers : pointers one = pointers two
  messages : SameMessages one.shm two.shm

section Receive

variable {one two : NvGspRpcChan} (alike : Alike one two)
include alike

theorem Alike.lay : one.lay = two.lay := congrArg Pointers.lay alike.pointers

theorem Alike.msgqRptr : one.msgqRptr = two.msgqRptr := congrArg Pointers.msgqRptr alike.pointers

theorem Alike.element : elementAt one = elementAt two := by
  rw [elementAt, elementAt, alike.lay, alike.msgqRptr]

theorem Alike.place : elementAt one = 0x42000 + 0x1000 * one.msgqRptr.toNat := by
  rw [elementAt, alike.reading.lay, entry_place]

theorem Alike.wptr : nvGspMsgqWriteptr one.shm one.lay = nvGspMsgqWriteptr two.shm two.lay := by
  have base : msgqBase = 0x41000 := rfl
  rw [nvGspMsgqWriteptr, nvGspMsgqWriteptr, ← alike.lay, alike.reading.lay, layout_msgq]
  apply ld32_congr
  intro i below
  exact alike.messages _ (.inl (by simp only [nvMsgqTxWriteptrOff]; omega))

/-- The headers of a message lie in its first slot. -/
theorem Alike.header {o : Nat} (inside : o + 4 ≤ 0x1000) :
    ld32 one.shm (elementAt one + o) = ld32 two.shm (elementAt two + o) := by
  have place := alike.place
  have slot := alike.reading.slot
  have region : msgqBase = 0x41000 ∧ nvGspQueueSize.toNat = 0x40000 := ⟨rfl, rfl⟩
  rw [← alike.element]
  apply ld32_congr
  intro i below
  exact alike.messages _ (.inr (by omega))

theorem Alike.slots : elementSlots one = elementSlots two := by
  simp only [elementSlots, alike.header (show nvGspMsgElemcountOff + 4 ≤ 0x1000 by decide),
    alike.lay]

theorem Alike.function : elementFunction one = elementFunction two := by
  simp only [elementFunction, Nat.add_assoc]
  exact alike.header (by decide)

theorem Alike.result : elementResult one = elementResult two := by
  simp only [elementResult, Nat.add_assoc]
  exact alike.header (by decide)

theorem Alike.claimed : claimedLen one = claimedLen two := by
  have length : elementLength one = elementLength two := by
    simp only [elementLength, Nat.add_assoc]
    exact alike.header (by decide)
  rw [claimedLen, claimedLen, length]

theorem Alike.reply {fn wptr replyCap : UInt32} (accepts : Accepts fn wptr one)
    (small : replyCap.toNat ≤ 4016) :
    (copied replyCap one).map one.shm = (copied replyCap two).map two.shm := by
  have addresses : copied replyCap one = copied replyCap two := by
    simp only [copied, copyLen, alike.claimed, alike.element]
  have inside := small_stays (accepts_consumable alike.reading accepts) small
  have start : msgqBase + 0x1000 ≤ elementAt one := by
    rw [alike.place]
    exact Nat.le_add_right _ _
  rw [← addresses]
  apply List.map_congr_left
  intro x member
  obtain ⟨⟨above, _⟩, _, below⟩ := inside x member
  exact alike.messages x (.inr ⟨Nat.le_trans start above, below⟩)

/-- The read pointer is published where no message lies. -/
theorem Alike.consume (mec : UInt32) : Alike (consume one mec) (consume two mec) := by
  have region : msgqBase = 0x41000 ∧ nvGspQueueSize.toNat = 0x40000 := ⟨rfl, rfl⟩
  refine ⟨consume_reading alike.reading mec, ?_, ?_⟩
  · have same := alike.pointers
    simp only [RmIsolation.pointers, Pointers.mk.injEq] at same
    obtain ⟨lay, wptr, seq, rptr⟩ := same
    simp only [RmIsolation.pointers, GspRm.consume, lay, wptr, seq, rptr]
  · intro x inside
    simp only [GspRm.consume, msgqSetReadptr, ← alike.lay, alike.reading.lay, layout_msgq,
      nvGspMsgqRxhdroff]
    unfold InMessages at inside
    rw [st32_outside _ _ _ _ (by omega), st32_outside _ _ _ _ (by omega)]
    exact alike.messages x inside

end Receive

/-- Two outcomes that nothing but shared memory tells apart. -/
structure Together {Outcome : Type} (one two : Outcome × NvGspRpcChan) : Prop where
  outcome : one.1 = two.1
  reading : Reading one.2
  pointers : pointers one.2 = pointers two.2

section Polls

variable {fn replyCap : UInt32} (small : replyCap.toNat ≤ 4016)
include small

theorem turn_along (wptr : UInt32) (one two : NvGspRpcChan) (alike : Alike one two) :
    Along Alike Together (recvTurn fn replyCap wptr one) (recvTurn fn replyCap wptr two) := by
  rw [recvTurn_eq, recvTurn_eq, ← alike.function, ← alike.slots, ← alike.msgqRptr, ← alike.lay]
  by_cases empty : one.msgqRptr = wptr
  · rw [if_pos empty, if_pos empty]
    exact .stop ⟨rfl, alike.reading, alike.pointers⟩
  rw [if_neg empty, if_neg empty]
  by_cases answers : elementFunction one = fn
  · rw [if_pos answers, if_pos answers]
    by_cases wraps : one.msgqRptr + elementSlots one > one.lay.msgCount
    · rw [if_pos wraps, if_pos wraps]
      exact .stop ⟨rfl, alike.reading, alike.pointers⟩
    · rw [if_neg wraps, if_neg wraps, alike.reply ⟨empty, answers, wraps⟩ small, alike.claimed,
        alike.result]
      have after := alike.consume (elementSlots one)
      exact .stop ⟨rfl, after.reading, after.pointers⟩
  · rw [if_neg answers, if_neg answers]
    exact .again (alike.consume _)

theorem poll_along {one two : NvGspRpcChan} (alike : Alike one two) :
    Option.Rel Together (recvPoll fn replyCap one) (recvPoll fn replyCap two) := by
  rw [recvPoll, recvPoll, ← alike.wptr, ← alike.lay]
  exact while_along _ _ (fun _ => ()) (fun _ => ()) (fun _ _ => True) Alike Together
    (fun one two alike _ => turn_along small _ one two alike) _ one two alike fun _ _ => trivial

/-- What two calls that wait have in common; each finds its own shared memory. -/
structure WaitTogether (w v : Waiting) : Prop where
  poll : w.poll = v.poll
  waited : w.waited = v.waited
  reading : Reading w.ch
  pointers : pointers w.ch = pointers v.ch

theorem call_along {world other : Nat → Mem → Mem} (timeoutUs : UInt32) (w v : Waiting)
    (waiting : WaitTogether w v)
    (found : SameMessages (world w.poll w.ch.shm) (other v.poll v.ch.shm)) :
    Along WaitTogether (Option.Rel Together) (callTurn world fn replyCap timeoutUs w)
      (callTurn other fn replyCap timeoutUs v) := by
  have alike : Alike { w.ch with shm := world w.poll w.ch.shm }
      { v.ch with shm := other v.poll v.ch.shm } :=
    ⟨shown_reading waiting.reading _, waiting.pointers, found⟩
  have polled := @poll_along fn _ small _ _ alike
  rw [callTurn, callTurn]
  generalize recvPoll fn replyCap { w.ch with shm := world w.poll w.ch.shm } = first at polled
  generalize recvPoll fn replyCap { v.ch with shm := other v.poll v.ch.shm } = second at polled
  cases polled with
  | none => exact .stop .none
  | @some first second together =>
    obtain ⟨poll, one⟩ := first
    obtain ⟨other, two⟩ := second
    obtain ⟨rfl, reading, same⟩ := together
    cases poll with
    | ok reply replyLen rpcResult => exact .stop (.some ⟨rfl, reading, same⟩)
    | bounds => exact .stop (.some ⟨rfl, reading, same⟩)
    | drained =>
      simp only [← waiting.waited]
      split
      · exact .stop (.some ⟨rfl, reading, same⟩)
      · exact .again ⟨congrArg (· + 1) waiting.poll, rfl, reading, same⟩

end Polls

/-- The shared memories that the polls of an RPC find, in order. -/
def rpcFound (polls : Nat) (world : Nat → Mem → Mem) (ch : NvGspRpcChan) (fn : UInt32)
    (req : Payload) (reqLen replyCap timeoutUs : UInt32) : List Mem :=
  let timeoutUs := if timeoutUs = 0 then 4000000 else timeoutUs
  whileLog (callTurn world fn replyCap timeoutUs) (fun w => [world w.poll w.ch.shm]) polls
    { poll := 0, waited := 0, ch := rpcSend ch fn req reqLen }

/-- Poll for poll the same messages. -/
def FoundAlike (one two : List Mem) : Prop := ∀ pair ∈ one.zip two, SameMessages pair.1 pair.2

theorem send_pointers {one two : NvGspRpcChan} (same : pointers one = pointers two) (fn : UInt32)
    (req : Payload) (reqLen : UInt32) :
    pointers (rpcSend one fn req reqLen) = pointers (rpcSend two fn req reqLen) := by
  simp only [pointers, Pointers.mk.injEq] at same
  obtain ⟨lay, wptr, seq, rptr⟩ := same
  simp only [pointers, rpcSend, nvGspCmdqWrite, lay, wptr, seq, rptr]

theorem rpc_along {polls : Nat} {world other : Nat → Mem → Mem} {one two : NvGspRpcChan}
    (fn : UInt32) (req : Payload) (reqLen timeoutUs : UInt32) {replyCap : UInt32}
    (small : replyCap.toNat ≤ 4016) (reading : Reading one)
    (same : pointers one = pointers two)
    (found : FoundAlike (rpcFound polls world one fn req reqLen replyCap timeoutUs)
      (rpcFound polls other two fn req reqLen replyCap timeoutUs)) :
    Option.Rel Together (nvGspRpcCall polls world one fn req reqLen replyCap timeoutUs)
      (nvGspRpcCall polls other two fn req reqLen replyCap timeoutUs) := by
  have waiting : WaitTogether ⟨0, 0, rpcSend one fn req reqLen⟩ ⟨0, 0, rpcSend two fn req reqLen⟩ :=
    ⟨rfl, rfl, ⟨reading.lay, reading.slot⟩, send_pointers same fn req reqLen⟩
  have ended := while_along _ _ (fun w : Waiting => world w.poll w.ch.shm)
    (fun v : Waiting => other v.poll v.ch.shm) SameMessages WaitTogether (Option.Rel Together)
    (@call_along fn _ small _ _ (if timeoutUs = 0 then 4000000 else timeoutUs)) polls _ _ waiting
    found
  rw [nvGspRpcCall, nvGspRpcCall]
  revert ended
  generalize whileFuel (callTurn world fn replyCap _) polls _ = first
  generalize whileFuel (callTurn other fn replyCap _) polls _ = second
  rintro (together | _)
  · exact together
  · exact .none

/-! One call. -/

theorem reqLen_toNat (call : RmCall) {paramsLen : UInt32} (fits : ¬ paramsLen > call.capacity) :
    (call.hdrSize + paramsLen).toNat = call.hdrSize.toNat + paramsLen.toNat := by
  have room := call.room
  rw [gt_iff_lt, UInt32.not_lt, UInt32.le_iff_toNat_le] at fits
  rw [UInt32.toNat_add]
  omega

/-- The reply buffer, as far as a reply goes, holds the reply. -/
theorem rep_fresh (one two : Mem) (reply : List UInt8) {x : Nat} (inside : x < reply.length) :
    putBytes one 0 reply.length (bytesAt reply) x =
      putBytes two 0 reply.length (bytesAt reply) x := by
  rw [putBytes_apply, putBytes_apply, if_pos (by omega), if_pos (by omega)]

section Reply

variable {call : RmCall} {one two : Mem} {len : Nat} {rlen paramsLen : UInt32}
  (same : ∀ x < len, one x = two x)
include same

theorem status_fresh (covers : call.hdrSize.toNat ≤ len) :
    ld32 one call.statusOff = ld32 two call.statusOff := by
  have within := call.status_within
  apply ld32_congr
  intro i below
  exact same _ (by omega)

theorem params_fresh (header : call.hdrSize ≤ rlen) (params : Payload)
    (covers : min rlen.toNat (call.hdrSize.toNat + paramsLen.toNat) ≤ len) :
    rmParams call one rlen params paramsLen = rmParams call two rlen params paramsLen := by
  have avail := UInt32.toNat_sub_of_le _ _ header
  rw [UInt32.le_iff_toNat_le] at header
  cases params with
  | none => rfl
  | some bytes =>
      apply congrArg some
      apply putBytes_source
      intro i below
      apply same
      rw [Words.lesser_toNat] at below
      omega

end Reply

/-- The shared memories that a call finds; a call that is refused at once polls none. -/
def rmFound (polls : Nat) (world : Nat → Mem → Mem) (ch : NvGspRpcChan) (bufs : RmBuffers)
    (call : RmCall) (params : Payload) (paramsLen : UInt32) : List Mem :=
  if paramsLen > call.capacity then []
  else
    rpcFound polls world ch call.function (some (rmRequest call bufs.req params paramsLen))
      (call.hdrSize + paramsLen) (call.hdrSize + paramsLen) rmTimeoutUs

theorem call_isolated (polls : Nat) {world other : Nat → Mem → Mem} {one two : NvGspRpcChan}
    (bufs bufs' : RmBuffers) (call : RmCall) (params : Payload) (paramsLen : UInt32)
    (reading : Reading one) (same : pointers one = pointers two)
    (found : FoundAlike (rmFound polls world one bufs call params paramsLen)
      (rmFound polls other two bufs' call params paramsLen)) :
    (rmCall polls world one bufs call params paramsLen).map observation =
      (rmCall polls other two bufs' call params paramsLen).map observation := by
  by_cases large : paramsLen > call.capacity
  · rw [rmCall, rmCall, if_pos large, if_pos large]
    simp only [Option.map_some, observation, same]
  have length := reqLen_toNat call large
  have room := call.room
  have fits := UInt32.le_iff_toNat_le.mp (UInt32.not_lt.mp large)
  -- Both calls send the request that is read off its first bytes.
  have fresh : ∀ req, ∀ x < (call.hdrSize + paramsLen).toNat,
      rmRequest call req params paramsLen x = requestBytes call params paramsLen x :=
    fun req => request_fresh call req params paramsLen
  have asked : ∀ world ch req, nvGspRpcCall polls world ch call.function
      (some (rmRequest call req params paramsLen)) (call.hdrSize + paramsLen)
      (call.hdrSize + paramsLen) rmTimeoutUs =
      nvGspRpcCall polls world ch call.function (some (requestBytes call params paramsLen))
        (call.hdrSize + paramsLen) (call.hdrSize + paramsLen) rmTimeoutUs :=
    fun world ch req => call_congr polls world ch call.function _ _ (fresh req)
  have shown : ∀ world ch req, rpcFound polls world ch call.function
      (some (rmRequest call req params paramsLen)) (call.hdrSize + paramsLen)
      (call.hdrSize + paramsLen) rmTimeoutUs =
      rpcFound polls world ch call.function (some (requestBytes call params paramsLen))
        (call.hdrSize + paramsLen) (call.hdrSize + paramsLen) rmTimeoutUs := by
    intro world ch req
    simp only [rpcFound, rpcSend, write_congr _ _ _ _ _ (fresh req)]
  have sent : ∀ req, (List.range (call.hdrSize + paramsLen).toNat).map
      (rmRequest call req params paramsLen) =
      (List.range (call.hdrSize + paramsLen).toNat).map (requestBytes call params paramsLen) :=
    fun req => List.map_congr_left fun x member => fresh req x (List.mem_range.mp member)
  simp only [rmFound, if_neg large, shown] at found
  have together := rpc_along call.function (some (requestBytes call params paramsLen))
    (call.hdrSize + paramsLen) rmTimeoutUs (by omega) reading same found
  simp only [rmCall, if_neg large, asked, sent]
  rw [Option.map_map, Option.map_map]
  refine along_map together ?_
  rintro ⟨outcome, after⟩ ⟨_, after'⟩ called ⟨rfl, _, channel⟩
  simp only at channel
  cases outcome with
  | errTimeout => simp only [Function.comp_apply, observation, channel]
  | errBounds => simp only [Function.comp_apply, observation, channel]
  | ok reply rlen rres =>
      by_cases failed : rres ≠ 0 ∨ rlen < call.hdrSize
      · simp only [Function.comp_apply, if_pos failed, observation, channel]
      · -- a reply that reaches past the header
        have filled := reply_length called
        have header : call.hdrSize ≤ rlen := UInt32.not_lt.mp (not_or.mp failed).2
        have long := UInt32.le_iff_toNat_le.mp header
        have copied : ∀ x < reply.length, _ = _ := fun x => rep_fresh bufs.rep bufs'.rep reply
        have status := @status_fresh call _ _ _ copied (by omega)
        have back := @params_fresh call _ _ _ rlen paramsLen copied header params (by omega)
        simp only [Function.comp_apply, if_neg failed, observation, status, back, channel]

theorem error_keeps_params {polls : Nat} {world : Nat → Mem → Mem} {ch : NvGspRpcChan}
    {bufs : RmBuffers} {call : RmCall} {params : Payload} {paramsLen : UInt32}
    {returned : RmReturn}
    (called : rmCall polls world ch bufs call params paramsLen = some returned)
    (failed : returned.rc ≠ .ok ()) : returned.params = params := by
  rw [rmCall] at called
  split at called
  · cases called
    rfl
  · obtain ⟨reply, _, rfl⟩ := Option.map_eq_some_iff.mp called
    revert failed
    cases reply.1 with
    | errTimeout => exact fun _ => rfl
    | errBounds => exact fun _ => rfl
    | ok bytes rlen rres =>
        simp only
        split
        · exact fun _ => rfl
        · exact fun failed => absurd rfl failed

theorem call_reading {polls : Nat} {world : Nat → Mem → Mem} {ch : NvGspRpcChan}
    {bufs : RmBuffers} {call : RmCall} {params : Payload} {paramsLen : UInt32}
    {returned : RmReturn} (reading : Reading ch)
    (called : rmCall polls world ch bufs call params paramsLen = some returned) :
    Reading returned.ch := by
  rw [rmCall] at called
  split at called
  · cases called
    exact reading
  · obtain ⟨⟨outcome, after⟩, replied, rfl⟩ := Option.map_eq_some_iff.mp called
    have kept := rpc_reading reading replied
    cases outcome with
    | errTimeout => exact kept
    | errBounds => exact kept
    | ok bytes rlen rres =>
        simp only
        split <;> exact kept

/-! A run of calls. -/

/-- The channel, and the static buffers of both functions. -/
structure RmState where
  ch : NvGspRpcChan
  alloc : RmBuffers
  control : RmBuffers

inductive RmRequest where
  | alloc (hClient hParent hObject hClass : UInt32) (params : Payload) (paramsLen : UInt32)
  | control (hClient hObject cmd : UInt32) (params : Payload) (paramsLen : UInt32)

def RmRequest.params : RmRequest → Payload
  | .alloc _ _ _ _ params _ => params
  | .control _ _ _ params _ => params

/-- A request, and what the GSP does while it is polled for. -/
structure RmStep where
  request : RmRequest
  polls : Nat
  world : Nat → Mem → Mem

def RmRequest.paramsLen : RmRequest → UInt32
  | .alloc _ _ _ _ _ paramsLen => paramsLen
  | .control _ _ _ _ paramsLen => paramsLen

def RmRequest.call : RmRequest → RmCall
  | .alloc hClient hParent hObject hClass _ paramsLen =>
      allocCall hClient hParent hObject hClass paramsLen
  | .control hClient hObject cmd _ paramsLen => controlCall hClient hObject cmd paramsLen

def RmState.bufs (s : RmState) : RmRequest → RmBuffers
  | .alloc .. => s.alloc
  | .control .. => s.control

def answer (s : RmState) (step : RmStep) : Option RmReturn :=
  match step.request with
  | .alloc hClient hParent hObject hClass params paramsLen =>
      nvGspRmAlloc step.polls step.world s.ch s.alloc hClient hParent hObject hClass params
        paramsLen
  | .control hClient hObject cmd params paramsLen =>
      nvGspRmControl step.polls step.world s.ch s.control hClient hObject cmd params paramsLen

def after (s : RmState) (step : RmStep) (returned : RmReturn) : RmState :=
  match step.request with
  | .alloc .. => { s with ch := returned.ch, alloc := returned.bufs }
  | .control .. => { s with ch := returned.ch, control := returned.bufs }

def run (s : RmState) : List RmStep → Option (List Observation × RmState)
  | [] => some ([], s)
  | step :: rest =>
      (answer s step).bind fun returned =>
        (run (after s step returned) rest).map fun tail =>
          (observation returned :: tail.1, tail.2)

def observed (s : RmState) (steps : List RmStep) : Option (List Observation) :=
  (run s steps).map Prod.fst

/-- The shared memories that the polls of a step find. -/
def found (s : RmState) (step : RmStep) : List Mem :=
  rmFound step.polls step.world s.ch (s.bufs step.request) step.request.call step.request.params
    step.request.paramsLen

theorem answer_eq (s : RmState) (step : RmStep) : answer s step = rmCall step.polls step.world s.ch
    (s.bufs step.request) step.request.call step.request.params step.request.paramsLen := by
  rw [answer]
  cases step.request <;> rfl

theorem after_ch (s : RmState) (step : RmStep) (returned : RmReturn) :
    (after s step returned).ch = returned.ch := by
  rw [after]
  split <;> rfl

theorem answer_reading {s : RmState} {step : RmStep} {returned : RmReturn} (reading : Reading s.ch)
    (answered : answer s step = some returned) : Reading (after s step returned).ch := by
  rw [after_ch]
  rw [answer_eq] at answered
  exact call_reading reading answered

theorem run_cons {s last : RmState} {step : RmStep} {rest : List RmStep} {seen : List Observation}
    (ran : run s (step :: rest) = some (seen, last)) :
    ∃ returned tail, answer s step = some returned ∧
      run (after s step returned) rest = some (tail, last) ∧
      seen = observation returned :: tail := by
  rw [run, Option.bind_eq_some_iff] at ran
  obtain ⟨returned, answered, ran⟩ := ran
  obtain ⟨⟨tail, reached⟩, ended, same⟩ := Option.map_eq_some_iff.mp ran
  cases same
  exact ⟨returned, tail, answered, ended, rfl⟩

theorem run_reading {s reached : RmState} {steps : List RmStep} {seen : List Observation}
    (reading : Reading s.ch) (ran : run s steps = some (seen, reached)) : Reading reached.ch := by
  induction steps generalizing s seen with
  | nil =>
      cases ran
      exact reading
  | cons step rest ih =>
      obtain ⟨returned, tail, answered, ended, _⟩ := run_cons ran
      exact ih (answer_reading reading answered) ended

theorem observed_cons (s : RmState) (step : RmStep) (rest : List RmStep) :
    observed s (step :: rest) =
      (answer s step).bind fun returned =>
        (observed (after s step returned) rest).map fun tail => observation returned :: tail := by
  simp only [observed, run]
  cases answer s step with
  | none => rfl
  | some returned =>
      simp only [Option.bind_some, Option.map_map]
      rfl

theorem observed_append {s reached : RmState} {past : List RmStep} {seen : List Observation}
    (ran : run s past = some (seen, reached)) (later : List RmStep) :
    observed s (past ++ later) = (observed reached later).map (seen ++ ·) := by
  induction past generalizing s seen with
  | nil =>
      cases ran
      exact (congrFun Option.map_id _).symm
  | cons step rest ih =>
      obtain ⟨returned, tail, answered, ended, rfl⟩ := run_cons ran
      rw [List.cons_append, observed_cons, answered, Option.bind_some, ih ended, Option.map_map]
      rfl

/-! Two runs. -/

/-- One request in two runs, and what the GSP does in each while it is polled for. -/
structure Twin where
  request : RmRequest
  polls : Nat
  world : Nat → Mem → Mem
  other : Nat → Mem → Mem

def Twin.one (twin : Twin) : RmStep := ⟨twin.request, twin.polls, twin.world⟩

def Twin.two (twin : Twin) : RmStep := ⟨twin.request, twin.polls, twin.other⟩

/-- Each call finds the same messages in both runs. -/
def RunsAlike (s t : RmState) : List Twin → Prop
  | [] => True
  | twin :: rest => FoundAlike (found s twin.one) (found t twin.two) ∧
      ∀ one two, answer s twin.one = some one → answer t twin.two = some two →
        RunsAlike (after s twin.one one) (after t twin.two two) rest

theorem answer_isolated {s t : RmState} {twin : Twin} (reading : Reading s.ch)
    (same : pointers s.ch = pointers t.ch)
    (finds : FoundAlike (found s twin.one) (found t twin.two)) :
    (answer s twin.one).map observation = (answer t twin.two).map observation := by
  rw [answer_eq, answer_eq]
  exact call_isolated _ _ _ _ _ _ reading same finds

/-- Calls that find the same messages cannot tell two states with the same pointers apart. -/
theorem observed_isolated (later : List Twin) {s t : RmState} (reading : Reading s.ch)
    (same : pointers s.ch = pointers t.ch) (finds : RunsAlike s t later) :
    observed s (later.map Twin.one) = observed t (later.map Twin.two) := by
  -- What a call leaves in memory may differ; the pointers, which decide the next, may not.
  induction later generalizing s t with
  | nil => rfl
  | cons twin rest ih =>
      have answers := answer_isolated reading same finds.1
      rw [List.map_cons, List.map_cons, observed_cons, observed_cons]
      cases first : answer s twin.one with
      | none =>
          rw [first, Option.map_none] at answers
          rw [Option.map_eq_none_iff.mp answers.symm, Option.bind_none, Option.bind_none]
      | some one =>
          rw [first, Option.map_some] at answers
          obtain ⟨two, second, seen⟩ := Option.map_eq_some_iff.mp answers.symm
          have channel :
              pointers (after s twin.one one).ch = pointers (after t twin.two two).ch := by
            rw [after_ch, after_ch]
            exact (congrArg Observation.pointers seen).symm
          rw [second, Option.bind_some, Option.bind_some,
            ih (answer_reading reading first) channel (finds.2 one two first second), seen]

/-- Two runs of calls that have come to the same pointers, whatever requests they made
on the way: calls that then find the same messages send the same and return the
same, and a call that fails returns its params as it got them. -/
theorem static_buffers_isolated {start start' reached reached' : RmState} {past past' : List RmStep}
    {seen seen' : List Observation} (opened : Reading start.ch)
    (ran : run start past = some (seen, reached))
    (ran' : run start' past' = some (seen', reached'))
    (same : pointers reached.ch = pointers reached'.ch) (later : List Twin)
    (finds : RunsAlike reached reached' later) :
    (∃ next : Option (List Observation),
      observed start (past ++ later.map Twin.one) = next.map (seen ++ ·) ∧
      observed start' (past' ++ later.map Twin.two) = next.map (seen' ++ ·)) ∧
    ∀ step returned, answer reached step = some returned → returned.rc ≠ .ok () →
      returned.params = step.request.params := by
  constructor
  · refine ⟨observed reached (later.map Twin.one), observed_append ran _, ?_⟩
    rw [observed_isolated later (run_reading opened ran) same finds]
    exact observed_append ran' _
  · intro step returned answered failed
    rw [answer_eq] at answered
    exact error_keeps_params answered failed

/-- A GSP that shows the messages of `reply`, whatever the driver wrote. -/
theorem found_shows {s : RmState} {step : RmStep} {reply : Mem}
    (shows : ∀ j m, SameMessages (step.world j m) reply) :
    ∀ m ∈ found s step, SameMessages m reply := by
  rw [found, rmFound]
  split
  · intro m member
    cases member
  · refine while_logs _ _ (fun _ => True) (fun m => SameMessages m reply)
      (fun _ _ _ _ => trivial) ?_ _ _ trivial
    intro w _ m member
    rw [List.mem_singleton.mp member]
    exact shows _ _

/-- The message queue with `count` messages of one slot, `fn` with `bytes` being the last. -/
def messageQueue (count : Nat) (fn : UInt8) (bytes : List UInt8) : Mem := fun a =>
  let e := 0x41000 + 0x1000 * count
  if a = 0x41010 then UInt8.ofNat count else if a = e + 40 then 1
  else if a = e + 56 then UInt8.ofNat (32 + bytes.length) else if a = e + 60 then fn
  else if e + 80 ≤ a then bytes.getD (a - (e + 80)) 0 else 0

/-- A GSP that answers, and keeps the command queue or clears it. -/
def answering (keeps : Bool) (queue : Mem) (_ : Nat) (m : Mem) : Mem := fun a =>
  if 0x41000 ≤ a then queue a else if keeps then m a else 0

theorem answering_shows (keeps : Bool) (queue : Mem) (j : Nat) (m : Mem) :
    SameMessages (answering keeps queue j m) queue := by
  intro x inside
  have base : msgqBase = 0x41000 := rfl
  unfold InMessages at inside
  exact if_pos (by omega)

/-- A control call with four bytes of params, answered with four others, after
allocations of different objects that were answered too. The first bytes that
these sent are still in the command queue. -/
theorem static_buffers_isolated_answered :
    let past hClient : List RmStep := [⟨.alloc hClient 2 3 4 none 0, 1, answering true
      (messageQueue 1 103 (List.replicate 32 0))⟩]
    let reply := messageQueue 2 76 (List.replicate 24 0 ++ [7, 8, 9, 10])
    let later : Twin := ⟨.control 1 2 3 (some fun _ => 5) 4, 1, answering true reply,
      answering false reply⟩
    let one : RmState := ⟨idleChan, ⟨fun _ => 1, fun _ => 2⟩, ⟨fun _ => 3, fun _ => 4⟩⟩
    let two : RmState := ⟨idleChan, ⟨fun _ => 0, fun _ => 0⟩, ⟨fun _ => 0, fun _ => 0⟩⟩
    ∃ seen seen' reached reached' next, run one (past 1) = some (seen, reached) ∧
      run two (past 9) = some (seen', reached') ∧
      reached.ch.shm 0x2050 = 1 ∧ reached'.ch.shm 0x2050 = 9 ∧
      observed one (past 1 ++ [later.one]) = some (seen ++ [next]) ∧
      observed two (past 9 ++ [later.two]) = some (seen' ++ [next]) ∧ next.rc = .ok () ∧
      next.status = some 0 ∧
      (next.params.map fun p => [p 0, p 1, p 2, p 3]) = some [7, 8, 9, 10] := by
  intro past reply later one two
  have first : (run one (past 1)).map (fun r => (r.1.length, pointers r.2.ch, r.2.ch.shm 0x2050)) =
      some (1, ⟨nvGspShmCompute, 1, 1, 1⟩, 1) := by decide +kernel
  have second : (run two (past 9)).map (fun r => (pointers r.2.ch, r.2.ch.shm 0x2050)) =
      some (⟨nvGspShmCompute, 1, 1, 1⟩, 9) := by decide +kernel
  have ended : ((observed one (past 1 ++ [later.one])).bind List.getLast?).map (fun o =>
      (o.rc.isOk, o.status, o.params.map fun p => [p 0, p 1, p 2, p 3])) =
      some (true, some 0, some [7, 8, 9, 10]) := by decide +kernel
  have answers : (observed one (past 1 ++ [later.one])).map List.length = some 2 := by
    decide +kernel
  obtain ⟨⟨seen, reached⟩, ran, state⟩ := Option.map_eq_some_iff.mp first
  obtain ⟨⟨seen', reached'⟩, ran', state'⟩ := Option.map_eq_some_iff.mp second
  simp only [Prod.mk.injEq] at state state'
  have finds : RunsAlike reached reached' [later] := by
    refine ⟨fun pair member => ?_, fun _ _ _ _ => trivial⟩
    obtain ⟨here, there⟩ := List.of_mem_zip member
    have shown := found_shows (answering_shows true reply) _ here
    have shown' := found_shows (answering_shows false reply) _ there
    exact fun x inside => (shown x inside).trans (shown' x inside).symm
  obtain ⟨next, here, there⟩ := (static_buffers_isolated ⟨rfl, by decide⟩ ran ran'
    (state.2.1.trans state'.1.symm) [later] finds).1
  obtain ⟨all, whole, count⟩ := Option.map_eq_some_iff.mp answers
  obtain ⟨tail, rfl, joined⟩ := Option.map_eq_some_iff.mp (here.symm.trans whole)
  have single : tail.length = 1 := by
    rw [← joined, List.length_append, state.1] at count
    omega
  obtain ⟨next, rfl⟩ := List.length_eq_one_iff.mp single
  rw [whole, ← joined, Option.bind_some, List.getLast?_append] at ended
  simp only [List.getLast?_singleton, Option.some_or, Option.map_some, Option.some.injEq,
    Prod.mk.injEq] at ended
  have fine : next.rc = .ok () := by
    cases returned : next.rc with
    | ok => rfl
    | error e =>
      rw [returned] at ended
      cases ended.1
  exact ⟨seen, seen', reached, reached', next, ran, ran', state.2.2, state'.2, here, there, fine,
    ended.2⟩

end GspDriver.RmIsolation
