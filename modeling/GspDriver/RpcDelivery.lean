import GspDriver.MsgQueue
import GspDriver.CmdqFrame

/-!
One call against a producer. `batches j` are the messages that the producer
places before poll `j`; with those already queued they form one sequence. The
call delivers the first message of the sequence with its function number, and
its read pointer ends just past it, unless that message runs past the last slot:
then the driver's guard stops at the message and reports it.
-/

namespace GspDriver.RpcDelivery

open Bytes LittleEndian Loop RingQueue GspRpc GspRm MsgQueue CmdqFrame

/-- The producer's work before poll `j`, at its own published write pointer. -/
def arrivals (batches : Nat → List Msg) (j : Nat) (m : Mem) : Mem :=
  placeAll m (ld32 m 0x41010).toNat (batches j)

/-- What poll `j` finds when the polls before it drained the queue. -/
def unread (queued : List Msg) (batches : Nat → List Msg) : Nat → List Msg
  | 0 => queued ++ batches 0
  | j + 1 => batches (j + 1)

/-- The sequence up to poll `j`. -/
def history (queued : List Msg) (batches : Nat → List Msg) : Nat → List Msg
  | 0 => []
  | j + 1 => history queued batches j ++ unread queued batches j

theorem pending_congr {ch other : NvGspRpcChan} {msgs : List Msg} (pending : Pending ch msgs)
    (lay : other.lay = ch.lay) (rptr : other.msgqRptr = ch.msgqRptr)
    (same : ∀ x, ¬ InCmdq x → other.shm x = ch.shm x) : Pending other msgs := by
  have outside : ∀ x, 0x41000 ≤ x → other.shm x = ch.shm x := by
    intro x above
    apply same
    rw [InCmdq, cmdqBase_eq]
    omega
  refine ⟨lay.trans pending.lay, ?_, ?_, ?_, pending.room⟩
  · rw [rptr]
    exact pending.slot
  · rw [rptr]
    apply SlotRing.holds_congr pending.holds
    intro x above _
    rw [ring_base] at above
    exact outside x (by omega)
  · have kept : ld32 other.shm 0x41010 = ld32 ch.shm 0x41010 :=
      ld32_congr fun i _ => outside _ (by omega)
    have before := pending.wptr
    rw [writeptr_eq _ pending.lay] at before
    rw [writeptr_eq _ (lay.trans pending.lay), kept, before, rptr]

theorem send_pending {ch : NvGspRpcChan} {msgs : List Msg} (pending : Pending ch msgs)
    (slot : ch.cmdqWptr.toNat < msgCount) {fn : UInt32} {req : Payload} {reqLen : UInt32}
    (fits : Fits ch req reqLen) : Pending (rpcSend ch fn req reqLen) msgs :=
  pending_congr pending rfl rfl fun x outside =>
    send_outside ch ⟨pending.lay, slot⟩ fn req reqLen fits x outside

theorem arrive_pending {ch : NvGspRpcChan} {msgs more : List Msg} (pending : Pending ch msgs)
    (batches : Nat → List Msg) (j : Nat) (batch : batches j = more)
    (room : totalSlots (msgs ++ more) < 63) :
    Pending { ch with shm := arrivals batches j ch.shm } (msgs ++ more) := by
  rw [totalSlots_append] at room
  have wptr := pending.wptr
  rw [writeptr_eq _ pending.lay] at wptr
  have placed := placeAll_pending pending more room
  rw [← wptr, ← batch] at placed
  rw [← batch]
  exact placed

theorem first_unique {fn : UInt32} {before before' rest rest' : List Msg} {msg msg' : Msg}
    (same : before ++ msg :: rest = before' ++ msg' :: rest') (foreign : Foreign fn before)
    (foreign' : Foreign fn before') (mine : msg.function = fn) (mine' : msg'.function = fn) :
    before = before' ∧ msg = msg' ∧ rest = rest' := by
  induction before generalizing before' with
  | nil =>
      cases before' with
      | nil => exact ⟨rfl, List.cons.inj same⟩
      | cons head tail =>
          have hit : msg = head := (List.cons.inj same).1
          exact absurd (hit ▸ mine) (foreign' head List.mem_cons_self)
  | cons head tail ih =>
      cases before' with
      | nil =>
          have hit : head = msg' := (List.cons.inj same).1
          exact absurd (hit ▸ mine') (foreign head List.mem_cons_self)
      | cons head' tail' =>
          obtain ⟨heads, tails⟩ := List.cons.inj same
          obtain ⟨fronts, rest⟩ := ih tails
            (fun next member => foreign next (List.mem_cons_of_mem head member))
            (fun next member => foreign' next (List.mem_cons_of_mem head' member))
          exact ⟨by rw [heads, fronts], rest⟩

section Call

variable {start : NvGspRpcChan} {queued : List Msg} {batches : Nat → List Msg}
  (pending : Pending start queued)
  (room : ∀ i, totalSlots (unread queued batches i) < 63)
  {fn : UInt32} (cap timeoutUs : UInt32)
include pending room

/-- The state in which poll `i` begins. -/
structure Reached (start : NvGspRpcChan) (queued : List Msg) (batches : Nat → List Msg) (i : Nat)
    (w : Waiting) : Prop where
  poll : w.poll = i
  waited : w.waited.toNat = 1000 * i % 2 ^ 32
  arrived : Pending { w.ch with shm := arrivals batches i w.ch.shm } (unread queued batches i)
  rptr : w.ch.msgqRptr.toNat =
    msgqRing.advance start.msgqRptr.toNat (totalSlots (history queued batches i))

theorem reached_first : Reached start queued batches 0 { poll := 0, waited := 0, ch := start } := by
  refine ⟨rfl, rfl, ?_, ?_⟩
  · exact arrive_pending pending batches 0 rfl (room 0)
  · exact (advance_zero pending.slot).symm

omit pending in
/-- A poll that finds only foreign messages before the time is up leads to the
next one, past all of them. -/
theorem reached_next {i : Nat} {w : Waiting} (reached : Reached start queued batches i w)
    (foreign : Foreign fn (unread queued batches i))
    (early : 1000 * i % 2 ^ 32 < timeoutUs.toNat) :
    ∃ next, callTurn (arrivals batches) fn cap timeoutUs w = .again next ∧
      Reached start queued batches (i + 1) next := by
  obtain ⟨outcome, ended, spec⟩ := poll_spec fn cap reached.arrived
  -- Without a message of its own number the poll can only drain the queue.
  cases spec with
  | ok before rest msg after split others mine =>
      exact absurd mine (foreign msg (by rw [split]; simp))
  | bounds before rest msg after split others mine =>
      exact absurd mine (foreign msg (by rw [split]; simp))
  | drained after _ left consumed =>
      have waiting : ¬ w.waited ≥ timeoutUs := by
        rw [ge_iff_le, UInt32.not_le, UInt32.lt_iff_toNat_lt, reached.waited]
        exact early
      have number := reached.poll
      refine ⟨{ poll := w.poll + 1, waited := w.waited + pollStep, ch := after }, ?_, ?_⟩
      · rw [← number] at ended
        simp only [callTurn, ended, if_neg waiting]
      · refine ⟨by rw [number], ?_, ?_, ?_⟩
        · have step : pollStep.toNat = 1000 := by decide
          rw [UInt32.toNat_add, step, reached.waited]
          omega
        · have more := room (i + 1)
          exact arrive_pending left batches (i + 1) rfl more
        · change after.msgqRptr.toNat = _
          rw [consumed.rptr]
          change msgqRing.advance w.ch.msgqRptr.toNat _ = _
          rw [reached.rptr, SlotRing.advance_add, history, totalSlots_append]

theorem reached_poll (j : Nat) (foreign : ∀ i < j, Foreign fn (unread queued batches i))
    (early : ∀ i < j, 1000 * i % 2 ^ 32 < timeoutUs.toNat) :
    ∃ w, Reached start queued batches j w ∧ ∀ polls,
      whileFuel (callTurn (arrivals batches) fn cap timeoutUs) (j + polls)
        { poll := 0, waited := 0, ch := start } =
      whileFuel (callTurn (arrivals batches) fn cap timeoutUs) polls w := by
  induction j with
  | zero => exact ⟨_, reached_first pending room, fun polls => by rw [Nat.zero_add]⟩
  | succ j ih =>
      obtain ⟨w, reached, same⟩ := ih (fun i below => foreign i (by omega))
        (fun i below => early i (by omega))
      obtain ⟨next, turned, after⟩ := reached_next room cap timeoutUs reached (foreign j (by omega))
        (early j (by omega))
      refine ⟨next, after, fun polls => ?_⟩
      have shift : j + 1 + polls = j + (polls + 1) := by omega
      rw [shift, same, whileFuel, turned]

def pollReturn : Poll → Option RpcReturn
  | .drained => none
  | .bounds => some .errBounds
  | .ok reply replyLen rpcResult => some (.ok reply replyLen rpcResult)

/-- Poll `j` decides the call unless it drains the queue. -/
theorem decided_at (j : Nat) (foreign : ∀ i < j, Foreign fn (unread queued batches i))
    (early : ∀ i < j, 1000 * i % 2 ^ 32 < timeoutUs.toNat) :
    ∃ (seen : NvGspRpcChan) (outcome : Poll × NvGspRpcChan),
      seen.msgqRptr.toNat =
        msgqRing.advance start.msgqRptr.toNat (totalSlots (history queued batches j)) ∧
      PollSpec fn cap seen (unread queued batches j) outcome ∧
      ∀ result, pollReturn outcome.1 = some result → ∀ polls, j < polls →
        whileFuel (callTurn (arrivals batches) fn cap timeoutUs) polls
          { poll := 0, waited := 0, ch := start } = some (some (result, outcome.2)) := by
  obtain ⟨w, reached, same⟩ := reached_poll pending room cap timeoutUs j foreign early
  obtain ⟨outcome, ended, spec⟩ := poll_spec fn cap reached.arrived
  refine ⟨{ w.ch with shm := arrivals batches j w.ch.shm }, outcome, reached.rptr, spec, ?_⟩
  intro result returned polls enough
  obtain ⟨left, rfl⟩ := Nat.exists_eq_add_of_lt enough
  have split : j + left + 1 = j + (left + 1) := by omega
  have number := reached.poll
  have turn : callTurn (arrivals batches) fn cap timeoutUs w =
      .stop (some (result, outcome.2)) := by
    rw [← number] at ended
    obtain ⟨poll, after⟩ := outcome
    cases poll with
    | drained => cases returned
    | bounds =>
        cases returned
        simp only [callTurn, ended]
    | ok reply replyLen rpcResult =>
        cases returned
        simp only [callTurn, ended]
  rw [split, same, whileFuel, turn]

end Call

/-- The message ends at or before the last slot when `gone` lies before it. -/
def EndsInside (ch : NvGspRpcChan) (gone : List Msg) (msg : Msg) : Prop :=
  msgqRing.advance ch.msgqRptr.toNat (totalSlots gone) + msg.slots ≤ 63

/-- The call returned `result`, its read pointer past exactly `gone`, and the
queue still holds `rest`. -/
def Returns (ch : NvGspRpcChan) (batches : Nat → List Msg) (fn : UInt32) (req : Payload)
    (reqLen cap timeoutUs : UInt32) (j : Nat) (result : RpcReturn) (gone rest : List Msg) : Prop :=
  ∃ after : NvGspRpcChan,
    (∀ polls, j < polls → nvGspRpcCall polls (arrivals batches) ch fn req reqLen cap timeoutUs =
      some (result, after)) ∧
    after.msgqRptr.toNat = msgqRing.advance ch.msgqRptr.toNat (totalSlots gone) ∧
    Pending after rest

/-- `msg` is the first message of the sequence with function number `fn`: poll
`j` finds it behind `before`, and no earlier poll runs out of time. -/
structure FirstAt (ch : NvGspRpcChan) (queued : List Msg) (batches : Nat → List Msg)
    (fn timeoutUs : UInt32) (j : Nat) (before : List Msg) (msg : Msg) (rest : List Msg) : Prop where
  pending : Pending ch queued
  slot : ch.cmdqWptr.toNat < msgCount
  room : ∀ i, totalSlots (unread queued batches i) < 63
  found : unread queued batches j = before ++ msg :: rest
  earlier : ∀ i < j, Foreign fn (unread queued batches i)
  foreign : Foreign fn before
  mine : msg.function = fn
  reached : ∀ i < j, 1000 * i % 2 ^ 32 < (if timeoutUs = 0 then 4000000 else timeoutUs).toNat

section Outcome

variable {ch : NvGspRpcChan} {queued : List Msg} {batches : Nat → List Msg} {fn : UInt32}
  {req : Payload} {reqLen cap timeoutUs : UInt32} {j : Nat} {before rest : List Msg} {msg : Msg}
  (first : FirstAt ch queued batches fn timeoutUs j before msg rest) (fits : Fits ch req reqLen)
include first fits

theorem call_decided :
    ∃ (seen : NvGspRpcChan) (outcome : Poll × NvGspRpcChan),
      (∀ msgs, msgqRing.advance seen.msgqRptr.toNat (totalSlots msgs) =
        msgqRing.advance ch.msgqRptr.toNat (totalSlots (history queued batches j ++ msgs))) ∧
      PollSpec fn cap seen (before ++ msg :: rest) outcome ∧
      ∀ result, pollReturn outcome.1 = some result → ∀ polls, j < polls →
        nvGspRpcCall polls (arrivals batches) ch fn req reqLen cap timeoutUs =
          some (result, outcome.2) := by
  have sent := @send_pending _ _ first.pending first.slot fn _ _ fits
  obtain ⟨seen, outcome, rptr, spec, returns⟩ := decided_at sent first.room cap
    (if timeoutUs = 0 then 4000000 else timeoutUs) j first.earlier first.reached
  rw [first.found] at spec
  refine ⟨seen, outcome, ?_, spec, ?_⟩
  · intro msgs
    rw [rptr, SlotRing.advance_add, totalSlots_append]
    rfl
  · intro result returned polls enough
    rw [nvGspRpcCall, returns result returned polls enough, Option.join_some]

theorem call_delivers (inside : EndsInside ch (history queued batches j ++ before) msg) :
    Returns ch batches fn req reqLen cap timeoutUs j
      (.ok (msg.payload cap) msg.payloadLen msg.result)
      (history queued batches j ++ before ++ [msg]) rest := by
  obtain ⟨seen, outcome, moved, spec, called⟩ := call_decided first fits
  cases spec with
  | drained after others => exact absurd first.mine (others msg (by simp))
  | ok front tail hit after split others mine _ left consumed =>
      obtain ⟨rfl, rfl, rfl⟩ := first_unique split first.foreign others first.mine mine
      refine ⟨after, called _ rfl, ?_, left⟩
      rw [consumed.rptr, moved, List.append_assoc]
  | bounds front tail hit after split others mine wraps left consumed =>
      obtain ⟨rfl, rfl, rfl⟩ := first_unique split first.foreign others first.mine mine
      rw [moved] at wraps
      exact absurd inside (Nat.not_le.mpr wraps)

theorem call_stops_at_wrap (wraps : ¬ EndsInside ch (history queued batches j ++ before) msg) :
    Returns ch batches fn req reqLen cap timeoutUs j .errBounds
      (history queued batches j ++ before) (msg :: rest) := by
  obtain ⟨seen, outcome, moved, spec, called⟩ := call_decided first fits
  cases spec with
  | drained after others => exact absurd first.mine (others msg (by simp))
  | ok front tail hit after split others mine inside left consumed =>
      obtain ⟨rfl, rfl, rfl⟩ := first_unique split first.foreign others first.mine mine
      rw [moved] at inside
      exact absurd inside wraps
  | bounds front tail hit after split others mine _ left consumed =>
      obtain ⟨rfl, rfl, rfl⟩ := first_unique split first.foreign others first.mine mine
      refine ⟨after, called _ rfl, ?_, left⟩
      rw [consumed.rptr, moved]

/-- Delivery in ring order: the first message with the call's function number
is handed out whole, as far as the buffer goes, and the read pointer ends just
past it. A message that runs past the last slot is reported instead; the read
pointer then stops at it, past exactly the messages before it. -/
theorem call_delivers_first :
    (EndsInside ch (history queued batches j ++ before) msg →
      Returns ch batches fn req reqLen cap timeoutUs j
        (.ok (msg.payload cap) msg.payloadLen msg.result)
        (history queued batches j ++ before ++ [msg]) rest) ∧
    (¬ EndsInside ch (history queued batches j ++ before) msg →
      Returns ch batches fn req reqLen cap timeoutUs j .errBounds
        (history queued batches j ++ before) (msg :: rest)) :=
  ⟨call_delivers first fits, call_stops_at_wrap first fits⟩

end Outcome

/-! A message of two slots, and a queue whose read pointer is `rptr`. -/

def twoPageBytes (o : Nat) : UInt8 :=
  if o = 40 then 2 else if o = 56 then 0xa8 else if o = 57 then 0x13 else if o = 60 then 0x55
  else if 80 ≤ o then UInt8.ofNat (7 * o + 1) else 0

def twoPages : Msg :=
  { slots := 2, bytes := twoPageBytes, some_slots := by decide, few_slots := by decide
    count := by decide, header := by decide, extent := by decide }

def emptyChan (rptr : UInt8) : NvGspRpcChan :=
  { shm := fun x => if x = 0x41010 then rptr else 0, lay := nvGspShmCompute, cmdqWptr := 0
    seq := 0, msgqRptr := rptr.toUInt32 }

def once (msgs : List Msg) (j : Nat) : List Msg := if j = 0 then msgs else []

theorem emptyChan_pending (rptr : UInt8) (slot : rptr.toNat < 63) :
    Pending (emptyChan rptr) [] := by
  have word : (emptyChan rptr).msgqRptr.toNat = rptr.toNat := UInt8.toNat_toUInt32 rptr
  have lay : (emptyChan rptr).lay = nvGspShmCompute := rfl
  refine ⟨lay, by omega, fun o inside => absurd inside (Nat.not_lt_zero o), ?_, by decide⟩
  rw [writeptr_eq _ lay, ld32_toNat, word, advance_zero slot]
  simp [load, emptyChan]

theorem emptyChan_first (rptr : UInt8) (slot : rptr.toNat < 63) :
    FirstAt (emptyChan rptr) [] (once [twoPages]) 0x55 0 0 [] twoPages [] := by
  have fresh : (0 : UInt32).toNat < msgCount := by decide
  refine ⟨emptyChan_pending rptr slot, fresh, ?_, rfl, by simp, by simp [Foreign], by decide,
    by simp⟩
  intro i
  cases i with
  | zero => decide
  | succ i => exact Nat.zero_lt_succ _

theorem call_delivers_first_at_end :
    Returns (emptyChan 61) (once [twoPages]) 0x55 none 0 8192 0 0
      (.ok (twoPages.payload 8192) 5000 0) [twoPages] [] :=
  (call_delivers_first (emptyChan_first 61 (by decide)) (noRequest_fits (by decide))).1
    (by change _ ≤ 63; decide)

/-- From the last slot the same message is not delivered. -/
theorem wrapped_message_refused :
    ¬ ∀ (ch : NvGspRpcChan) (queued : List Msg) (batches : Nat → List Msg) (fn : UInt32)
      (req : Payload) (reqLen cap timeoutUs : UInt32) (j : Nat) (before rest : List Msg) (msg : Msg),
      FirstAt ch queued batches fn timeoutUs j before msg rest → Fits ch req reqLen →
      Returns ch batches fn req reqLen cap timeoutUs j
        (.ok (msg.payload cap) msg.payloadLen msg.result)
        (history queued batches j ++ before ++ [msg]) rest := by
  intro claim
  have first := emptyChan_first 62 (by decide)
  have fits : Fits (emptyChan 62) none 0 := ⟨by decide, Or.inl rfl⟩
  obtain ⟨_, delivered, _⟩ := claim _ _ _ _ none 0 8192 0 0 _ _ _ first fits
  obtain ⟨_, refused, _⟩ := call_stops_at_wrap first fits
    (by change ¬ _ ≤ 63; decide)
  have both := (delivered 1 (by decide)).symm.trans (refused 1 (by decide))
  simp at both

end GspDriver.RpcDelivery
