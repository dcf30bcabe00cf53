import GspDriver.GspRm
import GspDriver.Base.RingQueue
import GspDriver.Base.Words

/-!
The message queue read as a queue of messages. A producer places well-formed
messages around the ring and publishes its write pointer; one poll of the
driver consumes from the front up to the first message with its function
number. The ring holds fewer slots than it has, so a full and an empty queue
do not look alike.
-/

namespace GspDriver.MsgQueue

open Bytes LittleEndian Loop RingQueue GspRpc GspRm

def msgqBase : Nat := 0x41000

def msgqRing : SlotRing :=
  { base := msgqBase + 0x1000, slots := 63, slotBytes := 0x1000
    nonempty := by decide, sized := by decide }

/-- A message as its producer builds it: the element count field is its number
of slots, and its length field covers the RPC header and lies within them. -/
structure Msg where
  slots : Nat
  bytes : Nat → UInt8
  some_slots : 1 ≤ slots
  few_slots : slots < 63
  count : (ld32 bytes nvGspMsgElemcountOff).toNat = slots
  header : 32 ≤ (ld32 bytes (nvGspRpcHdrOff + nvGspRpcFLength)).toNat
  extent : 48 + (ld32 bytes (nvGspRpcHdrOff + nvGspRpcFLength)).toNat ≤ 0x1000 * slots

namespace Msg

def function (msg : Msg) : UInt32 := ld32 msg.bytes (nvGspRpcHdrOff + nvGspRpcFFunction)
def result (msg : Msg) : UInt32 := ld32 msg.bytes (nvGspRpcHdrOff + 16)

def payloadLen (msg : Msg) : UInt32 :=
  ld32 msg.bytes (nvGspRpcHdrOff + nvGspRpcFLength) - nvGspRpcHdrSize

/-- The payload as far as a reply buffer of `cap` bytes takes it. -/
def payload (msg : Msg) (cap : UInt32) : List UInt8 :=
  (List.range (min msg.payloadLen.toNat cap.toNat)).map fun i => msg.bytes (80 + i)

def item (msg : Msg) : Item := { slots := msg.slots, bytes := msg.bytes }

theorem payloadLen_toNat (msg : Msg) : msg.payloadLen.toNat + 32 =
    (ld32 msg.bytes (nvGspRpcHdrOff + nvGspRpcFLength)).toNat := by
  have header : nvGspRpcHdrSize.toNat = 32 := by decide
  rw [payloadLen, UInt32.toNat_sub_of_le _ _ (by
    rw [UInt32.le_iff_toNat_le, header]
    exact msg.header), header]
  have := msg.header
  omega

end Msg

def totalSlots (msgs : List Msg) : Nat := SlotRing.total (msgs.map Msg.item)

theorem totalSlots_cons (msg : Msg) (rest : List Msg) :
    totalSlots (msg :: rest) = msg.slots + totalSlots rest := by
  simp [totalSlots, SlotRing.total, Msg.item]

theorem totalSlots_append (front back : List Msg) :
    totalSlots (front ++ back) = totalSlots front + totalSlots back := by
  simp [totalSlots, SlotRing.total]

/-- The channel's message queue holds exactly `msgs`, unread. -/
structure Pending (ch : NvGspRpcChan) (msgs : List Msg) : Prop where
  lay : ch.lay = nvGspShmCompute
  slot : ch.msgqRptr.toNat < 63
  holds : msgqRing.Holds ch.shm ch.msgqRptr.toNat (msgs.map Msg.item)
  wptr : (nvGspMsgqWriteptr ch.shm ch.lay).toNat =
    msgqRing.advance ch.msgqRptr.toNat (totalSlots msgs)
  room : totalSlots msgs < 63

theorem ring_base : msgqRing.base = 0x42000 := rfl
theorem ring_capacity : msgqRing.capacity = 0x3f000 := rfl
theorem advance_eq (r k : Nat) : msgqRing.advance r k = (r + k) % 63 := rfl

theorem layout_msgq : nvGspShmCompute.msgqOff.toNat = msgqBase := by decide
theorem layout_count : nvGspShmCompute.msgCount = 63 := by decide

theorem writeptr_eq (m : Mem) {lay : NvGspShmLayout} (same : lay = nvGspShmCompute) :
    nvGspMsgqWriteptr m lay = ld32 m 0x41010 := by
  rw [nvGspMsgqWriteptr, same, layout_msgq]
  rfl

/-- Where the element at the read pointer starts. -/
theorem entry_place (rptr : UInt32) :
    entryAddr nvGspShmCompute.msgqOff.toNat rptr = 0x42000 + 0x1000 * rptr.toNat := by
  rw [layout_msgq, entryAddr]
  simp only [msgqBase, nvGspQueueEntryoff, nvGspQueueMsgsize, UInt32.reduceToNat]
  omega

/-- A placed message passes the test of its element count. -/
theorem count_sane (msg : Msg) : ¬ (ld32 msg.bytes nvGspMsgElemcountOff = 0 ∨
    ld32 msg.bytes nvGspMsgElemcountOff > nvGspShmCompute.msgCount) := by
  have some := msg.some_slots
  have few := msg.few_slots
  rw [layout_count, gt_iff_lt, UInt32.lt_iff_toNat_lt, ← UInt32.toNat_inj, msg.count]
  simp only [UInt32.toNat_zero, UInt32.reduceToNat]
  omega

theorem wrapSlot_toNat (p : UInt32) : (wrapSlot nvGspShmCompute p).toNat = p.toNat % 63 := by
  rw [wrapSlot, layout_count, UInt32.toNat_mod]
  rfl

section Head

variable {ch : NvGspRpcChan} {msg : Msg} {rest : List Msg} (pending : Pending ch (msg :: rest))
include pending

theorem head_byte {o : Nat} (inside : o < 0x1000 * msg.slots)
    (room : 0x1000 * ch.msgqRptr.toNat + o < 0x3f000) :
    ch.shm (entryAddr ch.lay.msgqOff.toNat ch.msgqRptr + o) = msg.bytes o := by
  have here := SlotRing.holds_head pending.holds (o := o) inside (by rwa [ring_capacity])
  rw [pending.lay, entry_place]
  exact here

theorem head_field {f : Nat} (inside : f + 4 ≤ 0x1000) :
    ld32 ch.shm (entryAddr ch.lay.msgqOff.toNat ch.msgqRptr + f) = ld32 msg.bytes f := by
  have slot := pending.slot
  have some := msg.some_slots
  apply ld32_congr
  intro i below
  rw [Nat.add_assoc]
  exact head_byte pending (by omega) (by omega)

theorem consume_rptr {mec : UInt32} (count : mec.toNat = msg.slots) :
    (consume ch mec).msgqRptr.toNat = msgqRing.advance ch.msgqRptr.toNat msg.slots := by
  have slot := pending.slot
  have few := msg.few_slots
  simp only [consume, pending.lay]
  rw [wrapSlot_toNat, UInt32.toNat_add, advance_eq, count]
  omega

theorem consume_outside {mec : UInt32} (x : Nat) (outside : x < 0x41020 ∨ 0x41024 ≤ x) :
    (consume ch mec).shm x = ch.shm x := by
  simp only [consume, msgqSetReadptr, pending.lay, layout_msgq]
  exact st32_outside _ _ _ _ outside

theorem consume_pending {mec : UInt32} (count : mec.toNat = msg.slots) :
    Pending (consume ch mec) rest := by
  have moved := consume_rptr pending count
  have total := totalSlots_cons msg rest
  have lay : (consume ch mec).lay = nvGspShmCompute := pending.lay
  refine ⟨lay, ?_, ?_, ?_, ?_⟩
  · rw [moved]
    exact SlotRing.advance_lt _ _
  · rw [moved]
    apply SlotRing.holds_congr (SlotRing.holds_tail pending.holds)
    intro x above _
    rw [ring_base] at above
    exact consume_outside pending x (by omega)
  · have kept : ld32 (consume ch mec).shm 0x41010 = ld32 ch.shm 0x41010 := by
      apply ld32_congr
      intro i below
      exact consume_outside pending _ (by omega)
    have before := pending.wptr
    rw [writeptr_eq _ pending.lay] at before
    rw [writeptr_eq _ lay, kept, before, moved, total, SlotRing.advance_add]
  · have room := pending.room
    omega

/-- Going past a message after its own first page has been written to. -/
theorem consume_patched {shm : Mem} (patched : ∀ x, x < 0x42000 + 0x1000 * ch.msgqRptr.toNat ∨
      0x42000 + 0x1000 * ch.msgqRptr.toNat + 0x1000 ≤ x → shm x = ch.shm x) {mec : UInt32}
    (count : mec.toNat = msg.slots) : Pending (consume { ch with shm := shm } mec) rest := by
  have next := consume_pending pending count
  have slot := pending.slot
  have some := msg.some_slots
  have room := pending.room
  rw [totalSlots_cons] at room
  have readptr : ∀ x, x < 0x41020 ∨ 0x41024 ≤ x →
      (consume { ch with shm := shm } mec).shm x = shm x := by
    intro x outside
    simp only [consume, msgqSetReadptr, pending.lay, layout_msgq]
    exact st32_outside _ _ _ _ outside
  refine ⟨pending.lay, next.slot, ?_, ?_, next.room⟩
  · have holds := next.holds
    rw [consume_rptr pending count] at holds
    have moved : (consume { ch with shm := shm } mec).msgqRptr.toNat =
        msgqRing.advance ch.msgqRptr.toNat msg.slots := consume_rptr pending count
    rw [moved]
    apply SlotRing.holds_ahead holds slot (show msg.slots + totalSlots rest ≤ 63 by omega)
    intro x low high far
    rw [ring_base] at low
    rw [readptr x (by omega), consume_outside pending x (by omega)]
    apply patched
    by_contra inside
    -- A byte of the patched page is in the message that is gone, not in one behind it.
    have here : x =
        msgqRing.addr ch.msgqRptr.toNat (x - (0x42000 + 0x1000 * ch.msgqRptr.toNat)) := by
      rw [SlotRing.addr_linear (by rw [ring_capacity]; show 0x1000 * _ + _ < _; omega), ring_base]
      show x = 0x42000 + 0x1000 * _ + _
      omega
    rw [here, SlotRing.distance_self (by rw [ring_capacity]; omega) slot] at far
    change 0x1000 * msg.slots ≤ _ at far
    omega
  · have kept : ld32 (consume { ch with shm := shm } mec).shm 0x41010 =
        ld32 (consume ch mec).shm 0x41010 := by
      apply ld32_congr
      intro i below
      rw [readptr _ (by omega), consume_outside pending _ (by omega), patched _ (by omega)]
    have before := next.wptr
    have lay : (consume { ch with shm := shm } mec).lay = nvGspShmCompute := pending.lay
    rw [writeptr_eq _ next.lay] at before
    rw [writeptr_eq _ lay, kept, before]
    rfl

/-- One turn of the receive loop on a queue that is not empty. -/
theorem recv_turn (fn cap : UInt32) {wptr : UInt32}
    (published : wptr.toNat = msgqRing.advance ch.msgqRptr.toNat (totalSlots (msg :: rest))) :
    recvTurn fn cap wptr ch =
      if msg.function = fn then
        if ch.msgqRptr.toNat + msg.slots ≤ 63 then
          .stop (.ok (msg.payload cap) msg.payloadLen msg.result,
            consume ch (ld32 msg.bytes nvGspMsgElemcountOff))
        else .stop (.bounds, ch)
      else .again (consume ch (ld32 msg.bytes nvGspMsgElemcountOff)) := by
  have slot := pending.slot
  have room := pending.room
  have total := totalSlots_cons msg rest
  have some := msg.some_slots
  have few := msg.few_slots
  have count := msg.count
  have nonempty : ch.msgqRptr ≠ wptr := by
    intro same
    rw [← same, advance_eq] at published
    omega
  have mecField := head_field pending (f := nvGspMsgElemcountOff) (by decide)
  have fnField := head_field pending (f := nvGspRpcHdrOff + nvGspRpcFFunction) (by decide)
  have lenField := head_field pending (f := nvGspRpcHdrOff + nvGspRpcFLength) (by decide)
  have resField := head_field pending (f := nvGspRpcHdrOff + 16) (by decide)
  rw [← Nat.add_assoc] at fnField lenField resField
  change _ = msg.function at fnField
  change _ = msg.result at resField
  have plen : ld32 msg.bytes (nvGspRpcHdrOff + nvGspRpcFLength) - nvGspRpcHdrSize =
      msg.payloadLen := rfl
  -- A message of the GSP passes the checks of its own header.
  have sane : ¬ (ld32 msg.bytes nvGspMsgElemcountOff = 0 ∨
      ld32 msg.bytes nvGspMsgElemcountOff > ch.lay.msgCount) := by
    rw [pending.lay]
    exact count_sane msg
  have long : ld32 msg.bytes (nvGspRpcHdrOff + nvGspRpcFLength) ≥ nvGspRpcHdrSize := by
    rw [ge_iff_le, UInt32.le_iff_toNat_le]
    exact msg.header
  simp only [recvTurn, if_neg nonempty, mecField, fnField, lenField, resField, if_neg sane,
    if_pos long, plen]
  by_cases mine : msg.function = fn
  · rw [if_pos mine, if_pos mine]
    -- Only an answer that runs past the last slot is refused.
    have exceeds : ch.msgqRptr + ld32 msg.bytes nvGspMsgElemcountOff > ch.lay.msgCount ↔
        ¬ ch.msgqRptr.toNat + msg.slots ≤ 63 := by
      rw [pending.lay, layout_count, gt_iff_lt, UInt32.lt_iff_toNat_lt, UInt32.toNat_add, count]
      simp only [UInt32.reduceToNat]
      omega
    by_cases fits : ch.msgqRptr.toNat + msg.slots ≤ 63
    · rw [if_pos fits, if_neg (fun hit => exceeds.mp hit fits)]
      have copied : (List.range (if msg.payloadLen < cap then msg.payloadLen else cap).toNat).map
          (fun i => ch.shm (entryAddr ch.lay.msgqOff.toNat ch.msgqRptr + nvGspRpcPayloadOff + i)) =
          msg.payload cap := by
        rw [Words.lesser_toNat, Msg.payload]
        apply List.map_congr_left
        intro i member
        have below := List.mem_range.mp member
        have extent := msg.extent
        have length := msg.payloadLen_toNat
        rw [Nat.add_assoc]
        exact head_byte pending (by simp only [nvGspRpcPayloadOff]; omega)
          (by simp only [nvGspRpcPayloadOff]; omega)
      exact congrArg (fun reply => Turn.stop (Poll.ok reply msg.payloadLen msg.result,
        consume ch (ld32 msg.bytes nvGspMsgElemcountOff))) copied
    · rw [if_neg fits, if_pos (exceeds.mpr fits)]
  · rw [if_neg mine, if_neg mine]

end Head

/-! One poll. -/

def Foreign (fn : UInt32) (msgs : List Msg) : Prop := ∀ msg ∈ msgs, msg.function ≠ fn

/-- The driver went past `gone` and changed nothing but its read pointer, which
it publishes. -/
structure Consumed (ch : NvGspRpcChan) (gone : List Msg) (after : NvGspRpcChan) : Prop where
  lay : after.lay = ch.lay
  cmdqWptr : after.cmdqWptr = ch.cmdqWptr
  seq : after.seq = ch.seq
  rptr : after.msgqRptr.toNat = msgqRing.advance ch.msgqRptr.toNat (totalSlots gone)
  published : (gone = [] ∧ after = ch) ∨ ld32 after.shm 0x41020 = after.msgqRptr
  frame : ∀ x, x < 0x41020 ∨ 0x41024 ≤ x → after.shm x = ch.shm x

theorem consume_publishes {ch : NvGspRpcChan} (lay : ch.lay = nvGspShmCompute) (mec : UInt32) :
    ld32 (consume ch mec).shm 0x41020 = (consume ch mec).msgqRptr := by
  simp only [consume, msgqSetReadptr, lay, layout_msgq]
  exact ld32_st32 _ _ _

theorem consumed_nil {ch : NvGspRpcChan} (slot : ch.msgqRptr.toNat < 63) : Consumed ch [] ch := by
  refine ⟨rfl, rfl, rfl, ?_, Or.inl ⟨rfl, rfl⟩, fun _ _ => rfl⟩
  rw [advance_eq]
  exact (Nat.mod_eq_of_lt slot).symm

theorem consumed_cons {ch after : NvGspRpcChan} {msg : Msg} {rest gone : List Msg} {mec : UInt32}
    (pending : Pending ch (msg :: rest)) (count : mec.toNat = msg.slots)
    (later : Consumed (consume ch mec) gone after) : Consumed ch (msg :: gone) after := by
  refine ⟨later.lay, later.cmdqWptr, later.seq, ?_, Or.inr ?_, fun x outside => ?_⟩
  · rw [later.rptr, consume_rptr pending count, SlotRing.advance_add, totalSlots_cons]
  · rcases later.published with ⟨_, rfl⟩ | published
    · exact consume_publishes pending.lay mec
    · exact published
  · rw [later.frame x outside]
    exact consume_outside pending x outside

/-- How a poll treats the unread messages. -/
inductive PollSpec (fn cap : UInt32) (ch : NvGspRpcChan) (msgs : List Msg) :
    Poll × NvGspRpcChan → Prop
  | drained (after : NvGspRpcChan) (foreign : Foreign fn msgs) (pending : Pending after [])
      (consumed : Consumed ch msgs after) : PollSpec fn cap ch msgs (.drained, after)
  | ok (before rest : List Msg) (msg : Msg) (after : NvGspRpcChan)
      (split : msgs = before ++ msg :: rest) (foreign : Foreign fn before)
      (mine : msg.function = fn)
      (fits : msgqRing.advance ch.msgqRptr.toNat (totalSlots before) + msg.slots ≤ 63)
      (pending : Pending after rest) (consumed : Consumed ch (before ++ [msg]) after) :
      PollSpec fn cap ch msgs (.ok (msg.payload cap) msg.payloadLen msg.result, after)
  | bounds (before rest : List Msg) (msg : Msg) (after : NvGspRpcChan)
      (split : msgs = before ++ msg :: rest) (foreign : Foreign fn before)
      (mine : msg.function = fn)
      (wraps : 63 < msgqRing.advance ch.msgqRptr.toNat (totalSlots before) + msg.slots)
      (pending : Pending after (msg :: rest)) (consumed : Consumed ch before after) :
      PollSpec fn cap ch msgs (.bounds, after)

theorem poll_skip {fn cap : UInt32} {ch : NvGspRpcChan} {msg : Msg} {rest : List Msg}
    {mec : UInt32} (pending : Pending ch (msg :: rest)) (count : mec.toNat = msg.slots)
    (other : msg.function ≠ fn) {outcome : Poll × NvGspRpcChan}
    (later : PollSpec fn cap (consume ch mec) rest outcome) :
    PollSpec fn cap ch (msg :: rest) outcome := by
  have moved := consume_rptr pending count
  have skipped : ∀ msgs, Foreign fn msgs → Foreign fn (msg :: msgs) := by
    intro msgs foreign next member
    rcases List.mem_cons.mp member with same | tail
    · exact same ▸ other
    · exact foreign next tail
  cases later with
  | drained after foreign left consumed =>
      exact .drained after (skipped rest foreign) left (consumed_cons pending count consumed)
  | ok before tail mine after split foreign match_ fits left consumed =>
      rw [moved, SlotRing.advance_add, ← totalSlots_cons] at fits
      exact .ok (msg :: before) tail mine after (by rw [split]; rfl) (skipped before foreign)
        match_ fits left (consumed_cons pending count consumed)
  | bounds before tail mine after split foreign match_ wraps left consumed =>
      rw [moved, SlotRing.advance_add, ← totalSlots_cons] at wraps
      exact .bounds (msg :: before) tail mine after (by rw [split]; rfl) (skipped before foreign)
        match_ wraps left (consumed_cons pending count consumed)

theorem advance_zero {r : Nat} (slot : r < 63) : msgqRing.advance r (totalSlots []) = r :=
  Nat.mod_eq_of_lt slot

theorem scan_spec (fn cap wptr : UInt32) (msgs : List Msg) (fuel : Nat) (ch : NvGspRpcChan)
    (pending : Pending ch msgs) (enough : msgs.length < fuel)
    (published : wptr.toNat = msgqRing.advance ch.msgqRptr.toNat (totalSlots msgs)) :
    ∃ outcome, whileFuel (recvTurn fn cap wptr) fuel ch = some outcome ∧
      PollSpec fn cap ch msgs outcome := by
  -- Each turn takes a message off the queue, or ends.
  induction msgs generalizing fuel ch with
  | nil =>
      obtain ⟨fuel, rfl⟩ := Nat.exists_eq_succ_of_ne_zero (Nat.ne_of_gt enough)
      have empty : ch.msgqRptr = wptr := by
        apply UInt32.toNat_inj.mp
        rw [published, advance_zero pending.slot]
      refine ⟨(.drained, ch), ?_, .drained ch (by simp [Foreign]) pending
        (consumed_nil pending.slot)⟩
      rw [whileFuel, recvTurn, if_pos empty]
  | cons msg rest ih =>
      obtain ⟨fuel, rfl⟩ := Nat.exists_eq_succ_of_ne_zero (Nat.ne_of_gt (Nat.zero_lt_of_lt enough))
      have turn := recv_turn pending fn cap published
      have here := advance_zero pending.slot
      rw [whileFuel, turn]
      by_cases mine : msg.function = fn
      · rw [if_pos mine]
        by_cases fits : ch.msgqRptr.toNat + msg.slots ≤ 63
        · rw [if_pos fits]
          refine ⟨_, rfl, .ok [] rest msg _ rfl (by simp [Foreign]) mine (by rwa [here])
            (consume_pending pending msg.count) ?_⟩
          have moved := consumed_nil (consume_pending pending msg.count).slot
          exact consumed_cons pending msg.count moved
        · rw [if_neg fits]
          exact ⟨_, rfl, .bounds [] rest msg ch rfl (by simp [Foreign]) mine
            (by rw [here]; omega) pending (consumed_nil pending.slot)⟩
      · rw [if_neg mine]
        have next := consume_pending pending msg.count
        obtain ⟨outcome, ended, spec⟩ := ih fuel _ next (by simp at enough; omega) (by
          rw [published, consume_rptr pending msg.count, SlotRing.advance_add, totalSlots_cons])
        exact ⟨outcome, ended, poll_skip pending msg.count mine spec⟩

theorem length_le_slots (msgs : List Msg) : msgs.length ≤ totalSlots msgs := by
  induction msgs with
  | nil => exact Nat.zero_le _
  | cons msg rest ih =>
      have some := msg.some_slots
      rw [totalSlots_cons, List.length_cons]
      omega

/-- A poll ends and treats the queue as `PollSpec` says. -/
theorem poll_spec (fn cap : UInt32) {ch : NvGspRpcChan} {msgs : List Msg}
    (pending : Pending ch msgs) :
    ∃ outcome, recvPoll fn cap ch = some outcome ∧ PollSpec fn cap ch msgs outcome := by
  have room := pending.room
  have length := length_le_slots msgs
  have fuel : ch.lay.msgCount.toNat + 1 = 64 := by
    rw [pending.lay, layout_count]
    rfl
  rw [recvPoll, fuel]
  exact scan_spec fn cap _ msgs 64 ch pending (by omega) pending.wptr

theorem poll_behind {fn cap : UInt32} {ch : NvGspRpcChan} {msgs : List Msg}
    {outcome : Poll × NvGspRpcChan} (spec : PollSpec fn cap ch msgs outcome) :
    ∃ gone rest, msgs = gone ++ rest ∧ Pending outcome.2 rest ∧ Consumed ch gone outcome.2 := by
  cases spec with
  | drained after foreign pending consumed =>
      exact ⟨msgs, [], (List.append_nil msgs).symm, pending, consumed⟩
  | ok before rest msg after split foreign mine fits pending consumed =>
      exact ⟨before ++ [msg], rest, by rw [split, List.append_cons], pending, consumed⟩
  | bounds before rest msg after split foreign mine wraps pending consumed =>
      exact ⟨before, msg :: rest, split, pending, consumed⟩

theorem same_front {front back front' back' : List Msg} (same : front ++ back = front' ++ back')
    (total : totalSlots front = totalSlots front') : front.length = front'.length := by
  have empty : totalSlots [] = 0 := rfl
  induction front generalizing front' with
  | nil =>
      cases front' with
      | nil => rfl
      | cons msg rest =>
          have some := msg.some_slots
          rw [totalSlots_cons, empty] at total
          omega
  | cons msg rest ih =>
      cases front' with
      | nil =>
          have some := msg.some_slots
          rw [totalSlots_cons, empty] at total
          omega
      | cons msg' rest' =>
          obtain ⟨heads, tails⟩ := List.cons.inj same
          rw [totalSlots_cons, totalSlots_cons, heads] at total
          exact congrArg (· + 1) (ih tails (by omega))

/-- The read pointer tells how many messages are gone. -/
theorem advance_length {r : Nat} {gone gone' rest rest' : List Msg}
    (same : gone ++ rest = gone' ++ rest') (room : totalSlots (gone ++ rest) < 63)
    (pointer : msgqRing.advance r (totalSlots gone) = msgqRing.advance r (totalSlots gone')) :
    gone.length = gone'.length := by
  apply same_front same
  have room' := room
  rw [same, totalSlots_append] at room'
  rw [totalSlots_append] at room
  rw [advance_eq, advance_eq] at pointer
  omega

/-! The producer. -/

def placeMsg (m : Mem) (w : Nat) (msg : Msg) : Mem :=
  st32 (msgqRing.put m w msg.item) 0x41010 (UInt32.ofNat (msgqRing.advance w msg.slots))

/-- Messages placed one after another from slot `w`. -/
def placeAll (m : Mem) (w : Nat) : List Msg → Mem
  | [] => m
  | msg :: rest => placeAll (placeMsg m w msg) (msgqRing.advance w msg.slots) rest

theorem place_pending {ch : NvGspRpcChan} {msgs : List Msg} (pending : Pending ch msgs) (msg : Msg)
    (room : totalSlots msgs + msg.slots < 63) :
    Pending { ch with
      shm := placeMsg ch.shm (msgqRing.advance ch.msgqRptr.toNat (totalSlots msgs)) msg }
      (msgs ++ [msg]) := by
  have total : totalSlots (msgs ++ [msg]) = totalSlots msgs + msg.slots := by
    rw [totalSlots_append, totalSlots_cons]
    rfl
  have put := SlotRing.holds_put msg.item pending.holds (by
    change totalSlots msgs + msg.slots ≤ 63
    omega)
  refine ⟨pending.lay, pending.slot, ?_, ?_, by omega⟩
  · rw [List.map_append]
    apply SlotRing.holds_congr put
    intro x above _
    rw [ring_base] at above
    exact st32_outside _ _ _ _ (by omega)
  · change (nvGspMsgqWriteptr (st32 _ 0x41010 _) ch.lay).toNat =
      msgqRing.advance ch.msgqRptr.toNat _
    have small : msgqRing.advance ch.msgqRptr.toNat (totalSlots msgs + msg.slots) <
        msgqRing.slots := SlotRing.advance_lt _ _
    have slots : msgqRing.slots = 63 := rfl
    rw [writeptr_eq _ pending.lay, ld32_st32, SlotRing.advance_add, total, UInt32.toNat_ofNat',
      Nat.mod_eq_of_lt (by omega)]

theorem placeAll_pending {ch : NvGspRpcChan} {msgs : List Msg} (pending : Pending ch msgs)
    (more : List Msg) (room : totalSlots msgs + totalSlots more < 63) :
    Pending { ch with
      shm := placeAll ch.shm (msgqRing.advance ch.msgqRptr.toNat (totalSlots msgs)) more }
      (msgs ++ more) := by
  induction more generalizing ch msgs with
  | nil => simpa [placeAll] using pending
  | cons msg rest ih =>
      rw [totalSlots_cons] at room
      have placed := place_pending pending msg (by omega)
      have total : totalSlots (msgs ++ [msg]) = totalSlots msgs + msg.slots := by
        rw [totalSlots_append, totalSlots_cons]
        rfl
      have tail := ih placed (by omega)
      rw [total, ← SlotRing.advance_add] at tail
      rw [List.append_cons]
      exact tail

end GspDriver.MsgQueue
