import GspDriver.GspDrain
import GspDriver.RpcCorrelation

/-!
The two consumers of the message queue and the sequencer requests among the
messages. The drain loop of the bring-up runs the sequencer for every request
it goes past; a later call goes past a request as past any other event. So the
requests that the GSP posts are executed once each and in order as long as no
call meets one.
-/

namespace GspDriver.SequencerRequests

open Bytes LittleEndian Loop RingQueue GspRpc GspRm MsgQueue CmdqFrame RpcDelivery Falcon
  CpuSequencer GspDrain

open RpcCorrelation (Call quiet turnOf turnOutcome turn_spec statusReply)

def Asks (msg : Msg) : Prop := msg.function = nvVgpuMsgEventGspRunCpuSequencer

instance : DecidablePred Asks := fun msg => inferInstanceAs (Decidable (msg.function = _))

def requests (msgs : List Msg) : List Msg := msgs.filter fun msg => Asks msg

/-- The sequencer was given the message: its first page, as it was in the queue. -/
def Given (view : Mem) (msg : Msg) : Prop := ∀ o < 0x1000, view o = msg.bytes o

abbrev chanOf (d : Drain) : NvGspRpcChan := handOver nvGspShmCompute d

/-! One poll of the drain loop. -/

section Drain

variable {turns spins : Nat} {c : SeqCtx}

/-- What a drain did: it went past `gone` and ran the sequencer for the requests in it. -/
structure Drained (d : Drain) (gone rest : List Msg) (after : Drain) : Prop where
  pending : Pending (chanOf after) rest
  rptr : after.rptr.toNat = msgqRing.advance d.rptr.toNat (totalSlots gone)
  ran : ∃ views, after.ran = d.ran ++ views ∧ List.Forall₂ Given views (requests gone)
  cmdq : ∀ x < 0x41020, after.shm x = d.shm x

theorem drained_nil {d : Drain} {msgs : List Msg} (pending : Pending (chanOf d) msgs) :
    Drained d [] msgs d := by
  refine ⟨pending, ?_, ⟨[], (List.append_nil _).symm, .nil⟩, fun _ _ => rfl⟩
  exact (Nat.mod_eq_of_lt pending.slot).symm

/-- Going past the head once the dispatch has run, which writes to its own page alone. -/
theorem consume_drained {d ran : Drain} {msg : Msg} {rest : List Msg} {views : List Mem}
    (pending : Pending (chanOf d) (msg :: rest)) (kept : ran.rptr = d.rptr)
    (patched : ∀ x, x < 0x42000 + 0x1000 * d.rptr.toNat ∨
      0x42000 + 0x1000 * d.rptr.toNat + 0x1000 ≤ x → ran.shm x = d.shm x)
    (recorded : ran.ran = d.ran ++ views) (given : List.Forall₂ Given views (requests [msg]))
    {mec : UInt32} (count : mec.toNat = msg.slots) {lay : NvGspShmLayout}
    (layout : lay = nvGspShmCompute) : Drained d [msg] rest (drainConsume lay mec ran) := by
  have some := msg.some_slots
  have went := consume_patched pending patched count
  have moved := consume_rptr pending count
  have pointer : (drainConsume lay mec ran).rptr = (consume (chanOf d) mec).msgqRptr := by
    simp only [drainConsume, consume, layout, kept]
    rfl
  have memory : (drainConsume lay mec ran).shm =
      (consume { chanOf d with shm := ran.shm } mec).shm := by
    simp only [drainConsume, consume, layout, kept]
    rfl
  constructor
  · exact pending_congr went went.lay.symm pointer fun x _ => congrFun memory x
  · rw [pointer, moved, totalSlots_cons]
    rfl
  · exact ⟨views, recorded, given⟩
  · intro x below
    rw [drainConsume, msgqSetReadptr, layout, layout_msgq]
    refine (st32_outside _ _ _ _ (Or.inl below)).trans (patched x ?_)
    omega

theorem dispatch_got {d : Drain} {e : Nat} {lay : NvGspShmLayout} {mec : UInt32} :
    (drainConsume lay mec (dispatch turns spins c e d)).got = d.got := by
  rw [drainConsume, dispatch]
  split
  · rfl
  · rfl

theorem dispatch_given {d : Drain} {msg : Msg} {e : Nat} (function : d.lastFn = msg.function)
    (page : ∀ o < 0x1000, d.shm (e + o) = msg.bytes o) :
    ∃ views, (dispatch turns spins c e d).ran = d.ran ++ views ∧
      List.Forall₂ Given views (requests [msg]) := by
  by_cases asks : Asks msg
  · have one : requests [msg] = [msg] := List.filter_cons_of_pos (decide_eq_true asks)
    refine ⟨[fun o => d.shm (e + o)], ?_, ?_⟩
    · rw [dispatch, if_pos (function.trans asks)]
    · rw [one]
      exact .cons page .nil
  · have none : requests [msg] = [] := List.filter_cons_of_neg (by simpa using asks)
    refine ⟨[], ?_, ?_⟩
    · rw [dispatch, if_neg fun same => asks (function.symm.trans same), List.append_nil]
    · rw [none]
      exact .nil

/-- One turn on a queue that is not empty goes past one message. -/
theorem drain_turn {d : Drain} {msg : Msg} {rest : List Msg} {wptr : UInt32}
    (pending : Pending (chanOf d) (msg :: rest))
    (published : wptr.toNat = msgqRing.advance d.rptr.toNat (totalSlots (msg :: rest))) :
    ∃ after, Drained d [msg] rest after ∧ after.got = d.got ∧
      drainTurn turns spins c nvGspShmCompute wptr d =
        if msg.function = nvVgpuMsgEventGspInitDone then .stop { after with got := true }
        else .again after := by
  have slot : d.rptr.toNat < 63 := pending.slot
  have some := msg.some_slots
  have few := msg.few_slots
  have count := msg.count
  have total := totalSlots_cons msg rest
  have room := pending.room
  have nonempty : d.rptr ≠ wptr := by
    intro same
    rw [← same, advance_eq] at published
    omega
  have page : ∀ o < 0x1000, d.shm (entryAddr nvGspShmCompute.msgqOff.toNat d.rptr + o) =
      msg.bytes o := fun o inside =>
    head_byte pending (by omega) (show 0x1000 * d.rptr.toNat + o < 0x3f000 by omega)
  have mecField : ld32 d.shm (entryAddr nvGspShmCompute.msgqOff.toNat d.rptr +
      nvGspMsgElemcountOff) = ld32 msg.bytes nvGspMsgElemcountOff := head_field pending (by decide)
  have fnField : ld32 d.shm (entryAddr nvGspShmCompute.msgqOff.toNat d.rptr +
      nvGspRpcHdrOff + nvGspRpcFFunction) = msg.function := by
    rw [Nat.add_assoc]
    exact head_field pending (by decide)
  have place := entry_place d.rptr
  obtain ⟨views, recorded, given⟩ := @dispatch_given turns spins c
    { d with lastFn := msg.function, msgs := d.msgs + 1 } msg _ rfl page
  -- Running the commands may write into the message's own page, and nowhere else.
  have patched : ∀ x, x < 0x42000 + 0x1000 * d.rptr.toNat ∨
      0x42000 + 0x1000 * d.rptr.toNat + 0x1000 ≤ x →
      (dispatch turns spins c (entryAddr nvGspShmCompute.msgqOff.toNat d.rptr)
        { d with lastFn := msg.function, msgs := d.msgs + 1 }).shm x = d.shm x :=
    fun x outside => dispatch_outside (by rw [place]; omega)
  have kept : (dispatch turns spins c (entryAddr nvGspShmCompute.msgqOff.toNat d.rptr)
      { d with lastFn := msg.function, msgs := d.msgs + 1 }).rptr = d.rptr := dispatch_rptr
  refine ⟨_, consume_drained pending kept patched recorded given count rfl, dispatch_got, ?_⟩
  simp only [drainTurn, if_neg nonempty, mecField, fnField, if_neg (count_sane msg)]

theorem drained_cons {d mid after : Drain} {msg : Msg} {gone rest : List Msg}
    (first : Drained d [msg] (gone ++ rest) mid) (later : Drained mid gone rest after) :
    Drained d (msg :: gone) rest after := by
  obtain ⟨views, here, given⟩ := first.ran
  obtain ⟨more, there, others⟩ := later.ran
  refine ⟨later.pending, ?_, ⟨views ++ more, ?_, ?_⟩, fun x below => ?_⟩
  · have front := first.rptr
    rw [totalSlots_cons] at front
    rw [later.rptr, front, SlotRing.advance_add, totalSlots_cons]
    rfl
  · rw [there, here, List.append_assoc]
  · have split : requests (msg :: gone) = requests [msg] ++ requests gone :=
      List.filter_append [msg] gone
    rw [split]
    exact List.rel_append given others
  · rw [later.cmdq x below, first.cmdq x below]

def IsInitDone (msg : Msg) : Prop := msg.function = nvVgpuMsgEventGspInitDone

/-- How a poll ends: it has emptied the queue, or it stopped at the first GSP_INIT_DONE. -/
def Ends (d : Drain) (gone rest : List Msg) (after : Drain) : Prop :=
  (rest = [] ∧ after.got = d.got ∧ ∀ msg ∈ gone, ¬ IsInitDone msg) ∨
    (after.got = true ∧ ∃ before last, gone = before ++ [last] ∧ IsInitDone last ∧
      ∀ msg ∈ before, ¬ IsInitDone msg)

theorem ends_cons {d mid after : Drain} {msg : Msg} {gone rest : List Msg} (same : mid.got = d.got)
    (other : ¬ IsInitDone msg) (later : Ends mid gone rest after) :
    Ends d (msg :: gone) rest after := by
  rcases later with ⟨empty, got, none⟩ | ⟨got, before, last, split, done, none⟩
  · exact Or.inl ⟨empty, got.trans same, List.forall_mem_cons.mpr ⟨other, none⟩⟩
  · exact Or.inr ⟨got, msg :: before, last, by rw [split]; rfl, done,
      List.forall_mem_cons.mpr ⟨other, none⟩⟩

theorem drain_scan {wptr : UInt32} (msgs : List Msg) (fuel : Nat) {d : Drain}
    (pending : Pending (chanOf d) msgs) (enough : msgs.length < fuel)
    (published : wptr.toNat = msgqRing.advance d.rptr.toNat (totalSlots msgs)) :
    ∃ after gone rest, whileFuel (drainTurn turns spins c nvGspShmCompute wptr) fuel d = some after ∧
      msgs = gone ++ rest ∧ Drained d gone rest after ∧ Ends d gone rest after := by
  induction msgs generalizing fuel d with
  | nil =>
      obtain ⟨fuel, rfl⟩ := Nat.exists_eq_succ_of_ne_zero (Nat.ne_of_gt enough)
      have empty : d.rptr = wptr := by
        apply UInt32.toNat_inj.mp
        rw [published]
        exact (Nat.mod_eq_of_lt pending.slot).symm
      refine ⟨d, [], [], ?_, rfl, drained_nil pending, Or.inl ⟨rfl, rfl, by simp⟩⟩
      rw [whileFuel, drainTurn, if_pos empty]
  | cons msg rest ih =>
      obtain ⟨fuel, rfl⟩ := Nat.exists_eq_succ_of_ne_zero (Nat.ne_of_gt (Nat.zero_lt_of_lt enough))
      obtain ⟨mid, went, same, turn⟩ := @drain_turn turns spins c d msg rest wptr pending published
      rw [whileFuel, turn]
      by_cases done : msg.function = nvVgpuMsgEventGspInitDone
      · rw [if_pos done]
        refine ⟨{ mid with got := true }, [msg], rest, rfl, rfl, ?_, ?_⟩
        · exact ⟨went.pending, went.rptr, went.ran, went.cmdq⟩
        · exact Or.inr ⟨rfl, [], msg, rfl, done, by simp⟩
      · rw [if_neg done]
        have front := went.rptr
        obtain ⟨after, gone, left, ended, split, later, ends⟩ :=
          ih fuel went.pending (by simp at enough; omega) (by
            rw [published, front, SlotRing.advance_add, totalSlots_cons, totalSlots_cons]
            rfl)
        refine ⟨after, msg :: gone, left, ended, by rw [split]; rfl, ?_, ends_cons same done ends⟩
        exact drained_cons (split ▸ went) later

theorem drain_poll {d : Drain} {msgs : List Msg} (pending : Pending (chanOf d) msgs) :
    ∃ after gone rest, drainPoll turns spins c nvGspShmCompute d = some after ∧
      msgs = gone ++ rest ∧ Drained d gone rest after ∧ Ends d gone rest after := by
  have room := pending.room
  have length := length_le_slots msgs
  have fuel : nvGspShmCompute.msgCount.toNat + 1 = 64 := by
    rw [layout_count]
    rfl
  rw [drainPoll, fuel]
  exact drain_scan msgs 64 pending (by omega) pending.wptr

end Drain

/-! The two consumers, one after the other. -/

/-- `w` is the channel's state once the drain has handed it over; `drained` and
`called` are the messages that the two consumers went past. -/
structure System where
  drain : Drain
  w : Option Waiting
  call : Option Call
  sent : Nat
  queue : List Msg
  drained : List Msg
  called : List Msg

def System.chan (s : System) : NvGspRpcChan :=
  match s.w with
  | none => chanOf s.drain
  | some w => w.ch

def System.post (s : System) (msg : Msg) : System :=
  match s.w with
  | none => { s with
      drain := { s.drain with shm := placeMsg s.drain.shm (ld32 s.drain.shm 0x41010).toNat msg }
      queue := s.queue ++ [msg] }
  | some w => { s with
      w := some { w with ch := { w.ch with
        shm := placeMsg w.ch.shm (ld32 w.ch.shm 0x41010).toNat msg } }
      queue := s.queue ++ [msg] }

def System.begin (s : System) (w : Waiting) (fn : UInt32) (req : Payload)
    (reqLen cap timeoutUs : UInt32) : System :=
  { s with
    w := some { poll := 0, waited := 0, ch := rpcSend w.ch fn req reqLen }
    call := some { fn, cap, timeoutUs := if timeoutUs = 0 then 4000000 else timeoutUs, own := s.sent }
    sent := s.sent + 1 }

inductive Label where
  | post
  | drain
  | handOver
  | send
  | turn

/-- The messages that a pointer has moved past. -/
structure Split (queue gone rest : List Msg) (before after : UInt32) : Prop where
  split : queue = gone ++ rest
  pointer : after.toNat = msgqRing.advance before.toNat (totalSlots gone)

inductive Step (turns spins : Nat) (c : SeqCtx) : Label → System → System → Prop
  | post (s : System) (msg : Msg) (room : totalSlots s.queue + msg.slots < 63) :
      Step turns spins c .post s (s.post msg)
  | drain (s : System) (after : Drain) (gone rest : List Msg) (draining : s.w = none)
      (waiting : s.drain.got = false)
      (polled : drainPoll turns spins c nvGspShmCompute s.drain = some after)
      (split : Split s.queue gone rest s.drain.rptr after.rptr) :
      Step turns spins c .drain s
        { s with drain := after, queue := rest, drained := s.drained ++ gone }
  | handOver (s : System) (draining : s.w = none) (got : s.drain.got = true) :
      Step turns spins c .handOver s { s with w := some ⟨0, 0, chanOf s.drain⟩ }
  | send (s : System) (w : Waiting) (fn : UInt32) (req : Payload) (reqLen cap timeoutUs : UInt32)
      (active : s.w = some w) (idle : s.call = none) (fits : Fits w.ch req reqLen) :
      Step turns spins c .send s (s.begin w fn req reqLen cap timeoutUs)
  | again (s : System) (w next : Waiting) (call : Call) (gone rest : List Msg)
      (active : s.w = some w) (busy : s.call = some call) (turned : turnOf call w = .again next)
      (split : Split s.queue gone rest w.ch.msgqRptr next.ch.msgqRptr) :
      Step turns spins c .turn s
        { s with w := some next, queue := rest, called := s.called ++ gone }
  | return (s : System) (w : Waiting) (call : Call) (result : RpcReturn) (ch : NvGspRpcChan)
      (gone rest : List Msg) (active : s.w = some w) (busy : s.call = some call)
      (turned : turnOf call w = .stop (some (result, ch)))
      (split : Split s.queue gone rest w.ch.msgqRptr ch.msgqRptr) :
      Step turns spins c .turn s
        { s with
          w := some { w with ch := ch }
          call := none
          queue := rest
          called := s.called ++ gone }

/-- No turn of a call can meet a sequencer request before it returns. -/
def Clean (s : System) : Prop :=
  ∀ call, s.call = some call → ∀ before msg rest, s.queue = before ++ msg :: rest →
    Foreign call.fn before → ¬ Asks msg

section Runs

variable (turns spins : Nat) (c : SeqCtx)

def Reaches : System → System → Prop :=
  Relation.ReflTransGen fun s t => ∃ label, Step turns spins c label s t

def CleanReaches : System → System → Prop :=
  Relation.ReflTransGen fun s t => ∃ label, Step turns spins c label s t ∧ (label = .turn → Clean s)

end Runs

/-- The sequencer has run once for each request that was consumed, in queue order. -/
def Executed (s : System) : Prop :=
  List.Forall₂ Given s.drain.ran (requests (s.drained ++ s.called))

structure Fresh (s : System) : Prop where
  pending : Pending (chanOf s.drain) s.queue
  slot : (chanOf s.drain).cmdqWptr.toNat < msgCount
  draining : s.w = none
  idle : s.call = none
  ran : s.drain.ran = []
  drained : s.drained = []
  called : s.called = []

structure Inv (s : System) : Prop where
  pending : Pending s.chan s.queue
  slot : s.chan.cmdqWptr.toNat < msgCount
  ran : List.Forall₂ Given s.drain.ran (requests s.drained)

theorem fresh_inv {s : System} (fresh : Fresh s) : Inv s := by
  have chan : s.chan = chanOf s.drain := by rw [System.chan, fresh.draining]
  refine ⟨chan ▸ fresh.pending, chan ▸ fresh.slot, ?_⟩
  rw [fresh.ran, fresh.drained]
  exact .nil

theorem requests_append (front back : List Msg) :
    requests (front ++ back) = requests front ++ requests back :=
  List.filter_append front back

theorem requests_none {msgs : List Msg} : requests msgs = [] ↔ ∀ msg ∈ msgs, ¬ Asks msg := by
  simp [requests, List.filter_eq_nil_iff]

/-- The read pointer tells what a consumer went past. -/
theorem split_unique {queue gone rest gone' rest' : List Msg} {before after : UInt32}
    (room : totalSlots queue < 63) (split : Split queue gone rest before after)
    (other : queue = gone' ++ rest')
    (pointer : after.toNat = msgqRing.advance before.toNat (totalSlots gone')) :
    gone' = gone ∧ rest' = rest := by
  have same : gone' ++ rest' = gone ++ rest := other.symm.trans split.split
  have length := advance_length same (other ▸ room) (pointer.symm.trans split.pointer)
  exact List.append_inj same length

/-- All that a poll goes past, but the last message, is foreign to the call. -/
theorem poll_front {fn cap : UInt32} {ch : NvGspRpcChan} {msgs : List Msg}
    {outcome : Poll × NvGspRpcChan} (spec : PollSpec fn cap ch msgs outcome) :
    ∃ gone rest, msgs = gone ++ rest ∧ Pending outcome.2 rest ∧ Consumed ch gone outcome.2 ∧
      ∀ before msg later, gone = before ++ msg :: later → Foreign fn before := by
  have front : ∀ {foreign : List Msg}, Foreign fn foreign → ∀ before msg later,
      foreign = before ++ msg :: later → Foreign fn before := by
    intro foreign all before msg later split other member
    exact all other (split ▸ List.mem_append_left _ member)
  cases spec with
  | drained after foreign pending consumed =>
      exact ⟨msgs, [], (List.append_nil msgs).symm, pending, consumed, front foreign⟩
  | ok before rest msg after split foreign mine fits pending consumed =>
      refine ⟨before ++ [msg], rest, by rw [split, List.append_cons], pending, consumed, ?_⟩
      intro earlier other later same member inside
      -- what comes before a message of `before ++ [msg]` lies within `before`
      have dropped := congrArg List.dropLast same
      rw [List.dropLast_concat, List.dropLast_append_of_ne_nil (List.cons_ne_nil _ _)] at dropped
      exact foreign member (dropped ▸ List.mem_append_left _ inside)
  | bounds before rest msg after split foreign mine wraps pending consumed =>
      exact ⟨before, msg :: rest, split, pending, consumed, front foreign⟩

/-- The channel after a turn of a call. -/
def TurnsTo (call : Call) (w : Waiting) (ch : NvGspRpcChan) : Prop :=
  (∃ next, turnOf call w = .again next ∧ next.ch = ch) ∨
    ∃ result, turnOf call w = .stop (some (result, ch))

theorem turned_spec {call : Call} {w : Waiting} {msgs : List Msg} {ch : NvGspRpcChan}
    (pending : Pending w.ch msgs) (turned : TurnsTo call w ch) :
    ∃ poll, PollSpec call.fn call.cap w.ch msgs (poll, ch) := by
  obtain ⟨⟨poll, after⟩, spec, outcome⟩ := turn_spec call pending
  refine ⟨poll, ?_⟩
  have same : after = ch := by
    rcases turned with ⟨next, again, rfl⟩ | ⟨result, stop⟩
    · rw [outcome] at again
      cases poll with
      | ok => cases again
      | bounds => cases again
      | drained =>
          simp only [turnOutcome] at again
          split at again
          · cases again
          · cases again
            rfl
    · rw [outcome] at stop
      cases poll with
      | ok => cases stop; rfl
      | bounds => cases stop; rfl
      | drained =>
          simp only [turnOutcome] at stop
          split at stop
          · cases stop
            rfl
          · cases stop
  exact same ▸ spec

theorem turn_inv {call : Call} {w : Waiting} {queue gone rest : List Msg} {ch : NvGspRpcChan}
    (pending : Pending w.ch queue) (turned : TurnsTo call w ch)
    (split : Split queue gone rest w.ch.msgqRptr ch.msgqRptr) :
    Pending ch rest ∧ ch.cmdqWptr = w.ch.cmdqWptr ∧
      ∀ before msg later, gone = before ++ msg :: later → Foreign call.fn before := by
  obtain ⟨poll, spec⟩ := turned_spec pending turned
  obtain ⟨gone', rest', other, left, consumed, foreign⟩ := poll_front spec
  obtain ⟨rfl, rfl⟩ := split_unique pending.room split other consumed.rptr
  exact ⟨left, consumed.cmdqWptr, foreign⟩

theorem place_low {m : Mem} {w : Nat} {msg : Msg} {x : Nat} (low : x < 0x41010) :
    placeMsg m w msg x = m x := by
  rw [placeMsg, st32_outside _ _ _ _ (Or.inl low)]
  exact SlotRing.put_outside _ _ _ _ (Or.inl (by rw [ring_base]; omega))

theorem chanOf_cmdqWptr (d : Drain) : (chanOf d).cmdqWptr = ld32 d.shm 0x1010 := rfl

theorem post_inv {s : System} (inv : Inv s) (msg : Msg)
    (room : totalSlots s.queue + msg.slots < 63) : Inv (s.post msg) := by
  have wptr := inv.pending.wptr
  rw [writeptr_eq _ inv.pending.lay] at wptr
  have placed := place_pending inv.pending msg room
  rw [← wptr] at placed
  have slot := inv.slot
  cases phase : s.w with
  | none =>
      have chan : s.chan = chanOf s.drain := by rw [System.chan, phase]
      rw [chan] at placed slot
      refine ⟨?_, ?_, ?_⟩
      · simp only [System.post, System.chan, phase]
        exact pending_congr placed rfl rfl fun _ _ => rfl
      · simp only [System.post, System.chan, phase]
        rw [chanOf_cmdqWptr] at slot ⊢
        have same : ld32 (placeMsg s.drain.shm (ld32 s.drain.shm 0x41010).toNat msg) 0x1010 =
            ld32 s.drain.shm 0x1010 := ld32_congr fun i below => place_low (by omega)
        rw [same]
        exact slot
      · simp only [System.post, phase]
        exact inv.ran
  | some w =>
      have chan : s.chan = w.ch := by rw [System.chan, phase]
      rw [chan] at placed slot
      refine ⟨?_, ?_, ?_⟩
      · simp only [System.post, System.chan, phase]
        exact placed
      · simp only [System.post, System.chan, phase]
        exact slot
      · simp only [System.post, phase]
        exact inv.ran

theorem step_inv {turns spins : Nat} {c : SeqCtx} {label : Label} {s t : System}
    (step : Step turns spins c label s t) (inv : Inv s) : Inv t := by
  cases step with
  | post _ msg room => exact post_inv inv msg room
  | drain _ after gone rest draining waiting polled split =>
      have chan : s.chan = chanOf s.drain := by rw [System.chan, draining]
      have pending := inv.pending
      have slot := inv.slot
      rw [chan] at pending slot
      obtain ⟨after', gone', rest', ended, other, drained, _⟩ :=
        @drain_poll turns spins c _ _ pending
      cases polled.symm.trans ended
      -- The read pointer fixes how much of the queue is gone.
      obtain ⟨rfl, rfl⟩ := split_unique pending.room split other drained.rptr
      obtain ⟨views, ran, given⟩ := drained.ran
      refine ⟨?_, ?_, ?_⟩
      · simp only [System.chan, draining]
        exact drained.pending
      · simp only [System.chan, draining]
        rw [chanOf_cmdqWptr] at slot ⊢
        have same : ld32 after.shm 0x1010 = ld32 s.drain.shm 0x1010 :=
          ld32_congr fun i below => drained.cmdq _ (by omega)
        rw [same]
        exact slot
      · show List.Forall₂ Given after.ran (requests (s.drained ++ _))
        rw [ran, requests_append]
        exact List.rel_append inv.ran given
  | handOver _ draining got =>
      have chan : s.chan = chanOf s.drain := by rw [System.chan, draining]
      exact ⟨chan ▸ inv.pending, chan ▸ inv.slot, inv.ran⟩
  | send _ w fn req reqLen cap timeoutUs active idle fits =>
      have chan : s.chan = w.ch := by rw [System.chan, active]
      have pending := inv.pending
      have slot := inv.slot
      rw [chan] at pending slot
      refine ⟨send_pending pending slot fits, ?_, inv.ran⟩
      show (wrapSlot w.ch.lay _).toNat < msgCount
      rw [pending.lay, wrapSlot_toNat, msgCount_eq]
      exact Nat.mod_lt _ (by decide)
  | again _ w next call gone rest active busy turned split =>
      have chan : s.chan = w.ch := by rw [System.chan, active]
      obtain ⟨pending, same, _⟩ := turn_inv (chan ▸ inv.pending) (Or.inl ⟨next, turned, rfl⟩) split
      refine ⟨pending, ?_, inv.ran⟩
      show next.ch.cmdqWptr.toNat < msgCount
      rw [same, ← chan]
      exact inv.slot
  | «return» _ w call result ch gone rest active busy turned split =>
      have chan : s.chan = w.ch := by rw [System.chan, active]
      obtain ⟨pending, same, _⟩ := turn_inv (chan ▸ inv.pending) (Or.inr ⟨result, turned⟩) split
      refine ⟨pending, ?_, inv.ran⟩
      show ch.cmdqWptr.toNat < msgCount
      rw [same, ← chan]
      exact inv.slot

section Runs

variable {turns spins : Nat} {c : SeqCtx} {s t : System}

theorem reaches_inv (run : Reaches turns spins c s t) (fresh : Fresh s) : Inv t := by
  induction run with
  | refl => exact fresh_inv fresh
  | tail _ step ih =>
      obtain ⟨_, step⟩ := step
      exact step_inv step ih

/-- What was executed is what the drain went past, so it is all exactly if the calls met no
request. -/
theorem executed_iff (inv : Inv s) : Executed s ↔ ∀ msg ∈ s.called, ¬ Asks msg := by
  rw [Executed, requests_append, ← requests_none]
  constructor
  · intro all
    have whole := all.length_eq
    rw [inv.ran.length_eq, List.length_append] at whole
    exact List.length_eq_zero_iff.mp (by omega)
  · intro none
    rw [none, List.append_nil]
    exact inv.ran

/-- A turn from a clean state goes past no request. -/
theorem clean_gone {call : Call} {w : Waiting} {gone rest : List Msg} {ch : NvGspRpcChan}
    (inv : Inv s) (clean : Clean s) (active : s.w = some w) (busy : s.call = some call)
    (turned : TurnsTo call w ch) (split : Split s.queue gone rest w.ch.msgqRptr ch.msgqRptr) :
    ∀ msg ∈ gone, ¬ Asks msg := by
  have chan : s.chan = w.ch := by rw [System.chan, active]
  obtain ⟨_, _, foreign⟩ := turn_inv (chan ▸ inv.pending) turned split
  intro msg member
  obtain ⟨before, later, parts⟩ := List.append_of_mem member
  apply clean call busy before msg (later ++ rest)
  · rw [split.split, parts, List.append_assoc]
    rfl
  · exact foreign before msg later parts

theorem clean_called (run : CleanReaches turns spins c s t) (fresh : Fresh s) :
    Inv t ∧ ∀ msg ∈ t.called, ¬ Asks msg := by
  induction run with
  | refl =>
      refine ⟨fresh_inv fresh, ?_⟩
      rw [fresh.called]
      simp
  | tail _ step ih =>
      obtain ⟨label, step, clean⟩ := step
      obtain ⟨inv, none⟩ := ih
      refine ⟨step_inv step inv, ?_⟩
      cases step with
      | post s msg room =>
          rw [System.post]
          split
          · exact none
          · exact none
      | drain | handOver | send => exact none
      | again _ w next call gone rest active busy turned split =>
          have front := clean_gone inv (clean rfl) active busy (Or.inl ⟨next, turned, rfl⟩) split
          exact List.forall_mem_append.mpr ⟨none, front⟩
      | «return» _ w call result ch gone rest active busy turned split =>
          have front := clean_gone inv (clean rfl) active busy (Or.inr ⟨result, turned⟩) split
          exact List.forall_mem_append.mpr ⟨none, front⟩

end Runs

/-- In every run whose calls start each turn with no request ahead of their
reply, every request consumed is executed once and in order; in any run it is so
exactly when the calls went past none. -/
theorem requests_executed_once (turns spins : Nat) (c : SeqCtx) (s t : System) (fresh : Fresh s) :
    (CleanReaches turns spins c s t → Executed t) ∧
      (Reaches turns spins c s t → (Executed t ↔ ∀ msg ∈ t.called, ¬ Asks msg)) := by
  constructor
  · intro run
    obtain ⟨inv, none⟩ := clean_called run fresh
    exact (executed_iff inv).mpr none
  · intro run
    exact executed_iff (reaches_inv run fresh)

/-! Two runs: a request met by the drain, and one met by a call. -/

def eventBytes (low : UInt8) (o : Nat) : UInt8 :=
  if o = 40 then 1
  else if o = 56 then 72
  else if o = 60 then low
  else if o = 61 then 0x10
  else 0

def initDone : Msg :=
  { slots := 1, bytes := eventBytes 1, some_slots := statusReply.some_slots
    few_slots := statusReply.few_slots, count := by decide, header := by decide, extent := by decide }

def sequencerRequest : Msg :=
  { slots := 1, bytes := eventBytes 2, some_slots := statusReply.some_slots
    few_slots := statusReply.few_slots, count := by decide, header := by decide, extent := by decide }

theorem sequencerRequest_asks : Asks sequencerRequest := by
  show sequencerRequest.function = 0x1002
  decide

def booted : System :=
  { drain :=
      { shm := fun _ => 0, rptr := 0, lastFn := 0, msgs := 0, got := false
        answers := Stream'.const 0, ran := [] }
    w := none, call := none, sent := 0, queue := [], drained := [], called := [] }

theorem booted_fresh : Fresh booted := by
  have word : ld32 (fun _ => 0) 0x1010 = 0 := by decide
  refine ⟨?_, ?_, rfl, rfl, rfl, rfl, rfl⟩
  · refine pending_congr (emptyChan_pending 0 (by decide)) rfl rfl fun x _ => ?_
    show (0 : UInt8) = if x = 0x41010 then 0 else 0
    rw [ite_self]
  · show (ld32 (fun _ => 0) 0x1010).toNat < msgCount
    rw [word]
    decide

section Runs

variable {turns spins : Nat} {c : SeqCtx} {s : System}

theorem drain_step (inv : Inv s) (draining : s.w = none) (waiting : s.drain.got = false) :
    ∃ after gone rest, Step turns spins c .drain s
        { s with drain := after, queue := rest, drained := s.drained ++ gone } ∧
      s.queue = gone ++ rest ∧ Ends s.drain gone rest after := by
  have chan : s.chan = chanOf s.drain := by rw [System.chan, draining]
  obtain ⟨after, gone, rest, polled, split, went, ends⟩ :=
    @drain_poll turns spins c _ _ (chan ▸ inv.pending)
  exact ⟨after, gone, rest, .drain s after gone rest draining waiting polled ⟨split, went.rptr⟩,
    split, ends⟩

theorem drain_one (inv : Inv s) (draining : s.w = none) (waiting : s.drain.got = false) {msg : Msg}
    (queue : s.queue = [msg]) :
    ∃ after, Step turns spins c .drain s
        { s with drain := after, queue := [], drained := s.drained ++ [msg] } ∧
      (IsInitDone msg → after.got = true) := by
  obtain ⟨after, gone, rest, step, split, ends⟩ := @drain_step turns spins c s inv draining waiting
  rw [queue] at split
  have both : rest = [] ∧ (IsInitDone msg → after.got = true) := by
    rcases ends with ⟨empty, _, none⟩ | ⟨got, before, last, cut, _, _⟩
    · rw [empty, List.append_nil] at split
      exact ⟨empty, fun done => absurd done (none msg (split ▸ List.mem_cons_self))⟩
    · have lengths := congrArg List.length split
      rw [cut] at lengths
      simp at lengths
      exact ⟨List.length_eq_zero_iff.mp (by omega), fun _ => got⟩
  obtain ⟨rfl, got⟩ := both
  rw [List.append_nil] at split
  exact ⟨after, split ▸ step, got⟩

/-- A turn that meets no reply of its own empties the queue. -/
theorem turn_step (inv : Inv s) {w : Waiting} {call : Call} (active : s.w = some w)
    (busy : s.call = some call) (foreign : Foreign call.fn s.queue)
    (early : w.waited < call.timeoutUs) :
    ∃ next, Step turns spins c .turn s
      { s with w := some next, queue := [], called := s.called ++ s.queue } := by
  have chan : s.chan = w.ch := by rw [System.chan, active]
  obtain ⟨outcome, spec, turned⟩ := turn_spec call (chan ▸ inv.pending)
  have other : ∀ before msg rest, s.queue = before ++ msg :: rest → msg.function ≠ call.fn :=
    fun before msg rest split => foreign msg (split ▸ List.mem_append_right _ List.mem_cons_self)
  cases spec with
  | drained after _ _ consumed =>
      have again : turnOf call w =
          .again { poll := w.poll + 1, waited := w.waited + pollStep, ch := after } := by
        rw [turned, turnOutcome, if_neg (UInt32.not_le.mpr early)]
      exact ⟨_, .again s w _ call s.queue [] active busy again
        ⟨(List.append_nil _).symm, consumed.rptr⟩⟩
  | ok before rest msg after split _ mine => exact absurd mine (other before msg rest split)
  | bounds before rest msg after split _ mine => exact absurd mine (other before msg rest split)

theorem reaches_step {label : Label} {r t : System} (run : Reaches turns spins c r s)
    (step : Step turns spins c label s t) : Reaches turns spins c r t :=
  run.tail ⟨label, step⟩

end Runs

def sequencer : SeqCtx := { boot0 := 0x172000a1, libosIo := 0, appVersion := 0 }

/-- A request that the drain meets is executed. -/
theorem requests_executed_once_in_drain :
    ∃ t, t.drained = [sequencerRequest] ∧ Executed t := by
  have posted : Step 0 0 sequencer .post booted (booted.post sequencerRequest) :=
    .post booted sequencerRequest (by decide)
  have run := reaches_step .refl posted
  obtain ⟨after, drained, _⟩ :=
    @drain_one 0 0 sequencer _ (reaches_inv run booted_fresh) rfl rfl sequencerRequest rfl
  have whole := reaches_step run drained
  have executed := (requests_executed_once 0 0 sequencer booted _ booted_fresh).2 whole
  exact ⟨_, rfl, executed.mpr fun msg member => nomatch member⟩

/-- A request that a call meets is not. -/
theorem request_lost_in_call :
    ¬ ∀ (turns spins : Nat) (c : SeqCtx) (s t : System),
      Fresh s → Reaches turns spins c s t → Executed t := by
  intro claim
  have posted : Step 0 0 sequencer .post booted (booted.post initDone) :=
    .post booted initDone (by decide)
  have run := reaches_step .refl posted
  obtain ⟨after, drained, stops⟩ :=
    @drain_one 0 0 sequencer _ (reaches_inv run booted_fresh) rfl rfl initDone rfl
  have got : after.got = true := stops (by rw [IsInitDone]; decide)
  have handed := reaches_step (reaches_step run drained) (.handOver _ rfl got)
  have slot := (reaches_inv handed booted_fresh).slot
  have asked := reaches_step handed
    (.send _ _ 65 none 0 64 0 rfl rfl (noRequest_fits (Nat.succ_le_of_lt slot)))
  have room : totalSlots [] + sequencerRequest.slots < 63 := by decide
  have arrived := reaches_step asked (.post _ sequencerRequest room)
  have other : Foreign 65 [sequencerRequest] := by
    intro msg member
    rw [List.mem_singleton.mp member]
    decide
  have early : (0 : UInt32) < 4000000 := by decide
  obtain ⟨next, turned⟩ := turn_step (reaches_inv arrived booted_fresh) rfl rfl other early
  have whole := reaches_step arrived turned
  have executed := claim _ _ _ _ _ booted_fresh whole
  -- the call went past the request, which nobody executed
  have none := (executed_iff (reaches_inv whole booted_fresh)).mp executed
  exact none sequencerRequest List.mem_cons_self sequencerRequest_asks

end GspDriver.SequencerRequests
