import GspDriver.RpcDelivery

/-!
Which request a reply answers. The host makes one call after another, each a
send and then turns of the receive loop until it returns. Between the turns the
GSP answers the requests in order, each once, and posts events, whose function
numbers no request uses. The driver compares nothing but the function number,
so a call takes the reply to the oldest request with its number that it has not
gone past before, whichever call sent that request.
-/

namespace GspDriver.RpcCorrelation

open Bytes LittleEndian Loop RingQueue GspRpc GspRm MsgQueue CmdqFrame

/-- A message and, for a reply, the number of the request that it answers. -/
abbrev Posted := Msg × Option Nat

/-- The call in progress; `own` is the number of its request. -/
structure Call where
  fn : UInt32
  cap : UInt32
  timeoutUs : UInt32
  own : Nat

structure Link where
  w : Waiting
  call : Option Call
  sent : List UInt32
  answered : Nat
  queue : List Posted
  oks : List Nat

/-- The GSP moves between the turns of the receive loop. -/
def quiet (_ : Nat) (m : Mem) : Mem := m

def turnOf (call : Call) (w : Waiting) : Turn Waiting (Option (RpcReturn × NvGspRpcChan)) :=
  callTurn quiet call.fn call.cap call.timeoutUs w

def begin (s : Link) (fn : UInt32) (req : Payload) (reqLen cap timeoutUs : UInt32) : Link :=
  { s with
    w := { poll := 0, waited := 0, ch := rpcSend s.w.ch fn req reqLen }
    call := some { fn, cap, timeoutUs := if timeoutUs = 0 then 4000000 else timeoutUs
                   own := s.sent.length }
    sent := s.sent ++ [fn] }

/-- The GSP places a message at the write pointer that it published. -/
def post (s : Link) (posted : Posted) : Link :=
  { s with
    w := { s.w with ch := { s.w.ch with
      shm := placeMsg s.w.ch.shm (ld32 s.w.ch.shm 0x41010).toNat posted.1 } }
    queue := s.queue ++ [posted] }

def slots (queue : List Posted) : Nat := totalSlots (queue.map Prod.fst)

/-- `rest` is what lies behind the read pointer of `ch`. -/
def Behind (s : Link) (ch : NvGspRpcChan) (rest : List Posted) : Prop :=
  ∃ gone, s.queue = gone ++ rest ∧
    ch.msgqRptr.toNat = msgqRing.advance s.w.ch.msgqRptr.toNat (slots gone)

def record (call : Call) (oks : List Nat) : RpcReturn → List Nat
  | .ok .. => call.own :: oks
  | .errTimeout => oks
  | .errBounds => oks

inductive LinkStep (event : UInt32 → Prop) : Link → Link → Prop
  | call (s : Link) (fn : UInt32) (req : Payload) (reqLen cap timeoutUs : UInt32)
      (idle : s.call = none) (request : ¬ event fn) (fits : Fits s.w.ch req reqLen) :
      LinkStep event s (begin s fn req reqLen cap timeoutUs)
  | reply (s : Link) (msg : Msg) (due : s.sent[s.answered]? = some msg.function)
      (room : slots s.queue + msg.slots < 63) :
      LinkStep event s { post s (msg, some s.answered) with answered := s.answered + 1 }
  | event (s : Link) (msg : Msg) (kind : event msg.function)
      (room : slots s.queue + msg.slots < 63) : LinkStep event s (post s (msg, none))
  | again (s : Link) (call : Call) (w : Waiting) (rest : List Posted) (active : s.call = some call)
      (turned : turnOf call s.w = .again w) (behind : Behind s w.ch rest) :
      LinkStep event s { s with w := w, queue := rest }
  | return (s : Link) (call : Call) (result : RpcReturn) (ch : NvGspRpcChan) (rest : List Posted)
      (active : s.call = some call) (turned : turnOf call s.w = .stop (some (result, ch)))
      (behind : Behind s ch rest) :
      LinkStep event s
        { s with
          w := { s.w with ch := ch }
          call := none
          queue := rest
          oks := record call s.oks result }

def Reaches (event : UInt32 → Prop) : Link → Link → Prop := Relation.ReflTransGen (LinkStep event)

/-- The GSP has answered request `i` and the driver went past the reply. -/
def Taken (s : Link) (i : Nat) : Prop := i < s.answered ∧ ∀ posted ∈ s.queue, posted.2 ≠ some i

structure Fresh (event : UInt32 → Prop) (s : Link) : Prop where
  pending : Pending s.w.ch (s.queue.map Prod.fst)
  slot : s.w.ch.cmdqWptr.toNat < msgCount
  events : ∀ posted ∈ s.queue, posted.2 = none ∧ event posted.1.function
  idle : s.call = none
  sent : s.sent = []
  answered : s.answered = 0
  oks : s.oks = []

structure LinkInv (event : UInt32 → Prop) (s : Link) : Prop where
  pending : Pending s.w.ch (s.queue.map Prod.fst)
  slot : s.w.ch.cmdqWptr.toNat < msgCount
  requests : ∀ fn ∈ s.sent, ¬ event fn
  replies : ∀ msg i, (msg, some i) ∈ s.queue →
    i < s.answered ∧ s.sent[i]? = some msg.function
  events : ∀ msg, (msg, none) ∈ s.queue → event msg.function
  ordered : s.queue.Pairwise fun p q => ∀ i j, p.2 = some i → q.2 = some j → i < j
  current : ∀ call, s.call = some call →
    call.own + 1 = s.sent.length ∧ s.sent[call.own]? = some call.fn
  settled : ∀ j ∈ s.oks, j < s.sent.length ∧
    ((∀ k < j, s.sent[k]? = s.sent[j]? → k ∈ s.oks) → Taken s j)

theorem fresh_inv {event : UInt32 → Prop} {s : Link} (fresh : Fresh event s) : LinkInv event s := by
  have noReply : ∀ posted ∈ s.queue, posted.2 = none := fun posted member =>
    (fresh.events posted member).1
  refine ⟨fresh.pending, fresh.slot, by simp [fresh.sent], ?_, ?_, ?_, ?_, by simp [fresh.oks]⟩
  · intro msg i member
    cases noReply _ member
  · intro msg member
    exact (fresh.events _ member).2
  · apply List.pairwise_of_forall_mem_list
    intro p member q _ i j first
    rw [noReply p member] at first
    cases first
  · intro call active
    rw [fresh.idle] at active
    cases active

/-! What one turn of the receive loop does. -/

def turnOutcome (call : Call) (w : Waiting) :
    Poll × NvGspRpcChan → Turn Waiting (Option (RpcReturn × NvGspRpcChan))
  | (.ok reply replyLen rpcResult, ch) => .stop (some (.ok reply replyLen rpcResult, ch))
  | (.bounds, ch) => .stop (some (.errBounds, ch))
  | (.drained, ch) =>
      if w.waited ≥ call.timeoutUs then .stop (some (.errTimeout, ch))
      else .again { poll := w.poll + 1, waited := w.waited + pollStep, ch := ch }

theorem turn_spec (call : Call) {w : Waiting} {msgs : List Msg} (pending : Pending w.ch msgs) :
    ∃ outcome, PollSpec call.fn call.cap w.ch msgs outcome ∧
      turnOf call w = turnOutcome call w outcome := by
  obtain ⟨outcome, ended, spec⟩ := poll_spec call.fn call.cap pending
  refine ⟨outcome, spec, ?_⟩
  have polled : recvPoll call.fn call.cap { w.ch with shm := quiet w.poll w.ch.shm } =
      some outcome := ended
  rw [turnOf, callTurn, polled]
  obtain ⟨poll, ch⟩ := outcome
  cases poll <;> rfl

theorem turn_keeps {event : UInt32 → Prop} {s : Link} (inv : LinkInv event s) (call : Call)
    {outcome : Poll × NvGspRpcChan} {rest : List Posted}
    (spec : PollSpec call.fn call.cap s.w.ch (s.queue.map Prod.fst) outcome)
    (behind : Behind s outcome.2 rest) :
    Pending outcome.2 (rest.map Prod.fst) ∧ outcome.2.cmdqWptr = s.w.ch.cmdqWptr := by
  obtain ⟨gone, split, pointer⟩ := behind
  obtain ⟨gone', rest', split', pending, consumed⟩ := poll_behind spec
  have same : gone.map Prod.fst ++ rest.map Prod.fst = gone' ++ rest' := by
    rw [← split', split, List.map_append]
  have room : totalSlots (gone.map Prod.fst ++ rest.map Prod.fst) < 63 := by
    rw [same, ← split']
    exact inv.pending.room
  have length := advance_length same room (pointer.symm.trans consumed.rptr)
  have left : rest.map Prod.fst = rest' := (List.append_inj same length).2
  exact ⟨left ▸ pending, consumed.cmdqWptr⟩

/-- An OK turn takes the first message of the queue with the call's function
number, and that message is a reply. -/
theorem ok_takes {event : UInt32 → Prop} {s : Link} (inv : LinkInv event s) {call : Call}
    (active : s.call = some call) {reply : List UInt8} {replyLen rpcResult : UInt32}
    {ch : NvGspRpcChan}
    (turned : turnOf call s.w = .stop (some (.ok reply replyLen rpcResult, ch))) :
    ∃ before rest msg i, s.queue = before ++ (msg, some i) :: rest ∧
      (∀ posted ∈ before, posted.1.function ≠ call.fn) ∧ msg.function = call.fn ∧
      reply = msg.payload call.cap ∧ replyLen = msg.payloadLen ∧ rpcResult = msg.result ∧
      ch.msgqRptr.toNat =
        msgqRing.advance s.w.ch.msgqRptr.toNat (slots (before ++ [(msg, some i)])) := by
  obtain ⟨outcome, spec, turn⟩ := turn_spec call inv.pending
  rw [turned] at turn
  cases spec with
  | drained after foreign pending consumed =>
      rw [turnOutcome] at turn
      split at turn <;> cases turn
  | bounds before rest msg after split foreign mine wraps pending consumed => cases turn
  | ok before rest msg after split foreign mine fits pending consumed =>
      cases turn
      obtain ⟨front, back, whole, fronts, backs⟩ := List.map_eq_append_iff.mp split
      obtain ⟨⟨hit, origin⟩, tail, cut, same, _⟩ := List.map_eq_cons_iff.mp backs
      cases same
      have member : (hit, origin) ∈ s.queue := by
        rw [whole, cut]
        exact List.mem_append_right front List.mem_cons_self
      cases origin with
      | none =>
          have request := inv.requests call.fn
            (List.mem_of_getElem? (inv.current call active).2)
          exact absurd (mine ▸ inv.events hit member) request
      | some i =>
          refine ⟨front, tail, hit, i, by rw [whole, cut], ?_, mine, rfl, rfl, rfl, ?_⟩
          · intro posted early
            apply foreign
            rw [← fronts]
            exact List.mem_map_of_mem early
          · rw [consumed.rptr, ← fronts, slots, List.map_append]
            rfl

/-- Whatever lies before the taken reply in sending order was taken before. -/
theorem older_taken {event : UInt32 → Prop} {s : Link} (inv : LinkInv event s)
    {before rest : List Posted} {msg : Msg} {i : Nat} {fn : UInt32}
    (split : s.queue = before ++ (msg, some i) :: rest)
    (foreign : ∀ posted ∈ before, posted.1.function ≠ fn) {j : Nat} (older : j < i)
    (same : s.sent[j]? = some fn) : Taken s j := by
  have member : (msg, some i) ∈ s.queue := by simp [split]
  refine ⟨Nat.lt_trans older (inv.replies msg i member).1, ?_⟩
  rintro ⟨other, origin⟩ present named
  cases named
  have function : s.sent[j]? = some other.function := (inv.replies other j present).2
  rw [same] at function
  have ordered := inv.ordered
  rw [split] at present ordered
  rcases List.mem_append.mp present with early | late
  · exact foreign _ early (Option.some.inj function).symm
  · rcases List.mem_cons.mp late with head | tail
    · cases head
      exact Nat.lt_irrefl _ older
    · have after := List.rel_of_pairwise_cons (List.pairwise_append.mp ordered).2.1 tail
      exact Nat.lt_asymm older (after i j rfl rfl)

/-- The OK of a call answers its own request exactly if no reply to an earlier
request with the function number was still to come. -/
theorem own_iff {event : UInt32 → Prop} {s : Link} (inv : LinkInv event s) {call : Call}
    (active : s.call = some call) {before rest : List Posted} {msg : Msg} {i : Nat}
    (split : s.queue = before ++ (msg, some i) :: rest)
    (foreign : ∀ posted ∈ before, posted.1.function ≠ call.fn) (mine : msg.function = call.fn) :
    i = call.own ↔ ∀ j < call.own, s.sent[j]? = some call.fn → Taken s j := by
  have member : (msg, some i) ∈ s.queue := by simp [split]
  have request := (inv.replies msg i member).2
  rw [mine] at request
  constructor
  · intro own j older same
    exact older_taken inv split foreign (by omega) same
  · intro all
    have last : i < s.sent.length := (List.getElem?_eq_some_iff.mp request).1
    have length := (inv.current call active).1
    by_contra other
    exact (all i (by omega) request).2 _ member rfl

/-- Once every earlier call with the function number returned OK, nothing old
is left for this one. -/
theorem oks_taken {event : UInt32 → Prop} {s : Link} (inv : LinkInv event s) {call : Call}
    (answered : ∀ j < call.own, s.sent[j]? = some call.fn → j ∈ s.oks) :
    ∀ j < call.own, s.sent[j]? = some call.fn → Taken s j := by
  intro j older same
  apply (inv.settled j (answered j older same)).2
  intro k earlier alike
  exact answered k (by omega) (alike.trans same)

/-! One step. -/

theorem taken_rest {s t : Link} {i : Nat} (taken : Taken s i) (answered : s.answered ≤ t.answered)
    (kept : ∀ posted ∈ t.queue, posted ∈ s.queue ∨ posted.2 ≠ some i) : Taken t i := by
  refine ⟨Nat.lt_of_lt_of_le taken.1 answered, fun posted member => ?_⟩
  rcases kept posted member with old | other
  · exact taken.2 posted old
  · exact other

theorem begin_inv {event : UInt32 → Prop} {s : Link} (inv : LinkInv event s) {fn : UInt32}
    {req : Payload} {reqLen : UInt32} (cap timeoutUs : UInt32) (request : ¬ event fn)
    (fits : Fits s.w.ch req reqLen) : LinkInv event (begin s fn req reqLen cap timeoutUs) := by
  have kept : ∀ i < s.sent.length, (s.sent ++ [fn])[i]? = s.sent[i]? := fun i below =>
    List.getElem?_append_left below
  refine ⟨RpcDelivery.send_pending inv.pending inv.slot fits, ?_, ?_, ?_, inv.events,
    inv.ordered, ?_, ?_⟩
  · change (wrapSlot s.w.ch.lay _).toNat < msgCount
    rw [inv.pending.lay, wrapSlot_toNat, msgCount_eq]
    exact Nat.mod_lt _ (by decide)
  · intro other member
    rcases List.mem_append.mp member with old | new
    · exact inv.requests other old
    · rw [List.mem_singleton.mp new]
      exact request
  · intro msg i member
    have old := inv.replies msg i member
    refine ⟨old.1, ?_⟩
    rw [← old.2]
    exact kept i (List.getElem?_eq_some_iff.mp old.2).1
  · intro call active
    cases active
    exact ⟨by simp [begin], List.getElem?_concat_length⟩
  · intro j member
    obtain ⟨below, taken⟩ := inv.settled j member
    refine ⟨by simp [begin]; omega, fun all => taken fun k earlier alike => all k earlier ?_⟩
    change (s.sent ++ [fn])[k]? = (s.sent ++ [fn])[j]?
    rw [kept k (by omega), kept j below, alike]

theorem post_pending {event : UInt32 → Prop} {s : Link} (inv : LinkInv event s) (posted : Posted)
    (room : slots s.queue + posted.1.slots < 63) :
    Pending (post s posted).w.ch ((post s posted).queue.map Prod.fst) := by
  have placed := place_pending inv.pending posted.1 room
  have wptr := inv.pending.wptr
  rw [writeptr_eq _ inv.pending.lay] at wptr
  rw [← wptr] at placed
  change Pending _ ((s.queue ++ [posted]).map Prod.fst)
  rw [List.map_append]
  exact placed

theorem reply_inv {event : UInt32 → Prop} {s : Link} (inv : LinkInv event s) {msg : Msg}
    (due : s.sent[s.answered]? = some msg.function) (room : slots s.queue + msg.slots < 63) :
    LinkInv event { post s (msg, some s.answered) with answered := s.answered + 1 } := by
  refine ⟨post_pending inv (msg, some s.answered) room, inv.slot, inv.requests, ?_, ?_, ?_,
    inv.current, ?_⟩
  · intro other i member
    rcases List.mem_append.mp member with old | new
    · obtain ⟨below, request⟩ := inv.replies other i old
      exact ⟨Nat.lt_succ_of_lt below, request⟩
    · cases List.mem_singleton.mp new
      exact ⟨Nat.lt_succ_self _, due⟩
  · intro other member
    rcases List.mem_append.mp member with old | new
    · exact inv.events other old
    · cases List.mem_singleton.mp new
  · refine List.pairwise_append.mpr ⟨inv.ordered, List.pairwise_singleton _ _, ?_⟩
    rintro ⟨other, origin⟩ old q new i j first second
    rw [List.mem_singleton.mp new] at second
    cases first
    cases second
    exact (inv.replies other i old).1
  · intro j member
    obtain ⟨below, taken⟩ := inv.settled j member
    refine ⟨below, fun all => ?_⟩
    have before := taken all
    refine taken_rest before (Nat.le_succ _) fun posted present => ?_
    rcases List.mem_append.mp present with old | new
    · exact Or.inl old
    · -- A settled request was answered earlier, so the new reply is not its own.
      rw [List.mem_singleton.mp new]
      refine Or.inr fun same => ?_
      have early := before.1
      cases same
      exact Nat.lt_irrefl _ early

theorem event_inv {event : UInt32 → Prop} {s : Link} (inv : LinkInv event s) {msg : Msg}
    (kind : event msg.function) (room : slots s.queue + msg.slots < 63) :
    LinkInv event (post s (msg, none)) := by
  refine ⟨post_pending inv (msg, none) room, inv.slot, inv.requests, ?_, ?_, ?_, inv.current, ?_⟩
  · intro other i member
    rcases List.mem_append.mp member with old | new
    · exact inv.replies other i old
    · cases List.mem_singleton.mp new
  · intro other member
    rcases List.mem_append.mp member with old | new
    · exact inv.events other old
    · cases List.mem_singleton.mp new
      exact kind
  · refine List.pairwise_append.mpr ⟨inv.ordered, List.pairwise_singleton _ _, ?_⟩
    intro p _ q new i j _ second
    rw [List.mem_singleton.mp new] at second
    cases second
  · intro j member
    obtain ⟨below, taken⟩ := inv.settled j member
    refine ⟨below, fun all => taken_rest (taken all) (Nat.le_refl _) fun posted present => ?_⟩
    rcases List.mem_append.mp present with old | new
    · exact Or.inl old
    · rw [List.mem_singleton.mp new]
      exact Or.inr nofun

/-- Going past the front of the queue keeps what does not depend on `oks`. -/
theorem consume_inv {event : UInt32 → Prop} {s : Link} (inv : LinkInv event s) {w : Waiting}
    {call : Option Call} {gone rest : List Posted} {oks : List Nat}
    (split : s.queue = gone ++ rest) (pending : Pending w.ch (rest.map Prod.fst))
    (cmdqWptr : w.ch.cmdqWptr = s.w.ch.cmdqWptr) (same : call = s.call ∨ call = none)
    (settled : ∀ j ∈ oks, j < s.sent.length ∧
      ((∀ k < j, s.sent[k]? = s.sent[j]? → k ∈ oks) → Taken { s with queue := rest } j)) :
    LinkInv event { s with w := w, call := call, queue := rest, oks := oks } := by
  have inQueue : ∀ posted ∈ rest, posted ∈ s.queue := by
    intro posted member
    rw [split]
    exact List.mem_append_right gone member
  have ordered := inv.ordered
  rw [split] at ordered
  refine ⟨pending, cmdqWptr ▸ inv.slot, inv.requests, fun msg i member => ?_, fun msg member => ?_,
    (List.pairwise_append.mp ordered).2.1, fun running active => ?_, settled⟩
  · exact inv.replies msg i (inQueue _ member)
  · exact inv.events msg (inQueue _ member)
  · rcases same with same | same
    · exact inv.current running (same ▸ active)
    · cases same.symm.trans active

theorem settled_rest {s : Link} {gone rest : List Posted} (split : s.queue = gone ++ rest)
    {j : Nat} (taken : Taken s j) : Taken { s with queue := rest } j :=
  taken_rest taken (Nat.le_refl _) fun posted member => Or.inl (by
    rw [split]
    exact List.mem_append_right gone member)

/-- A reply that the read pointer has just gone past is taken. -/
theorem taken_behind {event : UInt32 → Prop} {s : Link} (inv : LinkInv event s)
    {before tail gone rest : List Posted} {msg : Msg} {i : Nat}
    (cut : s.queue = before ++ (msg, some i) :: tail) (split : s.queue = gone ++ rest)
    (pointer : msgqRing.advance s.w.ch.msgqRptr.toNat (slots gone) =
      msgqRing.advance s.w.ch.msgqRptr.toNat (slots (before ++ [(msg, some i)]))) :
    Taken { s with queue := rest } i := by
  rw [List.append_cons] at cut
  have same : gone ++ rest = (before ++ [(msg, some i)]) ++ tail := split.symm.trans cut
  have room := inv.pending.room
  rw [split, List.map_append] at room
  have length : gone.length = (before ++ [(msg, some i)]).length := by
    have fronts : gone.map Prod.fst ++ rest.map Prod.fst =
        (before ++ [(msg, some i)]).map Prod.fst ++ tail.map Prod.fst := by
      rw [← List.map_append, same, List.map_append]
    have mapped := advance_length fronts room pointer
    rwa [List.length_map, List.length_map] at mapped
  have left : rest = tail := (List.append_inj same length).2
  have ordered := inv.ordered
  rw [cut] at ordered
  refine ⟨(inv.replies msg i (by simp [cut])).1, fun posted member named => ?_⟩
  change posted ∈ rest at member
  rw [left] at member
  have apart := (List.pairwise_append.mp ordered).2.2 (msg, some i) (by simp) posted member
  exact Nat.lt_irrefl _ (apart i i rfl named)

theorem again_inv {event : UInt32 → Prop} {s : Link} (inv : LinkInv event s) {call : Call}
    {w : Waiting} {rest : List Posted} (turned : turnOf call s.w = .again w)
    (behind : Behind s w.ch rest) : LinkInv event { s with w := w, queue := rest } := by
  obtain ⟨outcome, spec, turn⟩ := turn_spec call inv.pending
  rw [turned] at turn
  have ch : w.ch = outcome.2 := by
    cases spec with
    | drained after =>
        rw [turnOutcome] at turn
        split at turn <;> cases turn
        rfl
    | ok => cases turn
    | bounds => cases turn
  rw [ch] at behind
  obtain ⟨pending, wptr⟩ := turn_keeps inv call spec behind
  obtain ⟨gone, split, _⟩ := behind
  refine consume_inv inv split (ch ▸ pending) (ch ▸ wptr) (Or.inl rfl) fun j member => ?_
  obtain ⟨below, taken⟩ := inv.settled j member
  exact ⟨below, fun all => settled_rest split (taken all)⟩

theorem return_inv {event : UInt32 → Prop} {s : Link} (inv : LinkInv event s) {call : Call}
    {result : RpcReturn} {ch : NvGspRpcChan} {rest : List Posted} (active : s.call = some call)
    (turned : turnOf call s.w = .stop (some (result, ch))) (behind : Behind s ch rest) :
    LinkInv event
      { s with
        w := { s.w with ch := ch }
        call := none
        queue := rest
        oks := record call s.oks result } := by
  obtain ⟨outcome, spec, turn⟩ := turn_spec call inv.pending
  have after : ch = outcome.2 := by
    rw [turned] at turn
    cases spec with
    | drained after =>
        rw [turnOutcome] at turn
        split at turn <;> cases turn
        rfl
    | ok =>
        cases turn
        rfl
    | bounds =>
        cases turn
        rfl
  obtain ⟨pending, wptr⟩ := turn_keeps inv call spec (after ▸ behind)
  obtain ⟨gone, split, pointer⟩ := behind
  refine consume_inv inv split (after ▸ pending) (after ▸ wptr) (Or.inr rfl) fun j member => ?_
  have older : ∀ j ∈ s.oks, j < s.sent.length ∧
      ((∀ k < j, s.sent[k]? = s.sent[j]? → k ∈ s.oks) → Taken { s with queue := rest } j) := by
    intro j member
    obtain ⟨below, taken⟩ := inv.settled j member
    exact ⟨below, fun all => settled_rest split (taken all)⟩
  -- Only an OK settles a request, and it is the one whose reply the pointer went past.
  cases result with
  | errTimeout => exact older j member
  | errBounds => exact older j member
  | ok reply replyLen rpcResult =>
      have last := inv.current call active
      -- The call's own request is the newest, so it is not older than any that is settled.
      have earlier : ∀ j < s.sent.length, (∀ k < j, s.sent[k]? = s.sent[j]? →
          k ∈ record call s.oks (.ok reply replyLen rpcResult)) →
          ∀ k < j, s.sent[k]? = s.sent[j]? → k ∈ s.oks := by
        intro j below all k less alike
        rcases List.mem_cons.mp (all k less alike) with own | old
        · omega
        · exact old
      rcases List.mem_cons.mp member with own | old
      · cases own
        refine ⟨by omega, fun all => ?_⟩
        have answered := earlier call.own (by omega) all
        rw [last.2] at answered
        obtain ⟨before, tail, msg, i, cut, foreign, mine, _, _, _, moved⟩ :=
          ok_takes inv active turned
        have same := (own_iff inv active cut foreign mine).mpr (oks_taken inv answered)
        cases same
        exact taken_behind inv cut split (pointer.symm.trans moved)
      · obtain ⟨below, taken⟩ := older j old
        exact ⟨below, fun all => taken (earlier j below all)⟩

theorem step_inv {event : UInt32 → Prop} {s t : Link} (step : LinkStep event s t)
    (inv : LinkInv event s) : LinkInv event t := by
  cases step with
  | call fn req reqLen cap timeoutUs idle request fits =>
      exact begin_inv inv cap timeoutUs request fits
  | reply msg due room => exact reply_inv inv due room
  | event msg kind room => exact event_inv inv kind room
  | again call w rest active turned behind => exact again_inv inv turned behind
  | «return» call result ch rest active turned behind => exact return_inv inv active turned behind

theorem reaches_inv {event : UInt32 → Prop} {s t : Link} (run : Reaches event s t)
    (inv : LinkInv event s) : LinkInv event t := by
  induction run with
  | refl => exact inv
  | tail _ step ih => exact step_inv step ih

/-- `reply` is what the call copies out of the GSP's answer to request `i`. -/
def Answers (s : Link) (call : Call) (i : Nat) (reply : List UInt8) (replyLen rpcResult : UInt32) :
    Prop :=
  ∃ msg, (msg, some i) ∈ s.queue ∧ s.sent[i]? = some call.fn ∧ reply = msg.payload call.cap ∧
    replyLen = msg.payloadLen ∧ rpcResult = msg.result

/-- An OK hands out the reply to the oldest request with the call's function
number whose reply was not taken before. It is the reply to the call's own
request exactly if all older ones were taken, and it is so when every older
call with that number returned OK. -/
theorem ok_answers_oldest (event : UInt32 → Prop) (s t : Link) (fresh : Fresh event s)
    (run : Reaches event s t) (call : Call) (active : t.call = some call) (reply : List UInt8)
    (replyLen rpcResult : UInt32) (ch : NvGspRpcChan)
    (returned : turnOf call t.w = .stop (some (.ok reply replyLen rpcResult, ch))) :
    ∃ i, Answers t call i reply replyLen rpcResult ∧
      (∀ j < i, t.sent[j]? = some call.fn → Taken t j) ∧
      (i = call.own ↔ ∀ j < call.own, t.sent[j]? = some call.fn → Taken t j) ∧
      ((∀ j < call.own, t.sent[j]? = some call.fn → j ∈ t.oks) → i = call.own) := by
  have inv := reaches_inv run (fresh_inv fresh)
  obtain ⟨before, rest, msg, i, split, foreign, mine, copied, length, result, _⟩ :=
    ok_takes inv active returned
  have member : (msg, some i) ∈ t.queue := by simp [split]
  have request := (inv.replies msg i member).2
  rw [mine] at request
  have own := own_iff inv active split foreign mine
  refine ⟨i, ⟨msg, member, request, copied, length, result⟩, ?_, own, ?_⟩
  · intro j older same
    exact older_taken inv split foreign older same
  · intro answered
    exact own.mpr (oks_taken inv answered)

/-! Calls of one function number, 76, on a link that has carried nothing. -/

def statusBytes (o : Nat) : UInt8 :=
  if o = 40 then 1 else if o = 56 then 36 else if o = 60 then 76 else 0

def statusReply : Msg :=
  { slots := 1, bytes := statusBytes, some_slots := by decide, few_slots := by decide
    count := by decide, header := by decide, extent := by decide }

def isEvent (fn : UInt32) : Prop := 0x1000 ≤ fn

theorem control_request : ¬ isEvent 76 := by
  rw [isEvent]
  decide

def unused : Link :=
  { w := { poll := 0, waited := 0, ch := RpcDelivery.emptyChan 0 }
    call := none, sent := [], answered := 0, queue := [], oks := [] }

theorem unused_fresh : Fresh isEvent unused := by
  have slot : (0 : UInt32).toNat < msgCount := by decide
  exact ⟨RpcDelivery.emptyChan_pending 0 (by decide), slot, by simp [unused], rfl, rfl, rfl, rfl⟩

theorem head_returned {s : Link} (inv : LinkInv isEvent s) (call : Call) {posted : Posted}
    {rest : List Posted} (head : s.queue = posted :: rest) (mine : posted.1.function = call.fn)
    (fits : s.w.ch.msgqRptr.toNat + posted.1.slots ≤ 63) :
    ∃ ch, turnOf call s.w =
      .stop (some (.ok (posted.1.payload call.cap) posted.1.payloadLen posted.1.result, ch)) := by
  obtain ⟨outcome, spec, turn⟩ := turn_spec call inv.pending
  rw [head, List.map_cons] at spec
  have unique : ∀ before tail msg,
      posted.1 :: rest.map Prod.fst = before ++ msg :: tail → Foreign call.fn before →
        msg.function = call.fn → [] = before ∧ posted.1 = msg ∧ rest.map Prod.fst = tail :=
    fun before tail msg split foreign hit =>
      @RpcDelivery.first_unique _ [] _ _ _ _ _ split (by simp [Foreign]) foreign mine hit
  have here := advance_zero inv.pending.slot
  cases spec with
  | drained after foreign => exact absurd mine (foreign _ List.mem_cons_self)
  | ok before tail msg after split foreign hit =>
      obtain ⟨_, same, _⟩ := unique before tail msg split foreign hit
      cases same
      exact ⟨after, turn⟩
  | bounds before tail msg after split foreign hit wraps =>
      obtain ⟨none, same, _⟩ := unique before tail msg split foreign hit
      cases none
      cases same
      rw [here] at wraps
      omega

/-- A turn on an empty queue moves nothing. -/
theorem empty_turn {s : Link} (inv : LinkInv isEvent s) (call : Call) (empty : s.queue = []) :
    ∃ ch, turnOf call s.w = turnOutcome call s.w (.drained, ch) ∧ Behind s ch [] ∧
      ch.msgqRptr = s.w.ch.msgqRptr ∧ ch.cmdqWptr = s.w.ch.cmdqWptr := by
  obtain ⟨outcome, spec, turn⟩ := turn_spec call inv.pending
  rw [empty] at spec
  cases spec with
  | drained after foreign pending consumed =>
      have moved := consumed.rptr
      refine ⟨after, turn, ⟨[], by rw [empty]; rfl, moved⟩, ?_, consumed.cmdqWptr⟩
      apply UInt32.toNat_inj.mp
      rw [moved]
      exact advance_zero inv.pending.slot
  | ok before tail msg after split => simp at split
  | bounds before tail msg after split => simp at split

def statusCall (own : Nat) (timeoutUs : UInt32) : Call := { fn := 76, cap := 64, timeoutUs, own }

def answeredOnce : Link :=
  { post (begin unused 76 none 0 64 0) (statusReply, some 0) with answered := 1 }

theorem answeredOnce_reached : Reaches isEvent unused answeredOnce := by
  have asked : LinkStep isEvent unused (begin unused 76 none 0 64 0) :=
    .call unused 76 none 0 64 0 rfl control_request ⟨by decide, Or.inl rfl⟩
  have replied : LinkStep isEvent (begin unused 76 none 0 64 0) answeredOnce :=
    .reply (begin unused 76 none 0 64 0) statusReply (by decide) (by decide)
  exact (Relation.ReflTransGen.single asked).tail replied

theorem ok_answers_oldest_first :
    ∃ i, Answers answeredOnce (statusCall 0 4000000) i (statusReply.payload 64) 4 0 ∧ i = 0 := by
  have inv := reaches_inv answeredOnce_reached (fresh_inv unused_fresh)
  have head : answeredOnce.queue = [(statusReply, some 0)] := rfl
  obtain ⟨ch, returned⟩ := head_returned inv (statusCall 0 4000000) head (by decide) (by decide)
  obtain ⟨i, answers, _, _, own⟩ := ok_answers_oldest isEvent unused answeredOnce unused_fresh
    answeredOnce_reached (statusCall 0 4000000) rfl _ _ _ ch returned
  exact ⟨i, answers, own fun j below => absurd below (Nat.not_lt_zero j)⟩

/-- A call on an empty queue gives up; its request stays unanswered. -/
theorem times_out {s : Link} (inv : LinkInv isEvent s) (idle : s.call = none)
    (empty : s.queue = []) (fits : Fits s.w.ch none 0) :
    ∃ t, Reaches isEvent s t ∧ t.call = none ∧ t.queue = [] ∧ t.sent = s.sent ++ [76] ∧
      t.answered = s.answered ∧ t.w.ch.msgqRptr = s.w.ch.msgqRptr ∧
      t.w.ch.cmdqWptr = (rpcSend s.w.ch 76 none 0).cmdqWptr := by
  have asked : LinkStep isEvent s (begin s 76 none 0 64 1) :=
    .call s 76 none 0 64 1 idle control_request fits
  have invAsked := step_inv asked inv
  obtain ⟨ch, first, behind, rptr, wptr⟩ := empty_turn invAsked (statusCall s.sent.length 1) empty
  have early : turnOf (statusCall s.sent.length 1) (begin s 76 none 0 64 1).w =
      .again { poll := 1, waited := 1000, ch := ch } := first
  have waited := @LinkStep.again isEvent (begin s 76 none 0 64 1) _ _ [] rfl early behind
  have invWaited := step_inv waited invAsked
  obtain ⟨ch', second, behind', rptr', wptr'⟩ :=
    empty_turn invWaited (statusCall s.sent.length 1) rfl
  have late : turnOf (statusCall s.sent.length 1) { poll := 1, waited := 1000, ch := ch } =
      .stop (some (.errTimeout, ch')) := second
  have gaveUp := @LinkStep.return isEvent
    { begin s 76 none 0 64 1 with w := { poll := 1, waited := 1000, ch := ch }, queue := [] }
    _ _ ch' [] rfl late behind'
  exact ⟨_, ((Relation.ReflTransGen.single asked).tail waited).tail gaveUp, rfl, rfl, rfl, rfl,
    rptr'.trans rptr, wptr'.trans wptr⟩

/-- The reply to a call that gave up answers the next one with its number. -/
theorem late_reply_delivered :
    ¬ ∀ (event : UInt32 → Prop) (s t : Link), Fresh event s → Reaches event s t →
      ∀ call, t.call = some call → ∀ reply replyLen rpcResult ch,
        turnOf call t.w = .stop (some (.ok reply replyLen rpcResult, ch)) →
        Answers t call call.own reply replyLen rpcResult := by
  intro claim
  obtain ⟨s, run, idle, empty, sent, answered, rptr, wptr⟩ :=
    times_out (fresh_inv unused_fresh) rfl rfl ⟨by decide, Or.inl rfl⟩
  have fits : Fits s.w.ch none 0 := by
    rw [Fits, wptr]
    exact ⟨by decide, Or.inl rfl⟩
  have asked : LinkStep isEvent s (begin s 76 none 0 64 0) :=
    .call s 76 none 0 64 0 idle control_request fits
  have replied := @LinkStep.reply isEvent (begin s 76 none 0 64 0) statusReply
    (by
      change (s.sent ++ [76])[s.answered]? = _
      rw [sent, answered]
      rfl)
    (by
      change slots s.queue + _ < 63
      rw [empty]
      decide)
  have whole := (run.tail asked).tail replied
  have inv := reaches_inv whole (fresh_inv unused_fresh)
  have queue : s.queue ++ [(statusReply, some s.answered)] = [(statusReply, some 0)] := by
    rw [empty, answered]
    rfl
  obtain ⟨ch, returned⟩ := head_returned inv (statusCall s.sent.length 4000000) queue
    (show statusReply.function = 76 by decide) (by
    change s.w.ch.msgqRptr.toNat + _ ≤ 63
    rw [rptr]
    decide)
  obtain ⟨msg, member, _⟩ := claim isEvent unused _ unused_fresh whole _ rfl _ _ _ ch returned
  change (msg, some s.sent.length) ∈ s.queue ++ [(statusReply, some s.answered)] at member
  rw [queue, sent] at member
  simp [unused] at member

end GspDriver.RpcCorrelation
