import GspDriver.CmdqFrame
import GspDriver.MsgQueue

/-!
The command queue between the driver and the GSP. The driver sends whenever it
likes and never looks at the GSP's read pointer; the GSP consumes elements in
order at any pace. `outstanding` are the commands sent and not yet consumed,
each with the bytes that its slots held when it was published. Everything else
the driver and the GSP do lies outside the command queue and is one step.
-/

namespace GspDriver.CmdqFlow

open Bytes LittleEndian Loop RingQueue GspRpc GspRm CmdqFrame
open MsgQueue (msgqRing)

/-- The two queues have the same geometry. -/
def cmdqRing : SlotRing :=
  { base := cmdqBase + 0x1000, slots := 63, slotBytes := 0x1000
    nonempty := msgqRing.nonempty, sized := msgqRing.sized }

structure Flow where
  ch : NvGspRpcChan
  gspRptr : Nat
  outstanding : List Item

/-- The command that a send publishes: its slots as it leaves them. -/
def sentItem (ch : NvGspRpcChan) (fn : UInt32) (req : Payload) (reqLen : UInt32) : Item :=
  { slots := (elemCount reqLen).toNat
    bytes := fun o => (rpcSend ch fn req reqLen).shm (cmdqRing.addr ch.cmdqWptr.toNat o) }

/-- One step of either side; `guard` restricts what is sent when. -/
inductive FlowStep (guard : Flow → UInt32 → Prop) : Flow → Flow → Prop
  | send (s : Flow) (fn : UInt32) (req : Payload) (reqLen : UInt32) (allowed : guard s reqLen) :
      FlowStep guard s
        { s with
          ch := rpcSend s.ch fn req reqLen
          outstanding := s.outstanding ++ [sentItem s.ch fn req reqLen] }
  | consume (s : Flow) (item : Item) (rest : List Item) (next : s.outstanding = item :: rest) :
      FlowStep guard s
        { s with gspRptr := cmdqRing.advance s.gspRptr item.slots, outstanding := rest }
  | elsewhere (s : Flow) (shm : Mem) (seq rptr : UInt32)
      (same : ∀ x, InCmdq x → shm x = s.ch.shm x) :
      FlowStep guard s { s with ch := { s.ch with shm := shm, seq := seq, msgqRptr := rptr } }

def Reaches (guard : Flow → UInt32 → Prop) : Flow → Flow → Prop :=
  Relation.ReflTransGen (FlowStep guard)

/-- The pointer that the GSP sees. -/
def published (s : Flow) : UInt32 := ld32 s.ch.shm (cmdqBase + nvMsgqTxWriteptrOff)

structure Fresh (s : Flow) : Prop where
  ready : ChanReady s.ch
  caught : s.gspRptr = s.ch.cmdqWptr.toNat
  shown : published s = s.ch.cmdqWptr
  empty : s.outstanding = []

/-- The commands sent and not consumed leave a slot free after this one, and
its 32-bit size computation does not wrap. -/
def Room (s : Flow) (reqLen : UInt32) : Prop :=
  SlotRing.total s.outstanding + (elemCount reqLen).toNat ≤ msgCount - 1 ∧
    reqLen.toNat < 2 ^ 32 - 0x2000

structure FlowInv (s : Flow) : Prop where
  ready : ChanReady s.ch
  slot : s.gspRptr < 63
  shown : published s = s.ch.cmdqWptr
  behind : s.ch.cmdqWptr.toNat = cmdqRing.advance s.gspRptr (SlotRing.total s.outstanding)
  room : SlotRing.total s.outstanding < 63
  someSlots : ∀ item ∈ s.outstanding, 1 ≤ item.slots
  intact : cmdqRing.Holds s.ch.shm s.gspRptr s.outstanding

theorem fresh_inv {s : Flow} (fresh : Fresh s) : FlowInv s := by
  have slot := fresh.ready.slot
  have count := msgCount_eq
  have caught := fresh.caught
  refine ⟨fresh.ready, by omega, fresh.shown, ?_, ?_, ?_, ?_⟩
  · rw [fresh.empty]
    change _ = (s.gspRptr + 0) % 63
    omega
  · rw [fresh.empty]
    decide
  · simp [fresh.empty]
  · rw [fresh.empty]
    exact fun o inside => absurd inside (Nat.not_lt_zero o)

theorem ring_base : cmdqRing.base = 0x2000 := by decide
theorem ring_capacity : cmdqRing.capacity = 0x3f000 := by decide

theorem distance_above {w x : Nat} (above : 0x2000 + 0x1000 * w ≤ x) (inside : x < 0x41000) :
    cmdqRing.distance w x = x - (0x2000 + 0x1000 * w) := by
  have turn : x - 0x2000 + (0x3f000 - 0x1000 * w) = x - (0x2000 + 0x1000 * w) + 0x3f000 := by omega
  rw [SlotRing.distance, ring_base, ring_capacity]
  change (x - 0x2000 + (0x3f000 - 0x1000 * w)) % 0x3f000 = _
  rw [turn, Nat.add_mod_right, Nat.mod_eq_of_lt (by omega)]

theorem send_wptr (ch : NvGspRpcChan) (ready : ChanReady ch) (fn : UInt32) (req : Payload)
    (reqLen : UInt32) (few : (elemCount reqLen).toNat < 2 ^ 31) :
    (rpcSend ch fn req reqLen).cmdqWptr.toNat =
      cmdqRing.advance ch.cmdqWptr.toNat (elemCount reqLen).toNat := by
  have slot := ready.slot
  have count := msgCount_eq
  change (wrapSlot ch.lay (ch.cmdqWptr + elemCount reqLen)).toNat = _
  rw [ready.lay]
  generalize elemCount reqLen = ec at few
  rw [MsgQueue.wrapSlot_toNat, UInt32.toNat_add]
  have whole : (ch.cmdqWptr.toNat + ec.toNat) % 2 ^ 32 = ch.cmdqWptr.toNat + ec.toNat :=
    Nat.mod_eq_of_lt (by omega)
  rw [whole]
  rfl

theorem send_published (s : Flow) (ready : ChanReady s.ch) (fn : UInt32) (req : Payload)
    (reqLen : UInt32) (items : List Item) :
    published { s with ch := rpcSend s.ch fn req reqLen, outstanding := items } =
      (rpcSend s.ch fn req reqLen).cmdqWptr := by
  rw [published, send_shm s.ch ready]
  exact ld32_st32 _ _ _

/-- A send keeps every ring byte at or past its own slots' end. -/
theorem send_keeps (ch : NvGspRpcChan) (ready : ChanReady ch) (fn : UInt32) (req : Payload)
    (reqLen : UInt32) (small : reqLen.toNat < 2 ^ 32 - 0x2000) (x : Nat)
    (above : 0x2000 ≤ x) (inside : x < 0x41000)
    (far : 0x1000 * (elemCount reqLen).toNat ≤ cmdqRing.distance ch.cmdqWptr.toNat x) :
    (rpcSend ch fn req reqLen).shm x = ch.shm x := by
  have base := cmdqBase_eq
  have covered := elementTotal_fits reqLen small
  rw [elementTotal_pages] at covered
  rw [send_shm ch ready, st32_outside _ _ _ _ (by rw [base]; omega)]
  apply cmdqWrite_outside
  rw [entryAddr_eq, elementTotal_pages, base]
  generalize (elemCount reqLen).toNat = pages at covered far ⊢
  by_cases before : x < 0x2000 + 0x1000 * ch.cmdqWptr.toNat
  · exact Or.inl (by omega)
  · rw [distance_above (by omega) inside] at far
    exact Or.inr ⟨by omega, by omega, Or.inr (by omega)⟩

theorem send_inv {s : Flow} (inv : FlowInv s) (fn : UInt32) (req : Payload) (reqLen : UInt32)
    (allowed : Room s reqLen) :
    FlowInv { s with
      ch := rpcSend s.ch fn req reqLen
      outstanding := s.outstanding ++ [sentItem s.ch fn req reqLen] } := by
  have count := msgCount_eq
  obtain ⟨room, small⟩ := allowed
  have covered := elementTotal_fits reqLen small
  rw [elementTotal_pages] at covered
  have total := SlotRing.total_append s.outstanding (sentItem s.ch fn req reqLen)
  have slots : (sentItem s.ch fn req reqLen).slots = (elemCount reqLen).toNat := rfl
  have moved := send_wptr s.ch inv.ready fn req reqLen (by
    have := msgCount_eq
    generalize (elemCount reqLen).toNat = pages at room
    omega)
  have limit : SlotRing.total s.outstanding + (elemCount reqLen).toNat < 63 := by
    rw [count] at room
    exact Nat.lt_of_le_of_lt room (by decide)
  have some : 1 ≤ (elemCount reqLen).toNat := by
    generalize (elemCount reqLen).toNat = pages at covered
    omega
  refine ⟨⟨inv.ready.lay, ?_⟩, inv.slot, send_published s inv.ready fn req reqLen _, ?_, ?_,
    ?_, ?_⟩
  · change (rpcSend s.ch fn req reqLen).cmdqWptr.toNat < msgCount
    rw [moved, count]
    exact SlotRing.advance_lt _ _
  · change (rpcSend s.ch fn req reqLen).cmdqWptr.toNat = _
    rw [moved, inv.behind, SlotRing.advance_add, total, slots]
  · change SlotRing.total (s.outstanding ++ _) < 63
    rw [total, slots]
    exact limit
  · intro item member
    rcases List.mem_append.mp member with older | newest
    · exact inv.someSlots item older
    · rw [List.mem_singleton.mp newest]
      exact some
  · apply SlotRing.holds_append
    -- The older commands stand before the write pointer, and the send writes from it on.
    · apply SlotRing.holds_behind inv.intact (k := (elemCount reqLen).toNat)
        (Nat.le_of_lt limit)
      intro x above inside far
      rw [ring_base] at above inside
      rw [ring_capacity] at inside
      rw [← inv.behind] at far
      exact send_keeps s.ch inv.ready fn req reqLen small x above inside far
    -- The new command is what the send wrote.
    · intro o inside
      rw [← inv.behind]
      have single : SlotRing.total [sentItem s.ch fn req reqLen] = (elemCount reqLen).toNat :=
        Nat.add_zero _
      rw [single] at inside
      rw [SlotRing.flat, if_pos (show o < cmdqRing.slotBytes *
        (sentItem s.ch fn req reqLen).slots from inside)]
      rfl

theorem consume_inv {s : Flow} (inv : FlowInv s) {item : Item} {rest : List Item}
    (next : s.outstanding = item :: rest) :
    FlowInv { s with
      gspRptr := cmdqRing.advance s.gspRptr item.slots
      outstanding := rest } := by
  have grown : SlotRing.total (item :: rest) = item.slots + SlotRing.total rest := by
    simp [SlotRing.total]
  have room := inv.room
  have behind := inv.behind
  have intact := inv.intact
  rw [next] at intact behind room
  refine ⟨inv.ready, SlotRing.advance_lt _ _, inv.shown, ?_, ?_, ?_, SlotRing.holds_tail intact⟩
  · change s.ch.cmdqWptr.toNat = _
    rw [behind, grown, SlotRing.advance_add]
  · change SlotRing.total rest < 63
    omega
  · intro other member
    exact inv.someSlots other (by rw [next]; exact List.mem_cons_of_mem item member)

/-- Writes outside the command queue change neither its ring nor its pointer. -/
theorem elsewhere_inv {s : Flow} (inv : FlowInv s) (shm : Mem) (seq rptr : UInt32)
    (same : ∀ x, InCmdq x → shm x = s.ch.shm x) :
    FlowInv { s with ch := { s.ch with shm := shm, seq := seq, msgqRptr := rptr } } := by
  have base := cmdqBase_eq
  have shown : published { s with ch := { s.ch with shm := shm, seq := seq, msgqRptr := rptr } } =
      published s := by
    apply ld32_congr
    intro i below
    apply same
    rw [InCmdq, base, nvMsgqTxWriteptrOff]
    omega
  refine ⟨⟨inv.ready.lay, inv.ready.slot⟩, inv.slot, shown.trans inv.shown, inv.behind,
    inv.room, inv.someSlots, ?_⟩
  apply SlotRing.holds_congr inv.intact
  intro x above inside
  apply same
  rw [ring_base] at above inside
  rw [ring_capacity] at inside
  rw [InCmdq, base]
  omega

theorem step_inv {s t : Flow} (step : FlowStep Room s t) (inv : FlowInv s) : FlowInv t := by
  cases step with
  | send fn req reqLen allowed => exact send_inv inv fn req reqLen allowed
  | consume item rest next => exact consume_inv inv next
  | elsewhere shm seq rptr same => exact elsewhere_inv inv shm seq rptr same

/-- In a run whose sends all find room, no unconsumed command is overwritten,
and the published pointer meets the GSP's only when nothing is outstanding. -/
theorem guarded_flow (s t : Flow) (fresh : Fresh s) (run : Reaches Room s t) :
    cmdqRing.Holds t.ch.shm t.gspRptr t.outstanding ∧
      (t.outstanding ≠ [] → (published t).toNat ≠ t.gspRptr) := by
  have inv : FlowInv t := by
    induction run with
    | refl => exact fresh_inv fresh
    | tail _ step ih => exact step_inv step ih
  refine ⟨inv.intact, ?_⟩
  intro waiting same
  have room := inv.room
  have slot := inv.slot
  have behind := inv.behind
  rw [inv.shown, behind] at same
  change (t.gspRptr + SlotRing.total t.outstanding) % 63 = t.gspRptr at same
  cases items : t.outstanding with
  | nil => exact waiting items
  | cons item rest =>
      have some := inv.someSlots item (by rw [items]; exact List.mem_cons_self)
      have grown : SlotRing.total (item :: rest) = item.slots + SlotRing.total rest := by
        simp [SlotRing.total]
      rw [items, grown] at same room
      omega

def idle : Flow := { ch := blankChan 0, gspRptr := 0, outstanding := [] }

theorem idle_fresh : Fresh idle := ⟨⟨rfl, by decide⟩, by decide, by decide, rfl⟩

/-- After a command of one slot. -/
def sendOne (s : Flow) : Flow :=
  { s with
    ch := rpcSend s.ch 76 none 0
    outstanding := s.outstanding ++ [sentItem s.ch 76 none 0] }

theorem guarded_flow_one :
    cmdqRing.Holds (sendOne idle).ch.shm 0 (sendOne idle).outstanding ∧
      ((sendOne idle).outstanding ≠ [] → (published (sendOne idle)).toNat ≠ 0) :=
  guarded_flow idle (sendOne idle) idle_fresh
    (.single (.send idle 76 none 0 ⟨by decide, by decide⟩))

/-- Nothing in the driver makes it wait for the GSP. -/
theorem sends_reach (n : Nat) :
    ∃ t, Reaches (fun _ _ => True) idle t ∧ ChanReady t.ch ∧ t.gspRptr = 0 ∧
      t.outstanding.length = n ∧ published t = t.ch.cmdqWptr ∧ t.ch.cmdqWptr.toNat = n % 63 := by
  induction n with
  | zero => exact ⟨idle, .refl, idle_fresh.ready, rfl, rfl, idle_fresh.shown, rfl⟩
  | succ n ih =>
      obtain ⟨t, run, ready, rptr, length, shown, slot⟩ := ih
      have one : (elemCount 0).toNat = 1 := by decide
      have moved : (sendOne t).ch.cmdqWptr.toNat = (n + 1) % 63 := by
        change (rpcSend t.ch 76 none 0).cmdqWptr.toNat = _
        rw [send_wptr t.ch ready 76 none 0 (by rw [one]; decide), slot, one]
        exact Nat.mod_add_mod n 63 1
      refine ⟨sendOne t, run.tail (.send t 76 none 0 trivial), ⟨ready.lay, ?_⟩, rptr, ?_,
        send_published t ready 76 none 0 _, moved⟩
      · rw [moved, msgCount_eq]
        exact Nat.mod_lt _ (by decide)
      · rw [sendOne, List.length_append, length]
        rfl

/-- After 63 unanswered commands the published pointer is back at the GSP's. -/
theorem unanswered_sends_meet :
    ¬ ∀ s t, Fresh s → Reaches (fun _ _ => True) s t →
      cmdqRing.Holds t.ch.shm t.gspRptr t.outstanding ∧
        (t.outstanding ≠ [] → (published t).toNat ≠ t.gspRptr) := by
  intro claim
  obtain ⟨t, run, _, rptr, length, shown, slot⟩ := sends_reach 63
  have apart := (claim idle t idle_fresh run).2
  refine apart ?_ ?_
  · intro empty
    rw [empty] at length
    cases length
  · rw [shown, slot, rptr]

end GspDriver.CmdqFlow
