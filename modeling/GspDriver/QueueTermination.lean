import GspDriver.Base.Orbit
import GspDriver.GspDrain

/-!
When the two loops over the message queue end. With the queue held fixed, a
consumer walks from slot to slot by the element counts it finds; the count is
made sane, but neither it nor the write pointer is checked against the other.
The walk ends exactly when it comes to the write pointer or to the message the
loop waits for, and if it does, it does so before it has made 63 steps.
-/

namespace GspDriver.QueueTermination

open Bytes LittleEndian Loop Orbit GspRpc GspRm MsgQueue Falcon CpuSequencer GspDrain

def element (s : Nat) : Nat := 0x42000 + 0x1000 * s

/-- The slots a consumer takes for the element in slot `s`. -/
def slotCount (m : Mem) (s : Nat) : UInt32 :=
  let ec := ld32 m (element s + 40)
  if ec = 0 ∨ ec > 63 then 1 else ec

def nextSlot (m : Mem) (s : Nat) : Nat := (s + (slotCount m s).toNat) % 63

def slotFunction (m : Mem) (s : Nat) : UInt32 := ld32 m (element s + 60)

/-- Where a consumer waiting for `fn` stops. -/
def Stops (m : Mem) (fn : UInt32) (s : Nat) : Prop :=
  s = (nvGspMsgqWriteptr m nvGspShmCompute).toNat ∨ slotFunction m s = fn

theorem nextSlot_lt (m : Mem) : ∀ s < 63, nextSlot m s < 63 :=
  fun _ _ => Nat.mod_lt _ (by decide)

theorem slotCount_bounds (m : Mem) (s : Nat) :
    0 < (slotCount m s).toNat ∧ (slotCount m s).toNat ≤ 63 := by
  have limit : (63 : UInt32).toNat = 63 := rfl
  simp only [slotCount]
  split
  · decide
  · rename_i sane
    simp only [not_or, gt_iff_lt, UInt32.not_lt] at sane
    have zero : (ld32 m (element s + 40)).toNat ≠ 0 := by
      intro none
      exact sane.1 (UInt32.toNat_inj.mp none)
    have few := UInt32.le_iff_toNat_le.mp sane.2
    omega

/-- The bytes a pass may change: the published read pointer and the saved
registers of an element. No consumer reads them to find its way. -/
def Scratch (x : Nat) : Prop :=
  (0x41020 ≤ x ∧ x < 0x41024) ∨ ∃ s < 63, element s + 88 ≤ x ∧ x < element s + 120

def Fixed (m shm : Mem) : Prop := ∀ x, ¬ Scratch x → shm x = m x

theorem entry_eq (rptr : UInt32) :
    entryAddr nvGspShmCompute.msgqOff.toNat rptr = element rptr.toNat := by
  rw [entry_place, element]

theorem field_fixed {m shm : Mem} (fixed : Fixed m shm) {s f : Nat} (header : f + 4 ≤ 88) :
    ld32 shm (element s + f) = ld32 m (element s + f) := by
  apply ld32_congr
  intro i below
  apply fixed
  rintro (published | ⟨other, _, low, high⟩)
  · simp only [element] at published
    omega
  · simp only [element] at low high
    omega

theorem rptr_fixed {m shm : Mem} (fixed : Fixed m shm) (rptr : UInt32) :
    Fixed m (msgqSetReadptr shm nvGspShmCompute rptr) := by
  intro x outside
  have free : x < 0x41020 ∨ 0x41024 ≤ x := by
    by_contra inside
    exact outside (Or.inl (by omega))
  rw [msgqSetReadptr, layout_msgq]
  exact (st32_outside _ _ _ _ free).trans (fixed x outside)

theorem dispatch_fixed {m : Mem} {d : Drain} (fixed : Fixed m d.shm) {s : Nat} (slot : s < 63)
    {turns spins : Nat} {c : SeqCtx} : Fixed m (dispatch turns spins c (element s) d).shm := by
  intro x outside
  have free : x < element s + 88 ∨ element s + 120 ≤ x := by
    by_contra inside
    exact outside (Or.inr ⟨s, slot, by omega⟩)
  rw [dispatch_outside free]
  exact fixed x outside

theorem moved_toNat {m : Mem} {rptr : UInt32} (slot : rptr.toNat < 63) :
    (wrapSlot nvGspShmCompute (rptr + slotCount m rptr.toNat)).toNat = nextSlot m rptr.toNat := by
  have few := (slotCount_bounds m rptr.toNat).2
  rw [wrapSlot_toNat, UInt32.toNat_add, nextSlot]
  omega

section Consumers

variable {m : Mem}

/-- Both consumers read the element at their pointer in the same way. -/
theorem element_read {shm : Mem} (fixed : Fixed m shm) (rptr : UInt32) :
    (if ld32 shm (entryAddr nvGspShmCompute.msgqOff.toNat rptr + nvGspMsgElemcountOff) = 0 ∨
        ld32 shm (entryAddr nvGspShmCompute.msgqOff.toNat rptr + nvGspMsgElemcountOff) >
          nvGspShmCompute.msgCount then 1
      else ld32 shm (entryAddr nvGspShmCompute.msgqOff.toNat rptr + nvGspMsgElemcountOff)) =
      slotCount m rptr.toNat ∧
    ld32 shm (entryAddr nvGspShmCompute.msgqOff.toNat rptr + nvGspRpcHdrOff + nvGspRpcFFunction) =
      slotFunction m rptr.toNat := by
  have count := @field_fixed m shm fixed rptr.toNat 40 (by decide)
  have function := @field_fixed m shm fixed rptr.toNat 60 (by decide)
  constructor
  · rw [entry_eq, layout_count, nvGspMsgElemcountOff, count]
    rfl
  · rw [entry_eq, Nat.add_assoc]
    exact function

structure Receiving (m : Mem) (ch : NvGspRpcChan) : Prop where
  lay : ch.lay = nvGspShmCompute
  slot : ch.msgqRptr.toNat < 63
  fixed : Fixed m ch.shm

theorem recv_walks (fn cap : UInt32) :
    Walks (recvTurn fn cap (nvGspMsgqWriteptr m nvGspShmCompute)) (Receiving m)
      (fun ch => ch.msgqRptr.toNat) (nextSlot m) (Stops m fn) := by
  intro ch receiving
  obtain ⟨lay, slot, fixed⟩ := receiving
  obtain ⟨count, function⟩ := element_read fixed ch.msgqRptr
  by_cases empty : ch.msgqRptr = nvGspMsgqWriteptr m nvGspShmCompute
  · refine Or.inl ⟨Or.inl (congrArg UInt32.toNat empty), (.drained, ch), ?_⟩
    rw [recvTurn, if_pos empty]
  · simp only [recvTurn, if_neg empty, lay, count, function]
    by_cases mine : slotFunction m ch.msgqRptr.toNat = fn
    · left
      refine ⟨Or.inr mine, ?_⟩
      simp only [if_pos mine]
      split
      · exact ⟨_, rfl⟩
      · exact ⟨_, rfl⟩
    · right
      refine ⟨?_, _, if_neg mine, ⟨?_, ?_, ?_⟩, ?_⟩
      · rintro (here | other)
        · exact empty (UInt32.toNat_inj.mp here)
        · exact mine other
      · exact lay
      · show (wrapSlot ch.lay _).toNat < 63
        rw [lay, moved_toNat slot]
        exact nextSlot_lt m _ slot
      · show Fixed m (msgqSetReadptr ch.shm ch.lay _)
        rw [lay]
        exact rptr_fixed fixed _
      · show (wrapSlot ch.lay _).toNat = _
        rw [lay, moved_toNat slot]

structure Draining (m : Mem) (d : Drain) : Prop where
  slot : d.rptr.toNat < 63
  fixed : Fixed m d.shm

theorem drain_walks (turns spins : Nat) (c : SeqCtx) :
    Walks (drainTurn turns spins c nvGspShmCompute (nvGspMsgqWriteptr m nvGspShmCompute))
      (Draining m) (fun d => d.rptr.toNat) (nextSlot m) (Stops m nvVgpuMsgEventGspInitDone) := by
  intro d draining
  obtain ⟨slot, fixed⟩ := draining
  obtain ⟨count, function⟩ := element_read fixed d.rptr
  by_cases empty : d.rptr = nvGspMsgqWriteptr m nvGspShmCompute
  · refine Or.inl ⟨Or.inl (congrArg UInt32.toNat empty), d, ?_⟩
    rw [drainTurn, if_pos empty]
  · simp only [drainTurn, if_neg empty, count, function]
    by_cases done : slotFunction m d.rptr.toNat = nvVgpuMsgEventGspInitDone
    · exact Or.inl ⟨Or.inr done, _, if_pos done⟩
    · right
      refine ⟨?_, _, if_neg done, ⟨?_, ?_⟩, ?_⟩
      · rintro (here | other)
        · exact empty (UInt32.toNat_inj.mp here)
        · exact done other
      · show (wrapSlot nvGspShmCompute _).toNat < 63
        rw [dispatch_rptr, moved_toNat slot]
        exact nextSlot_lt m _ slot
      · show Fixed m (msgqSetReadptr _ nvGspShmCompute _)
        rw [entry_eq]
        apply rptr_fixed
        apply dispatch_fixed _ slot
        exact fixed
      · show (wrapSlot nvGspShmCompute _).toNat = _
        rw [dispatch_rptr, moved_toNat slot]

end Consumers

/-- With the queue's content held fixed, each loop ends exactly when its walk
meets the write pointer or the awaited message, and then within 63 steps. -/
theorem consumers_end_iff (m : Mem) (rptr : UInt32) (slot : rptr.toNat < 63)
    (ch : NvGspRpcChan) (channel : ch.shm = m ∧ ch.lay = nvGspShmCompute ∧ ch.msgqRptr = rptr)
    (d : Drain) (drain : d.shm = m ∧ d.rptr = rptr) :
    (∀ fn cap, (∃ fuel result,
        whileFuel (recvTurn fn cap (nvGspMsgqWriteptr m nvGspShmCompute)) fuel ch = some result) ↔
      Meets 63 (nextSlot m) (Stops m fn) rptr.toNat) ∧
    (∀ turns spins c, (∃ fuel result,
        whileFuel (drainTurn turns spins c nvGspShmCompute (nvGspMsgqWriteptr m nvGspShmCompute))
          fuel d = some result) ↔
      Meets 63 (nextSlot m) (Stops m nvVgpuMsgEventGspInitDone) rptr.toNat) := by
  obtain ⟨shm, lay, pointer⟩ := channel
  obtain ⟨shared, position⟩ := drain
  constructor
  · intro fn cap
    have receiving : Receiving m ch := ⟨lay, pointer ▸ slot, fun x _ => congrFun shm x⟩
    rw [walk_ends_iff (recv_walks fn cap) receiving, meets_iff (nextSlot_lt m) slot, pointer]
  · intro turns spins c
    have draining : Draining m d := ⟨position ▸ slot, fun x _ => congrFun shared x⟩
    rw [walk_ends_iff (drain_walks turns spins c) draining, meets_iff (nextSlot_lt m) slot,
      position]

/-- An event of two slots, a reply to function 76 and INIT_DONE, in front of slot 4. -/
def threeMessages : Mem := fun a =>
  ([(0x41010, 4), (0x42028, 2), (0x4203c, 4), (0x4203d, 0x10), (0x4403c, 76), (0x4503c, 1),
    (0x4503d, 0x10)] : List (Nat × UInt8)).lookup a |>.getD 0

/-- One loop ends at the reply, the other one passes it and ends at INIT_DONE. -/
theorem consumers_end_iff_three_messages :
    (∃ fuel result,
      whileFuel (recvTurn 76 64 (nvGspMsgqWriteptr threeMessages nvGspShmCompute)) fuel
        ⟨threeMessages, nvGspShmCompute, 0, 0, 0⟩ = some result) ∧
    ∃ fuel result, whileFuel (drainTurn 0 0 ⟨0, 0, 0⟩ nvGspShmCompute
      (nvGspMsgqWriteptr threeMessages nvGspShmCompute)) fuel
      ⟨threeMessages, 0, 0, 0, false, Stream'.const 0, []⟩ = some result := by
  obtain ⟨receives, drains⟩ := consumers_end_iff threeMessages 0 (by decide)
    ⟨threeMessages, nvGspShmCompute, 0, 0, 0⟩ ⟨rfl, rfl, rfl⟩
    ⟨threeMessages, 0, 0, 0, false, Stream'.const 0, []⟩ ⟨rfl, rfl⟩
  exact ⟨(receives 76 64).mpr ⟨1, by decide, Or.inr (by decide +kernel)⟩,
    (drains 0 0 ⟨0, 0, 0⟩).mpr ⟨2, by decide, Or.inr (by decide +kernel)⟩⟩

/-- Every element claims three slots, and the write pointer is 1. -/
def strided : Mem := fun a =>
  if a = 0x41010 then 1 else if 0x42000 ≤ a ∧ a % 0x1000 = 40 then 3 else 0

/-- From slot 0 a step of three never comes to slot 1: neither loop ends. -/
theorem stride_skips_writeptr :
    (¬ ∃ fuel result, whileFuel (recvTurn 76 64 (nvGspMsgqWriteptr strided nvGspShmCompute)) fuel
        ⟨strided, nvGspShmCompute, 0, 0, 0⟩ = some result) ∧
      ¬ ∃ fuel result, whileFuel (drainTurn 0 0 ⟨0, 0, 0⟩ nvGspShmCompute
        (nvGspMsgqWriteptr strided nvGspShmCompute)) fuel
        ⟨strided, 0, 0, 0, false, Stream'.const 0, []⟩ = some result := by
  have misses : ∀ fn : UInt32, (∀ k < 63, ¬ ((nextSlot strided)^[k] 0 = 1 ∨
      slotFunction strided ((nextSlot strided)^[k] 0) = fn)) →
      ¬ ∃ k, Stops strided fn ((nextSlot strided)^[k] 0) := by
    intro fn never
    rw [← meets_iff (nextSlot_lt strided) (by decide)]
    rintro ⟨k, small, stop⟩
    exact never k small stop
  have reply := misses 76 (by decide +kernel)
  have done := misses nvVgpuMsgEventGspInitDone (by decide +kernel)
  constructor
  · exact mt (walk_ends_iff (recv_walks 76 64)
      (⟨rfl, by decide, fun _ _ => rfl⟩ : Receiving strided ⟨strided, nvGspShmCompute, 0, 0, 0⟩)).mp
      reply
  · exact mt (walk_ends_iff (drain_walks 0 0 ⟨0, 0, 0⟩)
      (⟨by decide, fun _ _ => rfl⟩ : Draining strided
        ⟨strided, 0, 0, 0, false, Stream'.const 0, []⟩)).mp done

end GspDriver.QueueTermination
