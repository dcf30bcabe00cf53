import GspDriver.GspRm

/-!
The footprint of a command. The writer lays an element out linearly from its
slot, while the caller wraps only the pointer, so an element stays in the
command queue exactly when it ends at or before the last slot and its payload
lies within the element. The second condition is lost only by a length so near
`2 ^ 32` that the 32-bit size computation wraps.
-/

namespace GspDriver.CmdqFrame

open Bytes LittleEndian Loop Words GspRpc GspRm

def cmdqBase : Nat := nvGspShmCompute.cmdqOff.toNat
def msgCount : Nat := nvGspShmCompute.msgCount.toNat

theorem cmdqBase_eq : cmdqBase = 0x1000 := by decide
theorem msgCount_eq : msgCount = 63 := by decide

theorem entryAddr_eq (queue : Nat) (slot : UInt32) :
    entryAddr queue slot = queue + 0x1000 + slot.toNat * 0x1000 := rfl

/-- The channel uses the driver's layout and its pointer is a slot. -/
structure ChanReady (ch : NvGspRpcChan) : Prop where
  lay : ch.lay = nvGspShmCompute
  slot : ch.cmdqWptr.toNat < msgCount

def InCmdq (x : Nat) : Prop := cmdqBase ≤ x ∧ x < cmdqBase + 0x40000

theorem elementTotal_pages (len : UInt32) :
    (elementTotal len).toNat = (elemCount len).toNat * 0x1000 := by
  have page : gspPage.toNat = 0x1000 := by decide
  have mask : (gspPage - 1).toNat = 2 ^ 12 - 1 := by decide
  have count : (elemCount len).toNat = (elementTotal len).toNat / 0x1000 := by
    rw [elemCount, UInt32.toNat_div, page]
  have rounded := and_not_mask_toNat32
    (nvGspMsgElemHdrSize + ((rpcLen len + 7) &&& ~~~7) + (gspPage - 1)) mask
  rw [← elementTotal] at rounded
  rw [count, rounded]
  exact (congrArg (· * 2 ^ 12) (Nat.mul_div_cancel _ (Nat.two_pow_pos 12))).symm

/-- While no 32-bit sum wraps: the headers and the payload rounded up to 8 bytes, rounded up
to whole slots. -/
theorem elementTotal_toNat (len : UInt32) (small : len.toNat < 2 ^ 32 - 0x2000) :
    (elementTotal len).toNat = (48 + (39 + len.toNat) / 8 * 8 + 4095) / 4096 * 4096 := by
  have mask : (gspPage - 1).toNat = 2 ^ 12 - 1 := by decide
  have eight : (7 : UInt32).toNat = 2 ^ 3 - 1 := by decide
  have header : nvGspMsgElemHdrSize.toNat = 48 := by decide
  have rpcHeader : nvGspRpcHdrSize.toNat = 32 := by decide
  have length : (rpcLen len).toNat = 32 + len.toNat := by
    rw [rpcLen, UInt32.toNat_add, rpcHeader]
    omega
  have aligned := and_not_mask_toNat32 (rpcLen len + 7) eight
  rw [UInt32.toNat_add, length, eight] at aligned
  have rounded := and_not_mask_toNat32
    (nvGspMsgElemHdrSize + ((rpcLen len + 7) &&& ~~~7) + (gspPage - 1)) mask
  rw [← elementTotal, UInt32.toNat_add, UInt32.toNat_add, aligned, header, mask] at rounded
  have sum : (32 + len.toNat + (2 ^ 3 - 1)) % 2 ^ 32 = 39 + len.toNat := by omega
  rw [sum, Nat.mod_eq_of_lt (show 48 + (39 + len.toNat) / 2 ^ 3 * 2 ^ 3 < 2 ^ 32 by omega),
    Nat.mod_eq_of_lt (show 48 + (39 + len.toNat) / 2 ^ 3 * 2 ^ 3 + (2 ^ 12 - 1) < 2 ^ 32 by omega)]
    at rounded
  exact rounded

theorem elementTotal_fits (len : UInt32) (small : len.toNat < 2 ^ 32 - 0x2000) :
    80 + len.toNat ≤ (elementTotal len).toNat := by
  have total := elementTotal_toNat len small
  omega

/-- What the source says of a command: it changes nothing outside the command
queue, and the part that does not fit before the last slot continues at slot 0. -/
structure StaysInside (ch : NvGspRpcChan) (fn : UInt32) (req : Payload) (reqLen : UInt32) :
    Prop where
  frame : ∀ m x, ¬ InCmdq x → (rpcSend { ch with shm := m } fn req reqLen).shm x = m x
  wraps : ∀ m o, o < (elemCount reqLen).toNat * 0x1000 →
    (msgCount - ch.cmdqWptr.toNat) * 0x1000 ≤ o →
    (rpcSend { ch with shm := m } fn req reqLen).shm
      (cmdqBase + 0x1000 + (o - (msgCount - ch.cmdqWptr.toNat) * 0x1000)) =
        payloadByte req reqLen o

/-- The condition under which the writer keeps its promise. -/
def Fits (ch : NvGspRpcChan) (req : Payload) (reqLen : UInt32) : Prop :=
  ch.cmdqWptr.toNat + (elemCount reqLen).toNat ≤ msgCount ∧
    (req = none ∨ 80 + reqLen.toNat ≤ (elemCount reqLen).toNat * 0x1000)

theorem noRequest_fits {ch : NvGspRpcChan}
    (slot : ch.cmdqWptr.toNat + (elemCount 0).toNat ≤ msgCount) : Fits ch none 0 :=
  ⟨slot, Or.inl rfl⟩

theorem send_shm (ch : NvGspRpcChan) (ready : ChanReady ch) (fn : UInt32) (req : Payload)
    (reqLen : UInt32) :
    (rpcSend ch fn req reqLen).shm =
      st32 (nvGspCmdqWrite ch.shm cmdqBase ch.cmdqWptr ch.seq fn req reqLen).2 (cmdqBase + 16)
        (rpcSend ch fn req reqLen).cmdqWptr := by
  simp only [rpcSend, nvGspCmdqSetWriteptr, ready.lay]
  rfl

theorem send_outside (ch : NvGspRpcChan) (ready : ChanReady ch) (fn : UInt32) (req : Payload)
    (reqLen : UInt32) (fits : Fits ch req reqLen) (x : Nat) (outside : ¬ InCmdq x) :
    (rpcSend ch fn req reqLen).shm x = ch.shm x := by
  have base := cmdqBase_eq
  have count := msgCount_eq
  have slot := ready.slot
  simp only [InCmdq, not_and_or, not_le, not_lt] at outside
  rw [send_shm ch ready, st32_outside _ _ _ _ (by omega)]
  obtain ⟨room, payload⟩ := fits
  apply cmdqWrite_outside
  rw [entryAddr_eq, elementTotal_pages]
  generalize (elemCount reqLen).toNat = pages at room payload ⊢
  rw [base] at outside ⊢
  rw [count] at room slot
  rcases outside with below | above
  · exact Or.inl (by omega)
  · refine Or.inr ⟨by omega, by omega, payload.imp_right fun covered => ?_⟩
    omega

theorem flip_byte (b : UInt8) : b + 1 ≠ b := by
  intro same
  have wrapped := congrArg UInt8.toNat same
  have bound := b.toNat_lt
  rw [UInt8.toNat_add, UInt8.toNat_one] at wrapped
  omega

/-- A byte of payload area outside the queue is a change that some memory shows. -/
theorem frame_refuted (ch : NvGspRpcChan) (ready : ChanReady ch) (fn : UInt32) (req : Payload)
    (reqLen : UInt32) (o : Nat) (area : 80 ≤ o)
    (inside : o < (elementTotal reqLen).toNat ∨ req ≠ none ∧ o < 80 + reqLen.toNat)
    (outside : cmdqBase + 0x40000 ≤ entryAddr cmdqBase ch.cmdqWptr + o) :
    ¬ StaysInside ch fn req reqLen := by
  intro stays
  have base := cmdqBase_eq
  have miss : ¬ InCmdq (entryAddr cmdqBase ch.cmdqWptr + o) := by
    simp only [InCmdq]
    omega
  let other : NvGspRpcChan := { ch with shm := fun _ => payloadByte req reqLen o + 1 }
  have kept : (rpcSend other fn req reqLen).shm (entryAddr cmdqBase other.cmdqWptr + o) =
      payloadByte req reqLen o + 1 := stays.frame _ _ miss
  have far : cmdqBase + 0x40000 ≤ entryAddr cmdqBase other.cmdqWptr + o := outside
  rw [send_shm other ⟨ready.lay, ready.slot⟩, st32_outside _ _ _ _ (by omega),
    cmdqWrite_payload _ _ _ _ _ _ _ o area inside] at kept
  exact flip_byte _ kept.symm

/-- A request stays in the command queue exactly when it fits before the last
slot and its size computation does not wrap. -/
theorem send_stays_inside (ch : NvGspRpcChan) (ready : ChanReady ch) (fn : UInt32) (req : Payload)
    (reqLen : UInt32) : StaysInside ch fn req reqLen ↔ Fits ch req reqLen := by
  have base := cmdqBase_eq
  have count := msgCount_eq
  have slot := ready.slot
  constructor
  · intro stays
    have room : ch.cmdqWptr.toNat + (elemCount reqLen).toNat ≤ msgCount := by
      by_contra long
      refine frame_refuted ch ready fn req reqLen ((msgCount - ch.cmdqWptr.toNat) * 0x1000)
        (by omega) (Or.inl ?_) ?_ stays
      · rw [elementTotal_pages]
        generalize (elemCount reqLen).toNat = pages at long
        omega
      · rw [entryAddr_eq]
        omega
    refine ⟨room, ?_⟩
    -- A wrapped size clears less than the payload that is copied, which then runs on.
    by_contra both
    simp only [not_or, not_le] at both
    obtain ⟨present, short⟩ := both
    have large : ¬ reqLen.toNat < 2 ^ 32 - 0x2000 := by
      intro small
      have covered := elementTotal_fits reqLen small
      rw [elementTotal_pages] at covered
      exact Nat.not_lt.mpr covered short
    refine frame_refuted ch ready fn req reqLen 0x40000 (by omega) (Or.inr ⟨present, by omega⟩)
      ?_ stays
    rw [entryAddr_eq]
    omega
  · intro fits
    refine ⟨fun m x outside => ?_, fun m o inside beyond => ?_⟩
    · exact send_outside { ch with shm := m } ⟨ready.lay, ready.slot⟩ fn req reqLen fits x outside
    · have room := fits.1
      omega

def blankChan (wptr : UInt32) : NvGspRpcChan :=
  { shm := fun _ => 0, lay := nvGspShmCompute, cmdqWptr := wptr, seq := wptr, msgqRptr := 0 }

theorem send_stays_inside_first :
    StaysInside (blankChan 61) 103 (some fun _ => 0xff) 4200 :=
  (send_stays_inside (blankChan 61) ⟨rfl, by decide⟩ 103 (some fun _ => 0xff) 4200).mpr
    ⟨by decide, Or.inr (by decide)⟩

/-- A two-slot request from the last slot runs into the message queue. -/
theorem last_slot_spills :
    ¬ ∀ (ch : NvGspRpcChan) (fn : UInt32) (req : Payload) (reqLen : UInt32), ChanReady ch →
      (elemCount reqLen).toNat ≤ msgCount → StaysInside ch fn req reqLen := by
  intro claim
  refine frame_refuted (blankChan 62) ⟨rfl, by decide⟩ 103 (some fun _ => 0xff) 4200 0x1000
    (by decide) (Or.inl (by decide)) (by decide) ?_
  exact claim (blankChan 62) 103 (some fun _ => 0xff) 4200 ⟨rfl, by decide⟩ (by decide)

end GspDriver.CmdqFrame
