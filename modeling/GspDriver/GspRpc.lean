import GspDriver.LittleEndian
import GspDriver.Base.Loop

/-!
The shared message queues of gsp_rpc.c: their layout and the writer of a
command element. Shared memory is addressed from the start of the region.
A payload pointer may be absent. `nv_gsp_shm_compute` has no inputs and cannot
fail, so the layout is a constant; the header fields that only the GSP reads
are left out.
-/

namespace GspDriver.GspRpc

open Bytes LittleEndian Loop

def nvGspQueueSize : UInt32 := 0x40000
def nvGspQueueEntryoff : UInt32 := 0x1000
def nvGspQueueMsgsize : UInt32 := 0x1000
def nvGspMsgqRxhdroff : Nat := 32
def nvGspMsgElemHdrSize : UInt32 := 48
def nvMsgqTxWriteptrOff : Nat := 16
def nvGspMsgChecksumOff : Nat := 32
def nvGspMsgSequenceOff : Nat := 36
def nvGspMsgElemcountOff : Nat := 40
def nvGspRpcHdrOff : Nat := 48
def nvGspRpcHdrSize : UInt32 := 32
def nvGspRpcPayloadOff : Nat := 80
def nvGspRpcFLength : Nat := 8
def nvGspRpcFFunction : Nat := 12
def nvGspRpcHeaderVersion : UInt32 := 0x03000000
def nvGspRpcSignature : UInt32 := 0x43505256
def gspPage : UInt32 := 0x1000

structure NvGspShmLayout where
  ptesNr : UInt32
  ptesSize : UInt64
  cmdqOff : UInt64
  msgqOff : UInt64
  totalSize : UInt64
  msgCount : UInt32
  deriving DecidableEq

def nvGspShmCompute : NvGspShmLayout :=
  let nr := (nvGspQueueSize + nvGspQueueSize) / gspPage
  let nr := nr + ((nr.toUInt64 * 8 + gspPage.toUInt64 - 1) / gspPage.toUInt64).toUInt32
  let ptesSize := (nr.toUInt64 * 8 + gspPage.toUInt64 - 1) &&& ~~~(gspPage.toUInt64 - 1)
  { ptesNr := nr
    ptesSize := ptesSize
    cmdqOff := ptesSize
    msgqOff := ptesSize + nvGspQueueSize.toUInt64
    totalSize := ptesSize + nvGspQueueSize.toUInt64 * 2
    msgCount := (nvGspQueueSize - nvGspQueueEntryoff) / nvGspQueueMsgsize }

abbrev Payload := Option (Nat → UInt8)

/-- `rpc_len`, `total` and `elem_count` of `nv_gsp_cmdq_write`. -/
def rpcLen (payloadLen : UInt32) : UInt32 := nvGspRpcHdrSize + payloadLen

def elementTotal (payloadLen : UInt32) : UInt32 :=
  let argc := nvGspMsgElemHdrSize + ((rpcLen payloadLen + 7) &&& ~~~7)
  (argc + (gspPage - 1)) &&& ~~~(gspPage - 1)

def elemCount (payloadLen : UInt32) : UInt32 := elementTotal payloadLen / gspPage

def entryAddr (queue : Nat) (slot : UInt32) : Nat :=
  queue + nvGspQueueEntryoff.toNat + slot.toNat * nvGspQueueMsgsize.toNat

def putBytes (m : Mem) (a count : Nat) (byte : Nat → UInt8) : Mem :=
  forCount count (fun i m => put m (a + i) (byte i)) m

def putPayload (m : Mem) (a : Nat) (payload : Payload) (payloadLen : UInt32) : Mem :=
  match payload with
  | none => m
  | some byte => putBytes m a payloadLen.toNat byte

def elementChecksum (m : Mem) (e : Nat) (total : UInt32) : UInt32 :=
  let csum := forStep total.toNat 8 (fun o csum => csum ^^^ ld64 m (e + o)) (0 : UInt64)
  (csum >>> 32).toUInt32 ^^^ csum.toUInt32

/-- Element count and memory. -/
def nvGspCmdqWrite (m : Mem) (cmdq : Nat) (slot seq function : UInt32) (payload : Payload)
    (payloadLen : UInt32) : UInt32 × Mem :=
  let total := elementTotal payloadLen
  let e := entryAddr cmdq slot
  let m := putBytes m e total.toNat fun _ => 0
  let m := st32 m (e + nvGspMsgSequenceOff) seq
  let m := st32 m (e + nvGspMsgElemcountOff) (elemCount payloadLen)
  let r := e + nvGspRpcHdrOff
  let m := st32 m (r + 0) nvGspRpcHeaderVersion
  let m := st32 m (r + 4) nvGspRpcSignature
  let m := st32 m (r + nvGspRpcFLength) (rpcLen payloadLen)
  let m := st32 m (r + nvGspRpcFFunction) function
  let m := st32 m (r + 16) 0xffffffff
  let m := st32 m (r + 20) 0xffffffff
  let m := putPayload m (e + nvGspRpcPayloadOff) payload payloadLen
  (elemCount payloadLen, st32 m (e + nvGspMsgChecksumOff) (elementChecksum m e total))

def nvGspCmdqSetWriteptr (m : Mem) (lay : NvGspShmLayout) (wptr : UInt32) : Mem :=
  st32 m (lay.cmdqOff.toNat + nvMsgqTxWriteptrOff) wptr

def nvGspMsgqWriteptr (m : Mem) (lay : NvGspShmLayout) : UInt32 :=
  ld32 m (lay.msgqOff.toNat + nvMsgqTxWriteptrOff)

/-! Which bytes a written element covers, and what its payload area holds. -/

theorem putBytes_apply (m : Mem) (a count : Nat) (byte : Nat → UInt8) (x : Nat) :
    putBytes m a count byte x = if a ≤ x ∧ x < a + count then byte (x - a) else m x := by
  induction count with
  | zero =>
      rw [if_neg (by omega)]
      rfl
  | succ count ih =>
      rw [putBytes, forCount_succ, ← putBytes]
      by_cases last : x = a + count
      · subst x
        rw [put, if_pos rfl, if_pos (by omega), Nat.add_sub_cancel_left]
      · rw [put, if_neg last, ih]
        split_ifs <;> first | rfl | omega

theorem putPayload_outside (m : Mem) (a : Nat) (payload : Payload) (payloadLen : UInt32) (x : Nat)
    (outside : x < a ∨ a + payloadLen.toNat ≤ x ∨ payload = none) :
    putPayload m a payload payloadLen x = m x := by
  cases payload with
  | none => rfl
  | some byte =>
      rw [putPayload, putBytes_apply, if_neg (by simp at outside; omega)]

/-- Byte `o` of an element, past its headers. -/
def payloadByte (payload : Payload) (payloadLen : UInt32) (o : Nat) : UInt8 :=
  match payload with
  | none => 0
  | some byte => if o < 80 + payloadLen.toNat then byte (o - 80) else 0

/-- A write reaches the element, its headers, and as far as the payload goes. -/
theorem cmdqWrite_outside (m : Mem) (cmdq : Nat) (slot seq function : UInt32) (payload : Payload)
    (payloadLen : UInt32) (x : Nat)
    (outside : x < entryAddr cmdq slot ∨ entryAddr cmdq slot + 80 ≤ x ∧
      entryAddr cmdq slot + (elementTotal payloadLen).toNat ≤ x ∧
      (payload = none ∨ entryAddr cmdq slot + 80 + payloadLen.toNat ≤ x)) :
    (nvGspCmdqWrite m cmdq slot seq function payload payloadLen).2 x = m x := by
  simp only [nvGspCmdqWrite, nvGspMsgSequenceOff, nvGspMsgElemcountOff, nvGspRpcHdrOff,
    nvGspRpcFLength, nvGspRpcFFunction, nvGspRpcPayloadOff, nvGspMsgChecksumOff]
  generalize entryAddr cmdq slot = e at outside
  have missed : x < e + 80 ∨ e + 80 + payloadLen.toNat ≤ x ∨ payload = none := by
    rcases outside with below | ⟨_, _, absent | beyond⟩
    · exact Or.inl (by omega)
    · exact Or.inr (Or.inr absent)
    · exact Or.inr (Or.inl beyond)
  rw [st32_outside _ _ _ _ (by omega), putPayload_outside _ _ _ _ _ missed]
  rw [st32_outside _ _ _ _ (by omega), st32_outside _ _ _ _ (by omega),
    st32_outside _ _ _ _ (by omega), st32_outside _ _ _ _ (by omega),
    st32_outside _ _ _ _ (by omega), st32_outside _ _ _ _ (by omega),
    st32_outside _ _ _ _ (by omega), st32_outside _ _ _ _ (by omega)]
  rw [putBytes_apply, if_neg (by omega)]

theorem cmdqWrite_payload (m : Mem) (cmdq : Nat) (slot seq function : UInt32) (payload : Payload)
    (payloadLen : UInt32) (o : Nat) (area : 80 ≤ o)
    (inside : o < (elementTotal payloadLen).toNat ∨ payload ≠ none ∧ o < 80 + payloadLen.toNat) :
    (nvGspCmdqWrite m cmdq slot seq function payload payloadLen).2 (entryAddr cmdq slot + o) =
      payloadByte payload payloadLen o := by
  simp only [nvGspCmdqWrite, nvGspMsgSequenceOff, nvGspMsgElemcountOff, nvGspRpcHdrOff,
    nvGspRpcFLength, nvGspRpcFFunction, nvGspRpcPayloadOff, nvGspMsgChecksumOff]
  generalize entryAddr cmdq slot = e
  rw [st32_outside _ _ _ _ (by omega)]
  -- Without a payload on top, the byte is one that was cleared and no field covers.
  have zeroed : ∀ base : Mem, o < (elementTotal payloadLen).toNat →
      st32 (st32 (st32 (st32 (st32 (st32 (st32 (st32
        (putBytes base e (elementTotal payloadLen).toNat fun _ => 0) (e + 36) seq) (e + 40)
        (elemCount payloadLen)) (e + 48 + 0) nvGspRpcHeaderVersion) (e + 48 + 4)
        nvGspRpcSignature) (e + 48 + 8) (rpcLen payloadLen)) (e + 48 + 12) function)
        (e + 48 + 16) 0xffffffff) (e + 48 + 20) 0xffffffff (e + o) = 0 := by
    intro base within
    rw [st32_outside _ _ _ _ (by omega), st32_outside _ _ _ _ (by omega),
      st32_outside _ _ _ _ (by omega), st32_outside _ _ _ _ (by omega),
      st32_outside _ _ _ _ (by omega), st32_outside _ _ _ _ (by omega),
      st32_outside _ _ _ _ (by omega), st32_outside _ _ _ _ (by omega)]
    rw [putBytes_apply, if_pos (by omega)]
  cases payload with
  | none => exact zeroed m (by simpa using inside)
  | some byte =>
      rw [putPayload, putBytes_apply, payloadByte]
      by_cases covered : o < 80 + payloadLen.toNat
      · rw [if_pos (by omega), if_pos covered]
        congr 1
        omega
      · rw [if_neg (by omega), if_neg covered]
        exact zeroed m (by rcases inside with left | right <;> omega)

end GspDriver.GspRpc
