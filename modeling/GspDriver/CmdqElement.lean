import GspDriver.CmdqFrame

/-!
A command element read back. `decodeElement` is the reader of the queues: the
transport header, the RPC header behind it and the payload. The checksum makes
the 32-bit words of an element, itself included, cancel.
-/

namespace GspDriver.CmdqElement

open Bytes LittleEndian Loop Words GspRpc CmdqFrame

/-- What a reader finds at an element. -/
structure Element where
  elemCount : UInt32
  sequence : UInt32
  function : UInt32
  payload : List UInt8

/-- The reader takes a count that no ring has for a single slot, and a length
shorter than its header for an empty payload. -/
def decodeElement (lay : NvGspShmLayout) (m : Mem) (e : Nat) : Element :=
  let mec := ld32 m (e + nvGspMsgElemcountOff)
  let r := e + nvGspRpcHdrOff
  let mlen := ld32 m (r + nvGspRpcFLength)
  let plen := if mlen ≥ nvGspRpcHdrSize then mlen - nvGspRpcHdrSize else 0
  { elemCount := if mec = 0 ∨ mec > lay.msgCount then 1 else mec
    sequence := ld32 m (e + nvGspMsgSequenceOff)
    function := ld32 m (r + nvGspRpcFFunction)
    payload := (List.range plen.toNat).map fun i => m (e + nvGspRpcPayloadOff + i) }

theorem decode_fields {lay : NvGspShmLayout} {m : Mem} {e : Nat} {count seq len function : UInt32}
    (countRead : ld32 m (e + 40) = count) (sane : ¬ (count = 0 ∨ count > lay.msgCount))
    (seqRead : ld32 m (e + 36) = seq) (lengthRead : ld32 m (e + 56) = len)
    (long : len ≥ nvGspRpcHdrSize) (functionRead : ld32 m (e + 60) = function) :
    decodeElement lay m e =
      { elemCount := count, sequence := seq, function := function
        payload := (List.range (len - nvGspRpcHdrSize).toNat).map fun i => m (e + 80 + i) } := by
  subst countRead seqRead lengthRead functionRead
  have single : decodeElement lay m e =
      { elemCount := if ld32 m (e + 40) = 0 ∨ ld32 m (e + 40) > lay.msgCount then 1
          else ld32 m (e + 40)
        sequence := ld32 m (e + 36)
        function := ld32 m (e + 60)
        payload := (List.range (if ld32 m (e + 56) ≥ nvGspRpcHdrSize then
          ld32 m (e + 56) - nvGspRpcHdrSize else 0).toNat).map fun i => m (e + 80 + i) } := rfl
  rw [single, if_neg sane, if_pos long]

/-- The bytes of a payload; a null pointer leaves the zeros of the element. -/
def payloadBytes (payload : Payload) (payloadLen : UInt32) : List UInt8 :=
  (List.range payloadLen.toNat).map fun i => (payload.getD fun _ => 0) i

/-- The 32-bit words of a range, cancelled against each other. -/
def xorWords (m : Mem) (a count : Nat) : UInt32 :=
  forCount count (fun i sum => sum ^^^ ld32 m (a + 4 * i)) 0

/-- Checksum, sequence and count, and the RPC header up to its private result. -/
def HeaderField (o : Nat) : Prop := 32 ≤ o ∧ o < 44 ∨ 48 ≤ o ∧ o < 72

/-- An element for such a payload ends at or before the last slot. -/
def ElementFits (slot payloadLen : UInt32) : Prop :=
  slot.toNat * 0x1000 + 80 + payloadLen.toNat ≤ msgCount * 0x1000

instance (slot payloadLen : UInt32) : Decidable (ElementFits slot payloadLen) :=
  inferInstanceAs (Decidable (_ ≤ _))

/-! The sizes do not wrap. -/

theorem fits_count {slot payloadLen : UInt32} (fits : ElementFits slot payloadLen) :
    1 ≤ (elemCount payloadLen).toNat ∧ (elemCount payloadLen).toNat ≤ msgCount ∧
      80 + payloadLen.toNat ≤ (elementTotal payloadLen).toNat := by
  have count := msgCount_eq
  rw [ElementFits, count] at fits
  have total := elementTotal_toNat payloadLen (by omega)
  rw [elementTotal_pages] at total ⊢
  omega

/-! The element before its checksum is stored. -/

def elementHeader (m : Mem) (e : Nat) (seq function payloadLen : UInt32) : Mem :=
  let m := putBytes m e (elementTotal payloadLen).toNat fun _ => 0
  let m := st32 m (e + 36) seq
  let m := st32 m (e + 40) (elemCount payloadLen)
  let m := st32 m (e + 48) nvGspRpcHeaderVersion
  let m := st32 m (e + 52) nvGspRpcSignature
  let m := st32 m (e + 56) (rpcLen payloadLen)
  let m := st32 m (e + 60) function
  let m := st32 m (e + 64) 0xffffffff
  st32 m (e + 68) 0xffffffff

def elementBody (m : Mem) (e : Nat) (seq function : UInt32) (payload : Payload)
    (payloadLen : UInt32) : Mem :=
  putPayload (elementHeader m e seq function payloadLen) (e + 80) payload payloadLen

theorem write_eq (m : Mem) (cmdq : Nat) (slot seq function : UInt32) (payload : Payload)
    (payloadLen : UInt32) :
    nvGspCmdqWrite m cmdq slot seq function payload payloadLen =
      (elemCount payloadLen,
        st32 (elementBody m (entryAddr cmdq slot) seq function payload payloadLen)
          (entryAddr cmdq slot + 32)
          (elementChecksum (elementBody m (entryAddr cmdq slot) seq function payload payloadLen)
            (entryAddr cmdq slot) (elementTotal payloadLen))) := rfl

section Fields

variable (m : Mem) (e : Nat) (seq function : UInt32) (payload : Payload) (payloadLen : UInt32)

theorem body_field {o : Nat} (header : o + 4 ≤ 80) :
    ld32 (elementBody m e seq function payload payloadLen) (e + o) =
      ld32 (elementHeader m e seq function payloadLen) (e + o) := by
  apply ld32_congr
  intro i inside
  exact putPayload_outside _ _ _ _ _ (Or.inl (by omega))

theorem body_fields :
    ld32 (elementBody m e seq function payload payloadLen) (e + 36) = seq ∧
      ld32 (elementBody m e seq function payload payloadLen) (e + 40) = elemCount payloadLen ∧
      ld32 (elementBody m e seq function payload payloadLen) (e + 56) = rpcLen payloadLen ∧
      ld32 (elementBody m e seq function payload payloadLen) (e + 60) = function := by
  refine ⟨?_, ?_, ?_, ?_⟩
  all_goals
    rw [body_field _ _ _ _ _ _ (by omega), elementHeader]
    simp (disch := omega) only [ld32_st32_apart, ld32_st32]

/-- The gaps between the header fields keep the zeros of the cleared slots. -/
theorem header_zero {o : Nat} (inside : o < (elementTotal payloadLen).toNat)
    (gap : ¬ (36 ≤ o ∧ o < 44 ∨ 48 ≤ o ∧ o < 72)) :
    elementHeader m e seq function payloadLen (e + o) = 0 := by
  rw [elementHeader, st32_outside _ _ _ _ (by omega), st32_outside _ _ _ _ (by omega),
    st32_outside _ _ _ _ (by omega), st32_outside _ _ _ _ (by omega),
    st32_outside _ _ _ _ (by omega), st32_outside _ _ _ _ (by omega),
    st32_outside _ _ _ _ (by omega), st32_outside _ _ _ _ (by omega), putBytes_apply,
    if_pos (by omega)]

theorem body_zero {o : Nat} (inside : o < (elementTotal payloadLen).toNat)
    (gap : ¬ (36 ≤ o ∧ o < 44 ∨ 48 ≤ o ∧ o < 72))
    (outside : o < 80 ∨ 80 + payloadLen.toNat ≤ o) :
    elementBody m e seq function payload payloadLen (e + o) = 0 := by
  rw [elementBody, putPayload_outside _ _ _ _ _ (by omega)]
  exact header_zero m e seq function payloadLen inside gap

end Fields

/-! The checksum cancels the words. -/

theorem xorWords_succ (m : Mem) (a count : Nat) :
    xorWords m a (count + 1) = xorWords m a count ^^^ ld32 m (a + 4 * count) :=
  forCount_succ _ _ _

/-- Both halves of the 64-bit sum together are the sum of the 32-bit words. -/
theorem folded_sum (m : Mem) (a count : Nat) :
    let sum := forCount count (fun k sum => sum ^^^ ld64 m (a + k * 8)) 0
    (sum >>> 32).toUInt32 ^^^ sum.toUInt32 = xorWords m a (2 * count) := by
  induction count with
  | zero => simp [forCount, xorWords]
  | succ count ih =>
      obtain ⟨low, high⟩ := ld64_halves m (a + count * 8)
      have first : a + 4 * (2 * count) = a + count * 8 := by omega
      have second : a + 4 * (2 * count + 1) = a + count * 8 + 4 := by omega
      have double : 2 * (count + 1) = 2 * count + 1 + 1 := by omega
      simp only at ih ⊢
      rw [double, xorWords_succ, xorWords_succ, first, second, ← ih, forCount_succ]
      generalize forCount count _ _ = sum
      rw [UInt64.shiftRight_xor, UInt64.toUInt32_xor, UInt64.toUInt32_xor, low, high]
      ac_rfl

theorem checksum_words (m : Mem) (e : Nat) {payloadLen : UInt32} :
    elementChecksum m e (elementTotal payloadLen) =
      xorWords m e ((elementTotal payloadLen).toNat / 4) := by
  have pages := elementTotal_pages payloadLen
  have words : (elementTotal payloadLen).toNat / 4 =
      2 * (((elementTotal payloadLen).toNat + 8 - 1) / 8) := by omega
  rw [words]
  exact folded_sum m e _

/-- Storing a word where there was none adds it to the sum. -/
theorem xorWords_store (m : Mem) (a count j : Nat) (v : UInt32) (blank : ld32 m (a + 4 * j) = 0) :
    xorWords (st32 m (a + 4 * j) v) a count =
      if j < count then xorWords m a count ^^^ v else xorWords m a count := by
  induction count with
  | zero => rfl
  | succ count ih =>
      rw [xorWords_succ, xorWords_succ, ih]
      rcases Nat.lt_trichotomy j count with before | here | after
      · rw [if_pos before, if_pos (by omega), ld32_st32_apart _ _ (by omega)]
        ac_rfl
      · subst j
        rw [if_neg (by omega), if_pos (by omega), ld32_st32, blank, UInt32.xor_zero]
      · rw [if_neg (by omega), if_neg (by omega), ld32_st32_apart _ _ (by omega)]

/-- What a reader and the checksum rule say of a written element. -/
structure RoundTrip (lay : NvGspShmLayout) (cmdq : Nat) (slot seq function : UInt32)
    (payload : Payload) (payloadLen count : UInt32) (m : Mem) : Prop where
  decoded : decodeElement lay m (entryAddr cmdq slot) =
    { elemCount := count, sequence := seq, function := function
      payload := payloadBytes payload payloadLen }
  covers : 80 + payloadLen.toNat ≤ count.toNat * 0x1000
  clear : ∀ o < count.toNat * 0x1000, ¬ HeaderField o → o < 80 ∨ 80 + payloadLen.toNat ≤ o →
    m (entryAddr cmdq slot + o) = 0
  cancels : xorWords m (entryAddr cmdq slot) (count.toNat * 0x1000 / 4) = 0

section Written

variable (m : Mem) (cmdq : Nat) {slot : UInt32} (seq function : UInt32) (payload : Payload)
  {payloadLen : UInt32} (fits : ElementFits slot payloadLen)
include fits

theorem written_decodes :
    decodeElement nvGspShmCompute (nvGspCmdqWrite m cmdq slot seq function payload payloadLen).2
        (entryAddr cmdq slot) =
      { elemCount := elemCount payloadLen, sequence := seq, function := function
        payload := payloadBytes payload payloadLen } := by
  obtain ⟨some, most, covered⟩ := fits_count fits
  obtain ⟨seqField, countField, lengthField, functionField⟩ :=
    body_fields m (entryAddr cmdq slot) seq function payload payloadLen
  have ring : nvGspShmCompute.msgCount.toNat = msgCount := rfl
  have header : nvGspRpcHdrSize.toNat = 32 := by decide
  have count := msgCount_eq
  have sane : ¬ (elemCount payloadLen = 0 ∨ elemCount payloadLen > nvGspShmCompute.msgCount) := by
    rintro (none | many)
    · have zero := congrArg UInt32.toNat none
      rw [UInt32.toNat_zero] at zero
      omega
    · have above := UInt32.lt_iff_toNat_lt.mp many
      omega
  have small : 32 + payloadLen.toNat < 2 ^ 32 := by
    rw [ElementFits] at fits
    omega
  have length : (rpcLen payloadLen).toNat = 32 + payloadLen.toNat := by
    rw [rpcLen, UInt32.toNat_add, header]
    exact Nat.mod_eq_of_lt small
  have long : rpcLen payloadLen ≥ nvGspRpcHdrSize := by
    rw [ge_iff_le, UInt32.le_iff_toNat_le, header, length]
    omega
  have plen : (rpcLen payloadLen - nvGspRpcHdrSize).toNat = payloadLen.toNat := by
    rw [UInt32.toNat_sub_of_le _ _ long, header, length]
    omega
  have bytes : ∀ i < payloadLen.toNat,
      (nvGspCmdqWrite m cmdq slot seq function payload payloadLen).2
        (entryAddr cmdq slot + 80 + i) = (payload.getD fun _ => 0) i := by
    intro i inside
    rw [Nat.add_assoc, cmdqWrite_payload _ _ _ _ _ _ _ _ (by omega) (Or.inl (by omega))]
    cases payload with
    | none => rfl
    | some byte =>
        rw [payloadByte, if_pos (by omega), Nat.add_sub_cancel_left]
        rfl
  -- The checksum is stored below every field that is read back.
  have fields : ∀ o, 36 ≤ o →
      ld32 (nvGspCmdqWrite m cmdq slot seq function payload payloadLen).2
        (entryAddr cmdq slot + o) =
      ld32 (elementBody m (entryAddr cmdq slot) seq function payload payloadLen)
        (entryAddr cmdq slot + o) := by
    intro o above
    rw [write_eq, ld32_st32_apart _ _ (by omega)]
  rw [decode_fields ((fields 40 (by omega)).trans countField) sane
    ((fields 36 (by omega)).trans seqField) ((fields 56 (by omega)).trans lengthField) long
    ((fields 60 (by omega)).trans functionField), plen, payloadBytes]
  congr 1
  exact List.map_congr_left fun i member => bytes i (List.mem_range.mp member)

omit fits in
theorem written_clear {o : Nat} (inside : o < (elementTotal payloadLen).toNat)
    (outer : ¬ HeaderField o) (outside : o < 80 ∨ 80 + payloadLen.toNat ≤ o) :
    (nvGspCmdqWrite m cmdq slot seq function payload payloadLen).2 (entryAddr cmdq slot + o) =
      0 := by
  rw [HeaderField] at outer
  simp only [write_eq]
  rw [st32_outside _ _ _ _ (by omega)]
  exact body_zero _ _ _ _ _ _ inside (by omega) outside

theorem written_cancels :
    xorWords (nvGspCmdqWrite m cmdq slot seq function payload payloadLen).2 (entryAddr cmdq slot)
      ((elementTotal payloadLen).toNat / 4) = 0 := by
  obtain ⟨some, _, _⟩ := fits_count fits
  have pages := elementTotal_pages payloadLen
  have blank : ld32 (elementBody m (entryAddr cmdq slot) seq function payload payloadLen)
      (entryAddr cmdq slot + 4 * 8) = 0 := by
    apply UInt32.toNat_inj.mp
    rw [ld32_toNat, UInt32.toNat_zero]
    apply load_zero
    intro i inside
    rw [Nat.add_assoc]
    exact body_zero _ _ _ _ _ _ (by omega) (by omega) (by omega)
  -- the checksum field is the ninth word, and it was zero when the sum was taken
  have stored := xorWords_store
    (elementBody m (entryAddr cmdq slot) seq function payload payloadLen)
    (entryAddr cmdq slot) ((elementTotal payloadLen).toNat / 4) 8
    (elementChecksum (elementBody m (entryAddr cmdq slot) seq function payload payloadLen)
      (entryAddr cmdq slot) (elementTotal payloadLen)) blank
  rw [if_pos (by omega), checksum_words, UInt32.xor_self] at stored
  rw [write_eq, checksum_words]
  exact stored

end Written

/-- Whatever the slots held before, the element reads back as what was sent. -/
theorem element_round_trip (m : Mem) (cmdq : Nat) (slot seq function : UInt32) (payload : Payload)
    (payloadLen : UInt32) (fits : ElementFits slot payloadLen) :
    RoundTrip nvGspShmCompute cmdq slot seq function payload payloadLen
      (nvGspCmdqWrite m cmdq slot seq function payload payloadLen).1
      (nvGspCmdqWrite m cmdq slot seq function payload payloadLen).2 := by
  have pages := elementTotal_pages payloadLen
  have returned : (nvGspCmdqWrite m cmdq slot seq function payload payloadLen).1 =
      elemCount payloadLen := rfl
  rw [returned]
  constructor
  · exact written_decodes m cmdq seq function payload fits
  · rw [← pages]
    exact (fits_count fits).2.2
  · intro o inside outer outside
    rw [← pages] at inside
    exact written_clear m cmdq seq function payload inside outer outside
  · rw [← pages]
    exact written_cancels m cmdq seq function payload fits

/-- A payload of two slots in the last two slots of the ring. -/
theorem element_round_trip_last :
    RoundTrip nvGspShmCompute cmdqBase 61 7 103 (some fun i => UInt8.ofNat i) 8112
      (nvGspCmdqWrite (fun _ => 0xff) cmdqBase 61 7 103 (some fun i => UInt8.ofNat i) 8112).1
      (nvGspCmdqWrite (fun _ => 0xff) cmdqBase 61 7 103 (some fun i => UInt8.ofNat i) 8112).2 :=
  element_round_trip (fun _ => 0xff) cmdqBase 61 7 103 (some fun i => UInt8.ofNat i) 8112
    (by decide)

end GspDriver.CmdqElement
