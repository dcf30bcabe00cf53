import GspDriver.GspFifo

/-!
The three encoders of gsp_fifo.c against one reader of the method stream. A
packet is a header and its data; a stream is `Framed` when each header names
incrementing methods and counts the words up to the next header. The reader
takes a stream apart by the counts alone, so it accepts the framed streams and
no others, and what the methods hold is read off its packets.
-/

namespace GspDriver.FifoEncoding

open Words GspFifo

def headerOpcode (header : UInt32) : Nat := (header >>> 29).toNat
def headerCount (header : UInt32) : Nat := ((header >>> 16) &&& 0x1fff).toNat
def headerSubch (header : UInt32) : Nat := ((header >>> 13) &&& 0x7).toNat
def headerMthd (header : UInt32) : Nat := (header &&& 0xfff).toNat * 4

structure Packet where
  header : UInt32
  data : List UInt32
  deriving DecidableEq

def Packet.words (p : Packet) : List UInt32 := p.header :: p.data

/-- The methods of a packet, each four bytes behind the one before it. -/
def Packet.methods (p : Packet) : List (Nat × UInt32) :=
  p.data.mapIdx fun i value => (headerMthd p.header + 4 * i, value)

def packets : List UInt32 → Option (List Packet)
  | [] => some []
  | header :: rest =>
      if headerOpcode header = 1 ∧ headerCount header ≤ rest.length then
        (packets (rest.drop (headerCount header))).map
          (⟨header, rest.take (headerCount header)⟩ :: ·)
      else none
  termination_by pb => pb.length
  decreasing_by
    rw [List.length_cons, List.length_drop]
    omega

structure Framed (pb : List UInt32) (ps : List Packet) : Prop where
  stream : pb = ps.flatMap Packet.words
  incrementing : ∀ p ∈ ps, headerOpcode p.header = 1
  counted : ∀ p ∈ ps, headerCount p.header = p.data.length

theorem framed_packets {pb : List UInt32} {ps : List Packet} (framed : Framed pb ps) :
    packets pb = some ps := by
  obtain ⟨stream, incrementing, counted⟩ := framed
  subst stream
  induction ps with
  | nil => rw [List.flatMap_nil, packets]
  | cons p rest ih =>
      rw [List.forall_mem_cons] at incrementing counted
      have later := ih incrementing.2 counted.2
      rw [List.flatMap_cons, Packet.words, List.cons_append, packets, if_pos]
      · rw [counted.1, List.drop_left, List.take_left, later]
        rfl
      · rw [counted.1, List.length_append]
        exact ⟨incrementing.1, by omega⟩

theorem packets_framed {pb : List UInt32} {ps : List Packet} (read : packets pb = some ps) :
    Framed pb ps := by
  induction pb using packets.induct generalizing ps with
  | case1 =>
      rw [packets] at read
      obtain rfl := Option.some.inj read
      exact ⟨rfl, by simp, by simp⟩
  | case2 header rest valid ih =>
      rw [packets, if_pos valid, Option.map_eq_some_iff] at read
      obtain ⟨later, taken, rfl⟩ := read
      obtain ⟨stream, incrementing, counted⟩ := ih taken
      refine ⟨?_, ?_, ?_⟩
      · rw [List.flatMap_cons, ← stream, Packet.words, List.cons_append, List.take_append_drop]
      · exact List.forall_mem_cons.mpr ⟨valid.1, incrementing⟩
      · refine List.forall_mem_cons.mpr ⟨?_, counted⟩
        rw [List.length_take, Nat.min_eq_left valid.2]
  | case3 header rest invalid =>
      rw [packets, if_neg invalid] at read
      cases read

theorem packets_iff {pb : List UInt32} {ps : List Packet} :
    packets pb = some ps ↔ Framed pb ps :=
  ⟨packets_framed, framed_packets⟩

/-! What the GPU reads. -/

/-- The copy engine's launch, when every method goes to its subchannel. -/
def readCopy (pb : List UInt32) : Option Launch := do
  let ps ← packets pb
  if ps.all fun p => headerSubch p.header = nvFifoSubchCopy.toNat then
    launchOf (ps.flatMap Packet.methods)
  else none

/-- A release by the host: 32 bits of payload in the low word. -/
structure Release where
  sem : Nat
  payload : UInt32
  deriving DecidableEq

def releaseOf (given : List (Nat × UInt32)) : Option Release := do
  let addrLo ← given.lookup 0x5c
  let addrHi ← given.lookup 0x60
  let payloadLo ← given.lookup 0x64
  let payloadHi ← given.lookup 0x68
  let execute ← given.lookup 0x6c
  if execute &&& 0x7 = 1 ∧ payloadHi = 0 then
    return { sem := entryVa addrLo addrHi, payload := payloadLo }
  else none

def readRelease (pb : List UInt32) : Option Release := do
  let ps ← packets pb
  if ps.all fun p => headerSubch p.header = 0 then releaseOf (ps.flatMap Packet.methods) else none

/-! The builders. -/

section Headers

variable {subch mthd count : UInt32} (narrow : subch.toNat < 2 ^ 3) (low : mthd.toNat < 2 ^ 14)
  (few : count.toNat < 2 ^ 13)

include narrow low few

/-- The four fields of a header lie one above the other. -/
theorem pbHdr_toNat : (pbHdr subch mthd count).toNat =
    2 ^ 29 + (2 ^ 16 * count.toNat + (2 ^ 13 * subch.toNat + mthd.toNat / 4)) := by
  have shift16 : (16 : UInt32).toNat % 32 = 16 := by decide
  have shift13 : (13 : UInt32).toNat % 32 = 13 := by decide
  have shift2 : (2 : UInt32).toNat % 32 = 2 := by decide
  have opcode : (nvc56fDmaIncrOpcodeValue <<< 29).toNat = 2 ^ 29 * 1 := by decide
  have counts : ((count &&& 0x1fff) <<< 16).toNat = 2 ^ 16 * count.toNat := by
    rw [UInt32.toNat_shiftLeft, mask32 count (k := 13) (by decide), Nat.mod_eq_of_lt few, shift16,
      Nat.shiftLeft_eq]
    omega
  have channel : ((subch &&& 0x7) <<< 13).toNat = 2 ^ 13 * subch.toNat := by
    rw [UInt32.toNat_shiftLeft, mask32 subch (k := 3) (by decide), Nat.mod_eq_of_lt narrow, shift13,
      Nat.shiftLeft_eq]
    omega
  have method : ((mthd >>> 2) &&& 0xfff).toNat = mthd.toNat / 4 := by
    rw [mask32 _ (k := 12) (by decide), UInt32.toNat_shiftRight, shift2, Nat.shiftRight_eq_div_pow]
    omega
  have inner : 2 ^ 13 * subch.toNat ||| mthd.toNat / 4 = 2 ^ 13 * subch.toNat + mthd.toNat / 4 :=
    (Nat.two_pow_add_eq_or_of_lt (by omega) _).symm
  have middle : 2 ^ 16 * count.toNat ||| (2 ^ 13 * subch.toNat + mthd.toNat / 4) =
      2 ^ 16 * count.toNat + (2 ^ 13 * subch.toNat + mthd.toNat / 4) :=
    (Nat.two_pow_add_eq_or_of_lt (by omega) _).symm
  rw [pbHdr, UInt32.toNat_or, UInt32.toNat_or, UInt32.toNat_or, opcode, counts, channel, method,
    Nat.or_assoc, Nat.or_assoc, inner, middle, ← Nat.two_pow_add_eq_or_of_lt (by omega),
    Nat.mul_one]

/-- What a header says, field by field. -/
structure Heads (header : UInt32) (subch mthd count : Nat) : Prop where
  opcode : headerOpcode header = 1
  subch : headerSubch header = subch
  mthd : headerMthd header = mthd
  count : headerCount header = count

theorem pbHdr_heads (aligned : 4 ∣ mthd.toNat) :
    Heads (pbHdr subch mthd count) subch.toNat mthd.toNat count.toNat := by
  have header := pbHdr_toNat narrow low few
  have shift29 : (29 : UInt32).toNat % 32 = 29 := by decide
  have shift16 : (16 : UInt32).toNat % 32 = 16 := by decide
  have shift13 : (13 : UInt32).toNat % 32 = 13 := by decide
  constructor
  · rw [headerOpcode, UInt32.toNat_shiftRight, shift29, Nat.shiftRight_eq_div_pow, header]
    omega
  · rw [headerSubch, mask32 _ (k := 3) (by decide), UInt32.toNat_shiftRight, shift13,
      Nat.shiftRight_eq_div_pow, header]
    omega
  · rw [headerMthd, mask32 _ (k := 12) (by decide), header]
    omega
  · rw [headerCount, mask32 _ (k := 13) (by decide), UInt32.toNat_shiftRight, shift16,
      Nat.shiftRight_eq_div_pow, header]
    omega

end Headers

theorem heads_framed {pb : List UInt32} {ps : List Packet} (stream : pb = ps.flatMap Packet.words)
    (heads : ∀ p ∈ ps, ∃ subch mthd, Heads p.header subch mthd p.data.length) : Framed pb ps := by
  refine ⟨stream, ?_, ?_⟩
  · intro p member
    obtain ⟨subch, mthd, fields⟩ := heads p member
    exact fields.opcode
  · intro p member
    obtain ⟨subch, mthd, fields⟩ := heads p member
    exact fields.count

def bindPacket (classEngineId : UInt32) : Packet :=
  ⟨pbHdr nvFifoSubchCopy nvc56fSetObject 1, [classEngineId]⟩

def semaphorePacket (semVa : UInt64) (payload : UInt32) : Packet :=
  ⟨pbHdr nvFifoSubchCopy nvc7b5SetSemaphoreA 3, [upper semVa, lower semVa, payload]⟩

def offsetsPacket (srcVa dstVa : UInt64) : Packet :=
  ⟨pbHdr nvFifoSubchCopy nvc7b5OffsetInUpper 4,
    [upper srcVa, lower srcVa, upper dstVa, lower dstVa]⟩

def lengthPacket (bytes : UInt32) : Packet := ⟨pbHdr nvFifoSubchCopy nvc7b5LineLengthIn 1, [bytes]⟩

def launchPacket : Packet :=
  ⟨pbHdr nvFifoSubchCopy nvc7b5LaunchDma 1,
    [nvc7b5LdXferNonPipelined ||| nvc7b5LdFlushEnable ||| nvc7b5LdSemReleaseOneWord |||
      nvc7b5LdSrcLayoutPitch ||| nvc7b5LdDstLayoutPitch ||| nvc7b5LdDisablePlc]⟩

def releasePacket (semVa : UInt64) (payload : UInt32) : Packet :=
  ⟨pbHdr 0 nvc56fSemAddrLo 5, [(semVa &&& 0xfffffffc).toUInt32,
    ((semVa >>> 32) &&& 0xff).toUInt32, payload, 0,
    nvc56fSemExecuteOperationRelease ||| nvc56fSemExecuteReleaseWfiEn]⟩

section Builders

variable (classEngineId : UInt32) (srcVa dstVa : UInt64) (bytes : UInt32) (semVa : UInt64)
  (payload : UInt32)

theorem bind_heads : Heads (bindPacket classEngineId).header 4 0 1 :=
  pbHdr_heads (by decide) (by decide) (by decide) (by decide)

theorem semaphore_heads : Heads (semaphorePacket semVa payload).header 4 0x240 3 :=
  pbHdr_heads (by decide) (by decide) (by decide) (by decide)

theorem offsets_heads : Heads (offsetsPacket srcVa dstVa).header 4 0x400 4 :=
  pbHdr_heads (by decide) (by decide) (by decide) (by decide)

theorem length_heads : Heads (lengthPacket bytes).header 4 0x418 1 :=
  pbHdr_heads (by decide) (by decide) (by decide) (by decide)

theorem launch_heads : Heads launchPacket.header 4 0x300 1 :=
  pbHdr_heads (by decide) (by decide) (by decide) (by decide)

theorem release_heads : Heads (releasePacket semVa payload).header 0 0x5c 5 :=
  pbHdr_heads (by decide) (by decide) (by decide) (by decide)

def copyPackets : List Packet :=
  (if classEngineId ≠ 0 then [bindPacket classEngineId] else []) ++
    [semaphorePacket semVa payload, offsetsPacket srcVa dstVa, lengthPacket bytes, launchPacket]

/-- Every packet of a copy goes to the copy engine's subchannel. -/
theorem copy_heads : ∀ p ∈ copyPackets classEngineId srcVa dstVa bytes semVa payload,
    ∃ mthd, Heads p.header 4 mthd p.data.length := by
  intro p member
  rw [copyPackets, List.mem_append] at member
  rcases member with bound | copy
  · split at bound
    · obtain rfl := List.mem_singleton.mp bound
      exact ⟨_, bind_heads classEngineId⟩
    · cases bound
  · simp only [List.mem_cons, List.not_mem_nil, or_false] at copy
    rcases copy with rfl | rfl | rfl | rfl
    · exact ⟨_, semaphore_heads semVa payload⟩
    · exact ⟨_, offsets_heads srcVa dstVa⟩
    · exact ⟨_, length_heads bytes⟩
    · exact ⟨_, launch_heads⟩

theorem copy_framed : Framed (nvGspFifoBuildCeCopy classEngineId srcVa dstVa bytes semVa payload)
    (copyPackets classEngineId srcVa dstVa bytes semVa payload) := by
  apply heads_framed
  · rw [nvGspFifoBuildCeCopy, copyPackets, List.flatMap_append]
    split
    · rfl
    · rfl
  · intro p member
    exact ⟨4, copy_heads _ _ _ _ _ _ p member⟩

/-- What the engine's registers are given, in order. -/
theorem copy_methods : (copyPackets classEngineId srcVa dstVa bytes semVa payload).flatMap
      Packet.methods =
    (if classEngineId ≠ 0 then [(0, classEngineId)] else []) ++
      [(0x240, upper semVa), (0x244, lower semVa), (0x248, payload), (0x400, upper srcVa),
        (0x404, lower srcVa), (0x408, upper dstVa), (0x40c, lower dstVa), (0x418, bytes),
        (0x300, 0x0400018e)] := by
  have bind := (bind_heads classEngineId).mthd
  have semaphore := (semaphore_heads semVa payload).mthd
  have offsets := (offsets_heads srcVa dstVa).mthd
  have length := (length_heads bytes).mthd
  have launch := launch_heads.mthd
  rw [copyPackets, List.flatMap_append]
  congr 1
  · split
    · simp only [List.flatMap_cons, List.flatMap_nil, Packet.methods, bind]
      rfl
    · rfl
  · simp only [List.flatMap_cons, List.flatMap_nil, Packet.methods, semaphore, offsets, length,
      launch]
    rfl

theorem copy_read (src : srcVa.toNat < 2 ^ 49) (dst : dstVa.toNat < 2 ^ 49)
    (sem : semVa.toNat < 2 ^ 49) :
    readCopy (nvGspFifoBuildCeCopy classEngineId srcVa dstVa bytes semVa payload) =
      some { object := if classEngineId ≠ 0 then some classEngineId else none
             src := srcVa.toNat, dst := dstVa.toNat, bytes, sem := semVa.toNat, payload } := by
  have copies : ∀ p ∈ copyPackets classEngineId srcVa dstVa bytes semVa payload,
      headerSubch p.header = nvFifoSubchCopy.toNat := by
    intro p member
    obtain ⟨mthd, heads⟩ := copy_heads _ _ _ _ _ _ p member
    exact heads.subch
  rw [readCopy, packets_iff.mpr (copy_framed ..), ← Nat.mod_eq_of_lt src, ← Nat.mod_eq_of_lt dst,
    ← Nat.mod_eq_of_lt sem, ← address_upper srcVa, ← address_upper dstVa, ← address_upper semVa]
  simp only [Option.bind_eq_bind, Option.bind_some, List.all_eq_true, decide_eq_true_eq]
  rw [if_pos copies, copy_methods]
  split
  · rfl
  · rfl

theorem release_framed :
    Framed (nvGspFifoBuildSemRelease semVa payload) [releasePacket semVa payload] := by
  apply heads_framed
  · rfl
  · exact List.forall_mem_singleton.mpr ⟨_, _, release_heads semVa payload⟩

theorem release_read (low : semVa.toNat < 2 ^ 40) (aligned : 4 ∣ semVa.toNat) :
    readRelease (nvGspFifoBuildSemRelease semVa payload) =
      some { sem := semVa.toNat, payload } := by
  -- The address is split as in an entry of length 0.
  have place := @entry_va semVa 0 (by decide) low aligned
  have high : (nvGspFifoGpfifoEntry semVa 0).2 = ((semVa >>> 32) &&& 0xff).toUInt32 :=
    UInt32.or_zero
  rw [high] at place
  have heads := release_heads semVa payload
  have subch : ∀ p ∈ [releasePacket semVa payload], headerSubch p.header = 0 :=
    List.forall_mem_singleton.mpr heads.subch
  rw [readRelease, packets_iff.mpr (release_framed ..), ← place]
  simp only [Option.bind_eq_bind, Option.bind_some, List.all_eq_true, decide_eq_true_eq]
  rw [if_pos subch]
  simp only [List.flatMap_cons, List.flatMap_nil, Packet.methods, heads.mthd]
  rfl

end Builders

/-- The streams are framed, and the reader finds in each of them, and in an
entry of the ring, exactly what it was built from. -/
theorem encoders_invertible :
    (∀ (classEngineId : UInt32) (srcVa dstVa : UInt64) (bytes : UInt32) (semVa : UInt64)
        (payload : UInt32), srcVa.toNat < 2 ^ 49 → dstVa.toNat < 2 ^ 49 → semVa.toNat < 2 ^ 49 →
      (∃ ps, Framed (nvGspFifoBuildCeCopy classEngineId srcVa dstVa bytes semVa payload) ps) ∧
        readCopy (nvGspFifoBuildCeCopy classEngineId srcVa dstVa bytes semVa payload) =
          some { object := if classEngineId ≠ 0 then some classEngineId else none
                 src := srcVa.toNat, dst := dstVa.toNat, bytes, sem := semVa.toNat, payload }) ∧
    (∀ (semVa : UInt64) (payload : UInt32), semVa.toNat < 2 ^ 40 → 4 ∣ semVa.toNat →
      (∃ ps, Framed (nvGspFifoBuildSemRelease semVa payload) ps) ∧
        readRelease (nvGspFifoBuildSemRelease semVa payload) =
          some { sem := semVa.toNat, payload }) ∧
    ∀ (pbVa : UInt64) (pbDwords : UInt32), pbVa.toNat < 2 ^ 40 → 4 ∣ pbVa.toNat →
      pbDwords.toNat < 2 ^ 21 →
      entryVa (nvGspFifoGpfifoEntry pbVa pbDwords).1 (nvGspFifoGpfifoEntry pbVa pbDwords).2 =
          pbVa.toNat ∧
        entryDwords (nvGspFifoGpfifoEntry pbVa pbDwords).2 = pbDwords.toNat := by
  refine ⟨?_, ?_, ?_⟩
  · intro classEngineId srcVa dstVa bytes semVa payload src dst sem
    exact ⟨⟨_, copy_framed ..⟩, copy_read _ _ _ _ _ _ src dst sem⟩
  · intro semVa payload low aligned
    exact ⟨⟨_, release_framed ..⟩, release_read _ _ low aligned⟩
  · intro pbVa pbDwords low aligned few
    exact ⟨entry_va pbVa few low aligned, entry_dwords pbVa few⟩

/-- The highest addresses of each encoder, and the longest entry. -/
theorem encoders_invertible_high :
    readCopy (nvGspFifoBuildCeCopy 0xc7b50001 0x1ffffffffffff 0x1fffffffff000 0xffffffff
        0x1fffffffffffc 7) =
      some ⟨some 0xc7b50001, 0x1ffffffffffff, 0x1fffffffff000, 0xffffffff, 0x1fffffffffffc, 7⟩ ∧
    readRelease (nvGspFifoBuildSemRelease 0xfffffffffc 7) = some ⟨0xfffffffffc, 7⟩ ∧
    entryDwords (nvGspFifoGpfifoEntry 0xfffffffffc 0x1fffff).2 = 0x1fffff :=
  ⟨(encoders_invertible.1 0xc7b50001 0x1ffffffffffff 0x1fffffffff000 0xffffffff 0x1fffffffffffc 7
      (by decide) (by decide) (by decide)).2,
    (encoders_invertible.2.1 0xfffffffffc 7 (by decide) (by decide)).2,
    (encoders_invertible.2.2 0xfffffffffc 0x1fffff (by decide) (by decide) (by decide)).2⟩

end GspDriver.FifoEncoding
