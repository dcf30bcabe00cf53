import GspDriver.MilcorixFB

/-!
User data in video memory, byte by byte. Whole words go through the window as
they are; the bytes behind the last whole word are put into the word that lies
there, which keeps its other bytes. A write of the provider is therefore a copy
of its bytes, and a read gives the bytes that are there.
-/

namespace GspDriver.FlatBuffer

open Bytes LittleEndian Loop Words Pramin MilcorixFB MilcorixFB.Owner

/-! The bytes of a word. -/

theorem shift_bits {b : Nat} (low : b < 4) :
    ((UInt32.ofNat (8 * b)).toBitVec % 32).toNat = 8 * b := by
  simp
  omega

theorem ones_bit (n : Nat) : (255#32).getLsbD n = decide (n < 8) := by
  rw [BitVec.getLsbD_ofNat, show 255 = 2 ^ 8 - 1 by rfl, Nat.testBit_two_pow_sub_one]
  by_cases small : n < 8
  · simp [small, show n < 32 by omega]
  · simp [small]

/-- The bits of one byte of a word. -/
theorem byte_bit (w : UInt32) {k i : Nat} (inside : k < 4) (bit : i < 8) :
    (w >>> UInt32.ofNat (8 * k)).toUInt8.toBitVec[i] = w.toBitVec.getLsbD (8 * k + i) := by
  simp only [UInt32.toBitVec_toUInt8, UInt32.toBitVec_shiftRight, BitVec.ushiftRight_eq',
    shift_bits inside, BitVec.getElem_setWidth, BitVec.getLsbD_ushiftRight]

theorem setByte_bit (w : UInt32) (v : UInt8) {b j : Nat} (low : b < 4) (inside : j < 32) :
    (setByte w b v).toBitVec.getLsbD j =
      if 8 * b ≤ j ∧ j < 8 * b + 8 then v.toBitVec.getLsbD (j - 8 * b)
      else w.toBitVec.getLsbD j := by
  have mask : (0xff : UInt32).toBitVec = 255#32 := rfl
  simp only [setByte, UInt32.toBitVec_or, UInt32.toBitVec_and, UInt32.toBitVec_not,
    UInt32.toBitVec_shiftLeft, BitVec.shiftLeft_eq', shift_bits low, mask, BitVec.getLsbD_or,
    BitVec.getLsbD_and, BitVec.getLsbD_not, BitVec.getLsbD_shiftLeft, ones_bit,
    UInt8.toBitVec_toUInt32, BitVec.getLsbD_setWidth, decide_eq_true inside, Bool.true_and]
  by_cases below : j < 8 * b
  · simp [below, show ¬ 8 * b ≤ j by omega]
  · by_cases above : j - 8 * b < 8
    · simp [below, above, show 8 * b ≤ j ∧ j < 8 * b + 8 by omega, show j - 8 * b < 32 by omega]
    · have beyond : v.toBitVec.getLsbD (j - 8 * b) = false := BitVec.getLsbD_of_ge _ _ (by omega)
      simp [below, above, show ¬ j < 8 * b + 8 by omega, beyond]

theorem setByte_byte (w : UInt32) (v : UInt8) {b k : Nat} (low : b < 4) (inside : k < 4) :
    (setByte w b v >>> UInt32.ofNat (8 * k)).toUInt8 =
      if k = b then v else (w >>> UInt32.ofNat (8 * k)).toUInt8 := by
  apply UInt8.toBitVec_inj.mp
  ext i bit
  rw [byte_bit _ inside bit, setByte_bit w v low (by omega)]
  by_cases same : k = b
  · subst same
    rw [if_pos (by omega), if_pos rfl, Nat.add_sub_cancel_left]
    rfl
  · rw [if_neg (by omega), if_neg same, byte_bit w inside bit]

theorem byte_value (w : UInt32) {k : Nat} (inside : k < 4) :
    (w >>> UInt32.ofNat (8 * k)).toUInt8 = UInt8.ofNat (w.toNat / 256 ^ k) := by
  have shift : (UInt32.ofNat (8 * k)).toNat % 32 = 8 * k := by
    rw [UInt32.toNat_ofNat']
    omega
  apply UInt8.toNat_inj.mp
  rw [UInt32.toNat_toUInt8, UInt32.toNat_shiftRight, shift, Nat.shiftRight_eq_div_pow,
    UInt8.toNat_ofNat', byte_radix]

theorem ld32_byte (m : Mem) (p : Nat) {k : Nat} (inside : k < 4) :
    (ld32 m p >>> UInt32.ofNat (8 * k)).toUInt8 = m (p + k) := by
  rw [byte_value _ inside, ld32_toNat, load_digit m p 4 k inside]

/-- The first bytes of a word replaced. -/
theorem patched_byte (w : UInt32) (bytes : Nat → UInt8) {count k : Nat} (short : count ≤ 4)
    (inside : k < 4) :
    (forCount count (fun b w => setByte w b (bytes b)) w >>> UInt32.ofNat (8 * k)).toUInt8 =
      if k < count then bytes k else (w >>> UInt32.ofNat (8 * k)).toUInt8 := by
  induction count with
  | zero => rfl
  | succ count ih =>
      rw [forCount_succ, setByte_byte _ _ (by omega) inside, ih (by omega)]
      by_cases last : k = count
      · rw [if_pos last, if_pos (by omega), last]
      · rw [if_neg last]
        congr 1
        rw [eq_iff_iff]
        omega

theorem store_patched (m : Mem) (p : Nat) (bytes : Nat → UInt8) {count : Nat} (short : count ≤ 4) :
    store m p 4 (forCount count (fun b w => setByte w b (bytes b)) (ld32 m p)).toNat =
      blit m p count bytes := by
  funext x
  by_cases word : p ≤ x ∧ x < p + 4
  · obtain ⟨k, rfl⟩ := Nat.exists_eq_add_of_le word.1
    have inside : k < 4 := by omega
    rw [store_inside _ _ _ _ _ inside, ← byte_value _ inside, patched_byte _ _ short inside,
      ld32_byte _ _ inside, blit, Nat.add_sub_cancel_left]
    congr 1
    rw [eq_iff_iff]
    omega
  · rw [store_outside _ _ _ _ _ (by omega), blit_outside _ _ _ _ _ (by omega)]

/-! A write of the provider. -/

section Write

variable {s : Aperture} {regs : UInt32 → UInt32} {m : Mem}

theorem writeTail_tracks (tracks : Tracks s regs m) (phys : UInt64) (data : Nat → UInt8)
    {i len : Nat} (short : len - i ≤ 4) (inside : phys.toNat + len ≤ reach) :
    Tracks (writeTail s phys data i len) regs
      (blit m (phys.toNat + i) (len - i) fun b => data (i + b)) := by
  have limit : reach < 2 ^ 64 := by decide
  rw [writeTail]
  by_cases more : i < len
  · have offset : (UInt64.ofNat i).toNat = i := ofNat_toNat (by omega)
    have place : (phys + UInt64.ofNat i).toNat = phys.toNat + i := by
      rw [add_toNat (by omega), offset]
    obtain ⟨value, read⟩ := rd32_tracks s regs m tracks (phys + UInt64.ofNat i) (by omega)
    have written := wr32_tracks _ regs m read (phys + UInt64.ofNat i)
      (forCount (len - i) (fun b w => setByte w b (data (i + b)))
        (nvPraminRd32 s (phys + UInt64.ofNat i)).1) (by omega)
    rw [value, place, store_patched m _ (fun b => data (i + b)) short] at written
    rw [if_pos more]
    simp only [value, place]
    exact written
  · have empty : blit m (phys.toNat + i) (len - i) (fun b => data (i + b)) = m := by
      funext x
      exact blit_outside _ _ _ _ x (by omega)
    rw [if_neg more, empty]
    exact tracks

end Write

/-! A read of the provider. -/

section Read

variable {s : Aperture} {regs : UInt32 → UInt32} {m : Mem}

theorem word_bytes (m : Mem) (p : Nat) :
    [(ld32 m p).toUInt8, (ld32 m p >>> 8).toUInt8, (ld32 m p >>> 16).toUInt8,
      (ld32 m p >>> 24).toUInt8] = flatRead m p 4 := by
  have byte0 := @ld32_byte m p 0 (by decide)
  have byte1 := @ld32_byte m p 1 (by decide)
  have byte2 := @ld32_byte m p 2 (by decide)
  have byte3 := @ld32_byte m p 3 (by decide)
  rw [show UInt32.ofNat (8 * 0) = 0 from rfl, UInt32.shiftRight_zero] at byte0
  rw [byte0, show (8 : UInt32) = UInt32.ofNat (8 * 1) from rfl, byte1,
    show (16 : UInt32) = UInt32.ofNat (8 * 2) from rfl, byte2,
    show (24 : UInt32) = UInt32.ofNat (8 * 3) from rfl, byte3]
  rfl

theorem readWords_tracks (tracks : Tracks s regs m) (phys : UInt64) (words : Nat)
    (inside : phys.toNat + 4 * words ≤ reach) :
    (readWords s phys words).1 = flatRead m phys.toNat (4 * words) ∧
      Tracks (readWords s phys words).2 regs m := by
  have limit : reach < 2 ^ 64 := by decide
  apply forCount_invariant words _ ([], s)
    (fun k state => state.1 = flatRead m phys.toNat (4 * k) ∧ Tracks state.2 regs m)
  · exact ⟨rfl, tracks⟩
  · intro k below state ⟨bytes, kept⟩
    have offset : (UInt64.ofNat (4 * k)).toNat = 4 * k := ofNat_toNat (by omega)
    have place : (phys + UInt64.ofNat (4 * k)).toNat = phys.toNat + 4 * k := by
      rw [add_toNat (by omega), offset]
    obtain ⟨value, read⟩ := rd32_tracks _ regs m kept (phys + UInt64.ofNat (4 * k)) (by omega)
    refine ⟨?_, read⟩
    simp only [value, place, bytes, word_bytes]
    rw [Nat.mul_succ, flatRead_add]

theorem readTail_tracks {bytes : List UInt8} (tracks : Tracks s regs m) (phys : UInt64)
    {i len : Nat} (short : len - i ≤ 4) (inside : phys.toNat + len ≤ reach) :
    (readTail (bytes, s) phys i len).1 = bytes ++ flatRead m (phys.toNat + i) (len - i) ∧
      Tracks (readTail (bytes, s) phys i len).2 regs m := by
  have limit : reach < 2 ^ 64 := by decide
  rw [readTail]
  by_cases more : i < len
  · have offset : (UInt64.ofNat i).toNat = i := ofNat_toNat (by omega)
    have place : (phys + UInt64.ofNat i).toNat = phys.toNat + i := by
      rw [add_toNat (by omega), offset]
    obtain ⟨value, read⟩ := rd32_tracks s regs m tracks (phys + UInt64.ofNat i) (by omega)
    rw [if_pos more]
    refine ⟨?_, read⟩
    simp only [value, place, flatRead]
    congr 1
    apply List.map_congr_left
    intro b member
    exact ld32_byte m _ (by have := List.mem_range.mp member; omega)
  · rw [if_neg more, Nat.sub_eq_zero_of_le (by omega)]
    exact ⟨(List.append_nil _).symm, tracks⟩

end Read

/-! The two calls under the lock. -/

section Calls

variable (env : Outside) (o : Owner) (offset : UInt64) (len : UInt32)

/-- What a call of the provider needs to go through. -/
structure Passes : Prop where
  lock : o.fGpuLock = true
  ok : o.ok = true
  stands : env.torn o.clock = false
  nonempty : 0 < len.toNat
  room : offset.toNat + len.toNat ≤ o.scratchSize.toNat

def regionAddr (o : Owner) (offset : UInt64) : Nat := o.scratchPhys.toNat + offset.toNat

variable {env o offset len}

theorem regionOk_iff (lock : o.fGpuLock = true) (op : HwOp) :
    ((o.issue op).tick env).gpuRegionOk offset len = true ↔ Passes env o offset len := by
  rw [gpuRegionOk_iff]
  simp only [issue, tick, Bool.and_eq_true, Bool.not_eq_true']
  constructor
  · rintro ⟨⟨ok, stands⟩, nonempty, room⟩
    exact ⟨lock, ok, stands, nonempty, room⟩
  · intro passes
    exact ⟨⟨passes.ok, passes.stands⟩, passes.nonempty, passes.room⟩

variable (reached : o.scratchPhys.toNat + o.scratchSize.toNat ≤ reach)

include reached in
theorem gpuWrite_passes (data : Nat → UInt8) (passes : Passes env o offset len) :
    (gpuWrite env o offset data len).1 = .success ∧
      (gpuWrite env o offset data len).2.ok = true ∧
      (gpuWrite env o offset data len).2.clock = o.clock + 1 ∧
      (gpuWrite env o offset data len).2.card.vram =
        blit o.card.vram (regionAddr o offset) len.toNat data := by
  have limit : reach < 2 ^ 64 := by decide
  have room := passes.room
  have ok := (regionOk_iff passes.lock (.write offset len)).mpr passes
  have lock : ¬ ¬ (o.issue (.write offset len)).fGpuLock = true := not_not_intro passes.lock
  have start : (o.scratchPhys + offset).toNat = regionAddr o offset := add_toNat (by omega)
  have blank : Tracks ((o.issue (.write offset len)).tick env).aperture o.card.regs o.card.vram :=
    ⟨Or.inl rfl, rfl, rfl⟩
  have words := writeWords_tracks blank (o.scratchPhys + offset) data (len.toNat / 4)
    (by rw [start, regionAddr]; omega)
  have whole := @writeTail_tracks _ _ _ words (o.scratchPhys + offset) data (4 * (len.toNat / 4))
    len.toNat (by omega) (by rw [start, regionAddr]; omega)
  rw [start, blit_append, Nat.add_sub_of_le (Nat.mul_div_le _ _)] at whole
  simp only [gpuWrite, if_neg lock, gpuWriteLocked, if_neg (not_not_intro ok)]
  refine ⟨trivial, ?_, rfl, whole.vram_eq⟩
  simp only [issue, tick, passes.ok, passes.stands]
  rfl

theorem gpuWrite_refused (data : Nat → UInt8) (refused : ¬ Passes env o offset len) :
    (gpuWrite env o offset data len).1 ≠ .success ∧
      (gpuWrite env o offset data len).2.card.vram = o.card.vram := by
  by_cases lock : o.fGpuLock = true
  · have bad := mt (regionOk_iff lock (.write offset len)).mp refused
    have free : ¬ ¬ (o.issue (.write offset len)).fGpuLock = true := not_not_intro lock
    simp only [gpuWrite, if_neg free, gpuWriteLocked, if_pos bad]
    exact ⟨IOReturn.noConfusion, rfl⟩
  · have held : ¬ (o.issue (.write offset len)).fGpuLock = true := lock
    simp only [gpuWrite, if_pos held]
    exact ⟨IOReturn.noConfusion, rfl⟩

include reached in
theorem gpuRead_passes (passes : Passes env o offset len) :
    (gpuRead env o offset len).1 = .success ∧
      (gpuRead env o offset len).2.1 = flatRead o.card.vram (regionAddr o offset) len.toNat ∧
      (gpuRead env o offset len).2.2.ok = true ∧
      (gpuRead env o offset len).2.2.clock = o.clock + 1 ∧
      (gpuRead env o offset len).2.2.card.vram = o.card.vram := by
  have limit : reach < 2 ^ 64 := by decide
  have room := passes.room
  have ok := (regionOk_iff passes.lock (.read offset len)).mpr passes
  have lock : ¬ ¬ (o.issue (.read offset len)).fGpuLock = true := not_not_intro passes.lock
  have start : (o.scratchPhys + offset).toNat = regionAddr o offset := add_toNat (by omega)
  have blank : Tracks ((o.issue (.read offset len)).tick env).aperture o.card.regs o.card.vram :=
    ⟨Or.inl rfl, rfl, rfl⟩
  obtain ⟨front, words⟩ := readWords_tracks blank (o.scratchPhys + offset) (len.toNat / 4)
    (by rw [start, regionAddr]; omega)
  obtain ⟨bytes, whole⟩ := @readTail_tracks _ _ _
    (readWords ((o.issue (.read offset len)).tick env).aperture (o.scratchPhys + offset)
      (len.toNat / 4)).1 words (o.scratchPhys + offset) (4 * (len.toNat / 4))
    len.toNat (by omega) (by rw [start, regionAddr]; omega)
  have joined : flatRead o.card.vram (regionAddr o offset) (4 * (len.toNat / 4)) ++
      flatRead o.card.vram (regionAddr o offset + 4 * (len.toNat / 4))
        (len.toNat - 4 * (len.toNat / 4)) =
      flatRead o.card.vram (regionAddr o offset) len.toNat := by
    rw [← flatRead_add, Nat.add_sub_of_le (Nat.mul_div_le _ _)]
  rw [start] at front bytes
  have all := bytes.trans ((congrArg (· ++ _) front).trans joined)
  simp only [gpuRead, if_neg lock, gpuReadLocked, if_neg (not_not_intro ok)]
  refine ⟨trivial, ?_, ?_, rfl, whole.vram_eq⟩
  · exact all
  · simp only [issue, tick, passes.ok, passes.stands]
    rfl

theorem gpuRead_refused (refused : ¬ Passes env o offset len) :
    (gpuRead env o offset len).1 ≠ .success ∧
      (gpuRead env o offset len).2.2.card.vram = o.card.vram := by
  by_cases lock : o.fGpuLock = true
  · have bad := mt (regionOk_iff lock (.read offset len)).mp refused
    have free : ¬ ¬ (o.issue (.read offset len)).fGpuLock = true := not_not_intro lock
    simp only [gpuRead, if_neg free, gpuReadLocked, if_pos bad]
    exact ⟨IOReturn.noConfusion, rfl⟩
  · have held : ¬ (o.issue (.read offset len)).fGpuLock = true := lock
    simp only [gpuRead, if_pos held]
    exact ⟨IOReturn.noConfusion, rfl⟩

end Calls

end GspDriver.FlatBuffer
