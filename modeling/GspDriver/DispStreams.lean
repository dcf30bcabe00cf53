import GspDriver.RasterTiming
import GspDriver.Base.Loop

/-!
The other method streams of gsp_disp.c, those of the core channel: its
initialisation, the binding of an output, the format of an output and the
update that makes the channel take them over. Every builder appends methods of
one word each to the buffer. With them the hash table of the display's instance
memory, through which a channel finds a ctx-dma by its handle.
-/

namespace GspDriver.DispStreams

open Bytes LittleEndian Loop GspDisp RasterTiming

def coreSetContextDmaNotifier : UInt32 := 0x208
def coreSetInterlockFlags : UInt32 := 0x218
def coreSetWindowInterlockFlags : UInt32 := 0x21c
def coreUpdate : UInt32 := 0x200
def coreUpdateData : UInt32 := 1
def windowSetWindowFormatUsageBounds (a : UInt32) : UInt32 := 0x1004 + a * 0x80
def windowSetWindowRotatedFormatUsageBounds (a : UInt32) : UInt32 := 0x1008 + a * 0x80
def windowSetWindowUsageBounds (a : UInt32) : UInt32 := 0x1010 + a * 0x80
def windowSetControlOwner (a : UInt32) : UInt32 := 0x1000 + a * 0x80
def winFormatUsageDefault : UInt32 := 0x1f
def winUsageBoundsDefault : UInt32 :=
  (0x7fff : UInt32) ||| (2 <<< (16 : UInt32)) ||| (1 <<< (20 : UInt32))
def sorSetControl (a : UInt32) : UInt32 := 0x300 + a * 0x20
def headSetControlOutputResource : UInt32 := 0x2004
def oresourcePixelDepthBpp24444 : UInt32 := 4

/-! The bodies of the two loops of `nv_gsp_disp_build_core_init`. -/

def initUsageBounds (i : Nat) (pb : Stream) : Stream :=
  let pb := pushMethod pb (windowSetWindowFormatUsageBounds (UInt32.ofNat i)) winFormatUsageDefault
  let pb := pushMethod pb (windowSetWindowRotatedFormatUsageBounds (UInt32.ofNat i)) 0
  pushMethod pb (windowSetWindowUsageBounds (UInt32.ofNat i)) winUsageBoundsDefault

def initControlOwner (i : Nat) (pb : Stream) : Stream :=
  pushMethod pb (windowSetControlOwner (UInt32.ofNat i)) (UInt32.ofNat i >>> 1)

def nvGspDispBuildCoreInit (pb : Stream) (notifierHandle : UInt32) : Stream :=
  let pb := pushMethod pb coreSetContextDmaNotifier notifierHandle
  let pb := forStep 8 1 initUsageBounds pb
  forStep 8 1 initControlOwner pb

def nvGspDispBuildCoreUpdate (pb : Stream) (wndwInterlockMask : UInt32) : Stream :=
  let pb := pushMethod pb coreSetInterlockFlags 0
  let pb := pushMethod pb coreSetWindowInterlockFlags wndwInterlockMask
  pushMethod pb coreUpdate coreUpdateData

def nvGspDispBuildCoreSor (pb : Stream) (sor head protocol : UInt32) : Stream :=
  pushMethod pb (sorSetControl sor) ((1 <<< head) ||| (protocol <<< (8 : UInt32)))

def nvGspDispBuildOutputResource (pb : Stream) (head hsyncPos vsyncPos : UInt32) : Stream :=
  let ores := (oresourcePixelDepthBpp24444 <<< (4 : UInt32)) |||
    (if hsyncPos ≠ 0 then (0 : UInt32) else 1 <<< (2 : UInt32)) |||
    (if vsyncPos ≠ 0 then (0 : UInt32) else 1 <<< (3 : UInt32))
  pushMethod pb (headMethod headSetControlOutputResource head) ores

/-! What a channel makes of a header. -/

def headerCount (word : UInt32) : Nat := ((word >>> (18 : UInt32)) &&& 0x3ff).toNat

def packetWords (word : UInt32) : Nat := 1 + headerCount word

theorem header_count (methodAddr : UInt32) : headerCount (nvDispMethodHdr methodAddr 1) = 1 := by
  have eighteen : (18 : UInt32).toNat % 32 = 18 := rfl
  have place : ((1 &&& 0x3ff) <<< (18 : UInt32) : UInt32).toNat = 2 ^ 18 := rfl
  have ten : (0x3ff : UInt32).toNat = 2 ^ 10 - 1 := rfl
  have below : (methodAddr &&& 0x3ffc).toNat < 2 ^ 18 := by
    have masked : (methodAddr &&& 0x3ffc).toNat ≤ (0x3ffc : UInt32).toNat := by
      rw [UInt32.toNat_and]
      exact Nat.and_le_right
    exact lt_of_le_of_lt masked (by decide)
  have joined : 2 ^ 18 ||| (methodAddr &&& 0x3ffc).toNat =
      2 ^ 18 + (methodAddr &&& 0x3ffc).toNat := by
    have sum := Nat.two_pow_add_eq_or_of_lt below 1
    rw [Nat.mul_one] at sum
    exact sum.symm
  rw [headerCount, nvDispMethodHdr, UInt32.toNat_and, UInt32.toNat_shiftRight, eighteen, ten,
    Nat.and_two_pow_sub_one_eq_mod, UInt32.toNat_or, place, joined, Nat.shiftRight_eq_div_pow]
  omega

/-- The builder appends `count` methods of one word, whatever is in the buffer. -/
def Emits (build : Stream → Stream) (count : Nat) : Prop :=
  ∃ new : Stream, new.length = count ∧ (∀ word ∈ new, headerCount word.1 = 1) ∧
    ∀ pb, build pb = pb ++ new

section Emits

variable {build after : Stream → Stream} {n k : Nat}

theorem emits_push (methodAddr data : UInt32) : Emits (pushMethod · methodAddr data) 1 := by
  refine ⟨[(nvDispMethodHdr methodAddr 1, data)], rfl, fun word member => ?_, fun _ => rfl⟩
  rw [List.mem_singleton.mp member]
  exact header_count methodAddr

theorem emits_append (first : Emits build n) (second : Emits after k) :
    Emits (fun pb => after (build pb)) (n + k) := by
  obtain ⟨front, frontLength, frontHeads, builds⟩ := first
  obtain ⟨back, backLength, backHeads, appends⟩ := second
  refine ⟨front ++ back, ?_, fun word member => ?_, fun pb => ?_⟩
  · rw [List.length_append, frontLength, backLength]
  · rcases List.mem_append.mp member with here | there
    · exact frontHeads word here
    · exact backHeads word there
  · change after (build pb) = _
    rw [builds, appends, List.append_assoc]

theorem emits_loop {body : Nat → Stream → Stream} (each : ∀ i, Emits (body i) n) (count : Nat) :
    Emits (forStep count 1 body) (n * count) := by
  have rounds : Emits (forCount count body) (n * count) := by
    induction count with
    | zero => exact ⟨[], rfl, fun _ member => absurd member List.not_mem_nil, fun pb =>
        (List.append_nil pb).symm⟩
    | succ count ih =>
      have last : forCount (count + 1) body = fun pb => body count (forCount count body pb) :=
        funext fun pb => forCount_succ count body pb
      rw [last]
      exact emits_append ih (each count)
  have shape : forStep count 1 body = forCount count body := by
    funext pb
    simp only [forStep, Nat.add_sub_cancel, Nat.div_one, Nat.mul_one]
  rw [shape]
  exact rounds

theorem emits_length (emits : Emits build n) (pb : Stream) : (build pb).length = pb.length + n := by
  obtain ⟨new, length, _, builds⟩ := emits
  rw [builds, List.length_append, length]

theorem emits_heads (emits : Emits build n) {pb : Stream}
    (heads : ∀ word ∈ pb, headerCount word.1 = 1) :
    ∀ word ∈ build pb, headerCount word.1 = 1 := by
  obtain ⟨new, _, own, builds⟩ := emits
  intro word member
  rw [builds] at member
  rcases List.mem_append.mp member with here | there
  · exact heads word here
  · exact own word there

theorem emits_starts (emits : Emits build n) (pb : Stream) : pb <+: build pb := by
  obtain ⟨new, _, _, builds⟩ := emits
  rw [builds]
  exact List.prefix_append ..

end Emits

theorem core_init_emits (notifierHandle : UInt32) :
    Emits (nvGspDispBuildCoreInit · notifierHandle) 33 := by
  have bounds : ∀ i, Emits (initUsageBounds i) 3 := fun i =>
    emits_append (emits_append (emits_push _ _) (emits_push _ _)) (emits_push _ _)
  have owner : ∀ i, Emits (initControlOwner i) 1 := fun i => emits_push _ _
  have first : Emits (fun pb => forStep 8 1 initUsageBounds
      (pushMethod pb coreSetContextDmaNotifier notifierHandle)) (1 + 3 * 8) :=
    emits_append (emits_push _ _) (emits_loop bounds 8)
  have both := emits_append first (emits_loop owner 8)
  exact both

theorem core_update_emits (wndwInterlockMask : UInt32) :
    Emits (nvGspDispBuildCoreUpdate · wndwInterlockMask) 3 :=
  emits_append (emits_append (emits_push _ _) (emits_push _ _)) (emits_push _ _)

theorem core_sor_emits (sor head protocol : UInt32) :
    Emits (nvGspDispBuildCoreSor · sor head protocol) 1 :=
  emits_push _ _

theorem output_resource_emits (head hsyncPos vsyncPos : UInt32) :
    Emits (nvGspDispBuildOutputResource · head hsyncPos vsyncPos) 1 :=
  emits_push _ _

theorem core_modeset_emits (t : NvEdidTiming) (head sor protocol : UInt32) :
    Emits (nvGspDispBuildCoreModeset · t head sor protocol) 11 :=
  emits_append (emits_append (emits_append (emits_append (emits_append (emits_append (emits_append
    (emits_append (emits_append (emits_append (emits_push _ _) (emits_push _ _)) (emits_push _ _))
    (emits_push _ _)) (emits_push _ _)) (emits_push _ _)) (emits_push _ _)) (emits_push _ _))
    (emits_push _ _)) (emits_push _ _)) (emits_push _ _)

theorem window_image_emits (format w h pitch : UInt32) (fbOff : UInt64) (isoHandle : UInt32) :
    Emits (nvGspDispBuildWindowImage · format w h pitch fbOff isoHandle) 13 :=
  emits_append (emits_append (emits_append (emits_append (emits_append (emits_append (emits_append
    (emits_append (emits_append (emits_append (emits_append (emits_append (emits_push _ _)
    (emits_push _ _)) (emits_push _ _)) (emits_push _ _)) (emits_push _ _)) (emits_push _ _))
    (emits_push _ _)) (emits_push _ _)) (emits_push _ _)) (emits_push _ _)) (emits_push _ _))
    (emits_push _ _)) (emits_push _ _)

theorem window_update_emits (interlockWithCore : Bool) :
    Emits (nvGspDispBuildWindowUpdate · interlockWithCore) 3 :=
  emits_append (emits_append (emits_push _ _) (emits_push _ _)) (emits_push _ _)

/-! The hash table of handles. -/

def nvDispRamhtBits : UInt32 := 10
def nvDispRamhtSize : UInt32 := 1024
def nvDispRamhtEntry : UInt32 := 8
def nvDispCtxdmaOff : UInt32 := 0x2000
def nvDispChidWindow (head : UInt32) : UInt32 := 1 + head

theorem shifted_less {handle : UInt32} (some_ : handle ≠ 0) :
    (handle >>> nvDispRamhtBits).toNat < handle.toNat := by
  have ten : nvDispRamhtBits.toNat % 32 = 10 := rfl
  have nonzero : handle.toNat ≠ 0 := fun zero => some_ (UInt32.toNat_inj.mp zero)
  rw [UInt32.toNat_shiftRight, ten, Nat.shiftRight_eq_div_pow]
  exact Nat.div_lt_self (by omega) (by decide)

/-- The loop of `nv_disp_ramht_hash`: the handle's groups of ten bits. -/
def ramhtFold (hash handle : UInt32) : UInt32 :=
  if handle = 0 then hash
  else
    ramhtFold (hash ^^^ (handle &&& ((1 <<< nvDispRamhtBits) - 1))) (handle >>> nvDispRamhtBits)
termination_by handle.toNat
decreasing_by exact shifted_less ‹_›

def nvDispRamhtHash (chid handle : UInt32) : UInt32 :=
  (ramhtFold 0 handle ^^^ (chid <<< (nvDispRamhtBits - 4))) % nvDispRamhtSize

/-- The slot of the entry, and its context word. -/
def nvGspDispRamhtEntry (chid handle client instOffset : UInt32) : UInt32 × UInt32 :=
  (nvDispRamhtHash chid handle,
    (chid <<< (25 : UInt32)) ||| (client &&& 0x3fff) ||| (instOffset <<< (9 : UInt32)))

/-- What a channel finds in the table at `inst`: the RM client and the offset of
the descriptor, which the context word counts in units of 32 bytes. -/
def ramhtFind (m : Mem) (inst : Nat) (chid handle : UInt32) : Option (Nat × Nat) :=
  let entry := inst + (nvDispRamhtHash chid handle * nvDispRamhtEntry).toNat
  let context := (ld32 m (entry + 4)).toNat
  if ld32 m entry = handle ∧ context / 2 ^ 25 = chid.toNat then
    some (context % 2 ^ 14, context % 2 ^ 25 / 2 ^ 14 * 32)
  else none

theorem ramht_inside (chid handle : UInt32) :
    (nvDispRamhtHash chid handle * nvDispRamhtEntry).toNat + 8 ≤ nvDispCtxdmaOff.toNat := by
  have slot : (nvDispRamhtHash chid handle).toNat < 1024 := by
    rw [nvDispRamhtHash, UInt32.toNat_mod]
    exact Nat.mod_lt _ (by decide)
  have eight : nvDispRamhtEntry.toNat = 8 := rfl
  have table : nvDispCtxdmaOff.toNat = 0x2000 := rfl
  rw [UInt32.toNat_mul, eight, table]
  omega

/-- A context word whose parts do not run into each other. -/
theorem context_toNat {chid client instOffset : UInt32} (channel : chid.toNat < 2 ^ 7)
    (unit : 32 ∣ instOffset.toNat) (offset : instOffset.toNat < 2 ^ 16) :
    (nvGspDispRamhtEntry chid 0 client instOffset).2.toNat =
      chid.toNat * 2 ^ 25 + instOffset.toNat / 32 * 2 ^ 14 + client.toNat % 2 ^ 14 := by
  obtain ⟨units, exactly⟩ := unit
  have mask : (0x3fff : UInt32).toNat = 2 ^ 14 - 1 := rfl
  have upper : (25 : UInt32).toNat % 32 = 25 := rfl
  have lower : (9 : UInt32).toNat % 32 = 9 := rfl
  have top : (chid <<< (25 : UInt32)).toNat = 2 ^ 25 * chid.toNat := by
    rw [UInt32.toNat_shiftLeft, upper, Nat.shiftLeft_eq, Nat.mod_eq_of_lt (by omega), Nat.mul_comm]
  have middle : (instOffset <<< (9 : UInt32)).toNat = 2 ^ 14 * units := by
    rw [UInt32.toNat_shiftLeft, lower, Nat.shiftLeft_eq, Nat.mod_eq_of_lt (by omega), exactly]
    omega
  have low : (client &&& 0x3fff).toNat = client.toNat % 2 ^ 14 := by
    rw [UInt32.toNat_and, mask, Nat.and_two_pow_sub_one_eq_mod]
  have small : client.toNat % 2 ^ 14 < 2 ^ 14 := Nat.mod_lt _ (by decide)
  have field : 2 ^ 14 * units + client.toNat % 2 ^ 14 < 2 ^ 25 := by omega
  have shape : (nvGspDispRamhtEntry chid 0 client instOffset).2 =
      (chid <<< (25 : UInt32)) ||| ((instOffset <<< (9 : UInt32)) ||| (client &&& 0x3fff)) := by
    rw [nvGspDispRamhtEntry, UInt32.or_assoc, UInt32.or_comm (client &&& 0x3fff)]
  rw [shape, UInt32.toNat_or, UInt32.toNat_or, top, middle, low,
    ← Nat.two_pow_add_eq_or_of_lt small, ← Nat.two_pow_add_eq_or_of_lt field]
  omega

/-- An entry and what it was written for. -/
theorem ramht_finds {m : Mem} {inst : Nat} {chid handle client instOffset : UInt32}
    (channel : chid.toNat < 2 ^ 7) (unit : 32 ∣ instOffset.toNat)
    (offset : instOffset.toNat < 2 ^ 16)
    (name : ld32 m (inst + (nvDispRamhtHash chid handle * nvDispRamhtEntry).toNat) = handle)
    (word : ld32 m (inst + (nvDispRamhtHash chid handle * nvDispRamhtEntry).toNat + 4) =
      (nvGspDispRamhtEntry chid handle client instOffset).2) :
    ramhtFind m inst chid handle = some (client.toNat % 2 ^ 14, instOffset.toNat) := by
  have context : (nvGspDispRamhtEntry chid handle client instOffset).2.toNat = _ :=
    @context_toNat chid client instOffset channel unit offset
  have small : client.toNat % 2 ^ 14 < 2 ^ 14 := Nat.mod_lt _ (by decide)
  obtain ⟨units, exactly⟩ := unit
  have here : (nvGspDispRamhtEntry chid handle client instOffset).2.toNat / 2 ^ 25 =
      chid.toNat := by omega
  have parts : (nvGspDispRamhtEntry chid handle client instOffset).2.toNat % 2 ^ 14 =
        client.toNat % 2 ^ 14 ∧
      (nvGspDispRamhtEntry chid handle client instOffset).2.toNat % 2 ^ 25 / 2 ^ 14 * 32 =
        instOffset.toNat := by omega
  rw [ramhtFind, name, word, if_pos ⟨rfl, here⟩, parts.1, parts.2]

end GspDriver.DispStreams
