import GspDriver.Pramin

/-!
Video memory behind the PRAMIN window as a flat array of 32-bit words. Several
owners share the window register: each PRAMIN caller has a cached base, and
`MilcorixFB::probeBar1Identity` moves the window behind their back and puts it
back. `bar1` is what a read through BAR1 shows; nothing is assumed of it.
-/

namespace GspDriver.FlatVram

open Bytes LittleEndian Loop Words Pramin

def kMagicA : UInt32 := 0x4d494c43
def kMagicB : UInt32 := 0x46423031

/-- One round of the probe: is `magic`, written through the window, seen by BAR1? -/
def probeWord (bar1 : Mmio → UInt64 → UInt32) (s : Aperture) (off : UInt64) (magic : UInt32) :
    Bool × Aperture :=
  let (orig, s) := nvPraminRd32 s off
  let s := nvPraminWr32 s off magic
  let seen := bar1 s.io off
  let s := nvPraminWr32 s off orig
  (seen == magic, s)

/-- The first and the last word of the range; the second only after a hit. -/
def probeEnds (bar1 : Mmio → UInt64 → UInt32) (s : Aperture) (vramOff len : UInt64) :
    Bool × Aperture :=
  let first := probeWord bar1 s vramOff kMagicA
  if first.1 then probeWord bar1 first.2 (vramOff + len - 4) kMagicB else first

/-- `mapped` says that both apertures are mapped. The probe has a cache of its own. -/
def probeBar1Identity (bar1 : Mmio → UInt64 → UInt32) (mapped : Bool) (fBar1Len : UInt64)
    (io : Mmio) (vramOff len : UInt64) : Bool × Mmio :=
  if !mapped || len < 4 then (false, io)
  else if vramOff + len > fBar1Len then (false, io)
  else
    let (savedWindow, io) := io.rd nvPbusBar0Window
    let (ok, s) := probeEnds bar1 { io := io, winBase := ~~~0 } vramOff len
    (ok, s.io.wr nvPbusBar0Window savedWindow)

/-- What the owners of the window do, in any order. -/
inductive Op where
  | rd32 (phys : UInt64)
  | wr32 (phys : UInt64) (val : UInt32)
  | wr64 (phys val : UInt64)
  | fill (phys : UInt64) (len val : UInt32)
  | probe (mapped : Bool) (fBar1Len vramOff len : UInt64)

/-- Word accesses at aligned addresses that end at or below the reach of the window. -/
def Op.Valid : Op → Prop
  | .rd32 phys | .wr32 phys _ => 4 ∣ phys.toNat ∧ phys.toNat + 4 ≤ reach
  | .wr64 phys _ => 4 ∣ phys.toNat ∧ phys.toNat + 8 ≤ reach
  | .fill phys len _ => 4 ∣ phys.toNat ∧ 4 ∣ len.toNat ∧ phys.toNat + len.toNat ≤ reach
  | .probe _ _ vramOff len =>
      4 ∣ vramOff.toNat ∧ 4 ∣ len.toNat ∧ vramOff.toNat + len.toNat ≤ reach

/-- The values read, and the card and cache afterwards. -/
def step (bar1 : Mmio → UInt64 → UInt32) (s : Aperture) : Op → List UInt32 × Aperture
  | .rd32 phys => ([(nvPraminRd32 s phys).1], (nvPraminRd32 s phys).2)
  | .wr32 phys val => ([], nvPraminWr32 s phys val)
  | .wr64 phys val => ([], nvPraminWr64 s phys val)
  | .fill phys len val => ([], nvPraminFill s phys len val)
  | .probe mapped fBar1Len vramOff len =>
      ([], { s with io := (probeBar1Identity bar1 mapped fBar1Len s.io vramOff len).2 })

def run (bar1 : Mmio → UInt64 → UInt32) : Aperture → List Op → List UInt32 × Aperture
  | s, [] => ([], s)
  | s, op :: rest =>
      let here := step bar1 s op
      let later := run bar1 here.2 rest
      (here.1 ++ later.1, later.2)

/-! The flat memory: no window, no cache, no probe. -/

abbrev Flat := Nat → UInt32

def Flat.fill (w : Flat) (from_ count : Nat) (val : UInt32) : Flat :=
  fun i => if from_ ≤ i ∧ i < from_ + count then val else w i

def Flat.step (w : Flat) : Op → List UInt32 × Flat
  | .rd32 phys => ([w (phys.toNat / 4)], w)
  | .wr32 phys val => ([], Function.update w (phys.toNat / 4) val)
  | .wr64 phys val =>
      ([], Function.update (Function.update w (phys.toNat / 4) (UInt32.ofNat val.toNat))
        (phys.toNat / 4 + 1) (UInt32.ofNat (val.toNat / 2 ^ 32)))
  | .fill phys len val => ([], w.fill (phys.toNat / 4) (len.toNat / 4) val)
  | .probe _ _ _ _ => ([], w)

def Flat.run : Flat → List Op → List UInt32 × Flat
  | w, [] => ([], w)
  | w, op :: rest =>
      let here := w.step op
      let later := Flat.run here.2 rest
      (here.1 ++ later.1, later.2)

/-! The card refines the flat memory. -/

def flatten (m : Mem) : Flat := fun i => ld32 m (4 * i)

theorem flatten_store (m : Mem) (a : Nat) (val : UInt32) (aligned : 4 ∣ a) :
    flatten (store m a 4 val.toNat) = Function.update (flatten m) (a / 4) val := by
  obtain ⟨i, rfl⟩ := aligned
  rw [Nat.mul_div_cancel_left i (by omega)]
  funext j
  apply UInt32.toNat_inj.mp
  rw [flatten, ld32_toNat]
  by_cases same : j = i
  · subst j
    rw [load_store_same, Function.update_self]
    exact Nat.mod_eq_of_lt val.toNat_lt
  · rw [load_store_apart _ _ _ _ _ _ (by omega), Function.update_of_ne same, flatten, ld32_toNat]

structure Refines (regs : UInt32 → UInt32) (s : Aperture) (w : Flat) : Prop where
  coherent : Coherent s
  regs_eq : s.io.regs = regs
  flat : flatten s.io.vram = w

variable {regs : UInt32 → UInt32} {s : Aperture} {w : Flat}

theorem rd32_refines (refines : Refines regs s w) {phys : UInt64} (aligned : 4 ∣ phys.toNat)
    (inside : phys.toNat + 4 ≤ reach) :
    (nvPraminRd32 s phys).1 = w (phys.toNat / 4) ∧ Refines regs (nvPraminRd32 s phys).2 w := by
  obtain ⟨value, tracks⟩ :=
    rd32_tracks s _ _ (tracks_self refines.coherent) phys (by omega)
  constructor
  · rw [value, ← refines.flat, flatten, Nat.mul_div_cancel' aligned]
  · exact ⟨tracks.coherent, tracks.regs_eq.trans refines.regs_eq,
      (congrArg flatten tracks.vram_eq).trans refines.flat⟩

theorem wr32_refines (refines : Refines regs s w) {phys : UInt64} (val : UInt32)
    (aligned : 4 ∣ phys.toNat) (inside : phys.toNat + 4 ≤ reach) :
    Refines regs (nvPraminWr32 s phys val) (Function.update w (phys.toNat / 4) val) := by
  have tracks := wr32_tracks s _ _ (tracks_self refines.coherent) phys val (by omega)
  constructor
  · exact tracks.coherent
  · exact tracks.regs_eq.trans refines.regs_eq
  · rw [tracks.vram_eq, flatten_store _ _ _ aligned, refines.flat]

theorem wr64_refines (refines : Refines regs s w) {phys : UInt64} (val : UInt64)
    (aligned : 4 ∣ phys.toNat) (inside : phys.toNat + 8 ≤ reach) :
    Refines regs (nvPraminWr64 s phys val)
      (Function.update (Function.update w (phys.toNat / 4) (UInt32.ofNat val.toNat))
        (phys.toNat / 4 + 1) (UInt32.ofNat (val.toNat / 2 ^ 32))) := by
  have next : (phys + 4).toNat = phys.toNat + 4 := by
    simp only [reach] at inside
    exact add_toNat (by simp only [UInt64.reduceToNat]; omega)
  have low : (val &&& 0xffffffff).toUInt32 = UInt32.ofNat val.toNat := by
    have mask : (val &&& 0xffffffff).toNat = val.toNat % 2 ^ 32 := and_mask_toNat val (by decide)
    apply UInt32.toNat_inj.mp
    rw [UInt64.toNat_toUInt32, mask, UInt32.toNat_ofNat']
    omega
  have high : (val >>> 32).toUInt32 = UInt32.ofNat (val.toNat / 2 ^ 32) := by
    have moved : (val >>> 32).toNat = val.toNat / 2 ^ 32 := shr_toNat (by decide)
    apply UInt32.toNat_inj.mp
    rw [UInt64.toNat_toUInt32, moved, UInt32.toNat_ofNat']
  have first := wr32_refines refines (val &&& 0xffffffff).toUInt32 aligned (by omega)
  have second := @wr32_refines _ _ _ first (phys + 4) (val >>> 32).toUInt32 (by omega) (by omega)
  rw [next, Nat.add_div_right _ (by omega), low, high] at second
  rw [nvPraminWr64, low, high]
  exact second

theorem fill_snoc (w : Flat) (from_ count : Nat) (val : UInt32) :
    Function.update (w.fill from_ count val) (from_ + count) val =
      w.fill from_ (count + 1) val := by
  funext i
  by_cases last : i = from_ + count
  · subst last
    simp [Flat.fill]
  · rw [Function.update_of_ne last, Flat.fill, Flat.fill]
    congr 1
    simp only [eq_iff_iff]
    omega

theorem fill_refines (refines : Refines regs s w) {phys : UInt64} {len : UInt32} (val : UInt32)
    (aligned : 4 ∣ phys.toNat) (whole : 4 ∣ len.toNat) (inside : phys.toNat + len.toNat ≤ reach) :
    Refines regs (nvPraminFill s phys len val) (w.fill (phys.toNat / 4) (len.toNat / 4) val) := by
  have count : (len.toNat + 4 - 1) / 4 = len.toNat / 4 := by omega
  simp only [reach] at inside
  rw [nvPraminFill, forStep, count]
  apply forCount_invariant _ _ _
    (fun k s => Refines regs s (w.fill (phys.toNat / 4) k val))
  · have empty : w.fill (phys.toNat / 4) 0 val = w := by
      funext i
      rw [Flat.fill, if_neg (by omega)]
    rwa [empty]
  · intro k below state reached
    have offset : (UInt64.ofNat (k * 4)).toNat = k * 4 := ofNat_toNat (by omega)
    have place : (phys + UInt64.ofNat (k * 4)).toNat = phys.toNat + k * 4 := by
      rw [add_toNat (by omega), offset]
    have written := @wr32_refines _ _ _ reached (phys + UInt64.ofNat (k * 4)) val (by omega)
      (by rw [reach]; omega)
    rw [place, Nat.add_mul_div_right _ _ (by omega), fill_snoc] at written
    exact written

/-- A probed word is put back. -/
theorem probeWord_refines (bar1 : Mmio → UInt64 → UInt32) (refines : Refines regs s w)
    {off : UInt64} (magic : UInt32) (aligned : 4 ∣ off.toNat) (inside : off.toNat + 4 ≤ reach) :
    Refines regs (probeWord bar1 s off magic).2 w := by
  obtain ⟨value, read⟩ := rd32_refines refines aligned inside
  have marked := wr32_refines read magic aligned inside
  have restored := wr32_refines marked (nvPraminRd32 s off).1 aligned inside
  rw [value, Function.update_idem, Function.update_eq_self] at restored
  rw [← value] at restored
  exact restored

theorem probeEnds_refines (bar1 : Mmio → UInt64 → UInt32) (refines : Refines regs s w)
    {vramOff len : UInt64} (aligned : 4 ∣ vramOff.toNat) (whole : 4 ∣ len.toNat)
    (some : 4 ≤ len.toNat) (inside : vramOff.toNat + len.toNat ≤ reach) :
    Refines regs (probeEnds bar1 s vramOff len).2 w := by
  have first := probeWord_refines bar1 refines kMagicA aligned (by omega)
  have tail : (vramOff + len - 4).toNat = vramOff.toNat + len.toNat - 4 := by
    simp only [reach] at inside
    have sum : (vramOff + len).toNat = vramOff.toNat + len.toNat := add_toNat (by omega)
    have four : (4 : UInt64).toNat = 4 := by decide
    rw [sub_toNat (by rw [sum, four]; omega), sum, four]
  simp only [probeEnds]
  split
  · exact probeWord_refines bar1 first kMagicB (by omega) (by omega)
  · exact first

theorem probe_refines (bar1 : Mmio → UInt64 → UInt32) (mapped : Bool) (fBar1Len : UInt64)
    (refines : Refines regs s w) {vramOff len : UInt64} (aligned : 4 ∣ vramOff.toNat)
    (whole : 4 ∣ len.toNat) (inside : vramOff.toNat + len.toNat ≤ reach) :
    Refines regs
      { s with io := (probeBar1Identity bar1 mapped fBar1Len s.io vramOff len).2 } w := by
  have outside : inWindow nvPbusBar0Window = false := by decide
  simp only [probeBar1Identity, Mmio.rd, outside, Bool.false_eq_true, ↓reduceIte]
  split
  · exact refines
  rename_i admitted
  simp only [Bool.or_eq_true, Bool.not_eq_true', decide_eq_true_eq, not_or, UInt64.not_lt,
    UInt64.le_iff_toNat_le, UInt64.reduceToNat] at admitted
  split
  · exact refines
  -- the probe starts with an unknown cache and leaves the register as it found it
  have start : Refines regs { io := { s.io with
      accesses := .regRead nvPbusBar0Window :: s.io.accesses }, winBase := ~~~0 } w :=
    ⟨Or.inl rfl, refines.regs_eq, refines.flat⟩
  have probed := probeEnds_refines bar1 start aligned whole admitted.2 inside
  generalize (probeEnds bar1 _ vramOff len).2 = t at probed
  simp only [Mmio.wr, outside, Bool.false_eq_true, ↓reduceIte]
  exact ⟨refines.coherent, probed.regs_eq, probed.flat⟩

/-- One operation of any owner. -/
theorem step_refines (bar1 : Mmio → UInt64 → UInt32) (refines : Refines regs s w) (op : Op)
    (valid : op.Valid) :
    (step bar1 s op).1 = (w.step op).1 ∧ Refines regs (step bar1 s op).2 (w.step op).2 := by
  cases op with
  | rd32 phys =>
      obtain ⟨value, next⟩ := rd32_refines refines valid.1 valid.2
      exact ⟨congrArg (fun v => [v]) value, next⟩
  | wr32 phys val => exact ⟨rfl, wr32_refines refines val valid.1 valid.2⟩
  | wr64 phys val => exact ⟨rfl, wr64_refines refines val valid.1 valid.2⟩
  | fill phys len val => exact ⟨rfl, fill_refines refines val valid.1 valid.2.1 valid.2.2⟩
  | probe mapped fBar1Len vramOff len =>
      exact ⟨rfl, probe_refines bar1 mapped fBar1Len refines valid.1 valid.2.1 valid.2.2⟩

theorem run_refines (bar1 : Mmio → UInt64 → UInt32) (ops : List Op)
    (valid : ∀ op ∈ ops, op.Valid) (refines : Refines regs s w) :
    (run bar1 s ops).1 = (w.run ops).1 ∧ Refines regs (run bar1 s ops).2 (w.run ops).2 := by
  induction ops generalizing s w with
  | nil => exact ⟨rfl, refines⟩
  | cons op rest ih =>
      obtain ⟨values, next⟩ := step_refines bar1 refines op (valid op List.mem_cons_self)
      obtain ⟨later, last⟩ :=
        ih (fun other member => valid other (List.mem_cons_of_mem _ member)) next
      constructor
      · rw [run, Flat.run, values, later]
      · exact last

/-- Whatever the owners of the window do in turn, they read and leave what flat
memory would, and the cache stays true to the register. -/
theorem window_transparent (bar1 : Mmio → UInt64 → UInt32) (ops : List Op) (s : Aperture)
    (coherent : Coherent s) (valid : ∀ op ∈ ops, op.Valid) :
    (run bar1 s ops).1 = (Flat.run (flatten s.io.vram) ops).1 ∧
      flatten (run bar1 s ops).2.io.vram = (Flat.run (flatten s.io.vram) ops).2 ∧
      Coherent (run bar1 s ops).2 := by
  obtain ⟨values, last⟩ := run_refines bar1 ops valid
    (show Refines s.io.regs s (flatten s.io.vram) from ⟨coherent, rfl, rfl⟩)
  exact ⟨values, last.flat, last.coherent⟩

/-- A 64-bit write over a window boundary, a probe far away, and both words read back. -/
def straddlingOps : List Op :=
  [.wr64 0xffffc 0x1122334455667788, .probe true 0x10000000 0x300000 0x1000,
    .rd32 0xffffc, .rd32 0x100000]

def unknownAperture : Aperture :=
  { io := { window := 0x123, regs := fun _ => 0, vram := fun _ => 0xff, accesses := [] }
    winBase := ~~~0 }

theorem window_transparent_straddling :
    (run (fun _ _ => 0) unknownAperture straddlingOps).1 = [0x55667788, 0x11223344] := by
  have transparent := window_transparent (fun _ _ => 0) straddlingOps unknownAperture (Or.inl rfl)
    (by
      intro op member
      simp only [straddlingOps, List.mem_cons, List.not_mem_nil, or_false] at member
      rcases member with rfl | rfl | rfl | rfl <;> (simp only [Op.Valid, reach]; decide))
  rw [transparent.1]
  decide +kernel

end GspDriver.FlatVram
