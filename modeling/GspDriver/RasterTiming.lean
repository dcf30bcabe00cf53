import GspDriver.GspDisp

/-!
The raster that the core channel is programmed with for the first timing of an
EDID. On either axis a line (or frame) starts with the sync pulse; the values
sent are the last counts of the pulse and of the blanking and the start of the
blanking behind the picture. Each method packs the value for the columns below
the value for the rows.
-/

namespace GspDriver.RasterTiming

open Bytes LittleEndian GspDisp

/-! The methods of a head lie `0x400` apart from those of the next. -/

def headMethod (base head : UInt32) : UInt32 := base + head * 0x400

def headSetControlMeth : UInt32 := 0x2008
def headSetPixelClockFrequency : UInt32 := 0x200c
def headSetPixelClockFrequencyMax : UInt32 := 0x2028
def headSetViewportPointIn : UInt32 := 0x2048
def headSetViewportSizeIn : UInt32 := 0x204c
def headSetViewportSizeOut : UInt32 := 0x2058
def headSetRasterSize : UInt32 := 0x2064
def headSetRasterSyncEnd : UInt32 := 0x2068
def headSetRasterBlankEnd : UInt32 := 0x206c
def headSetRasterBlankStart : UInt32 := 0x2070
def headSetRasterVertBlank2 : UInt32 := 0x2074
def headControlProgressive : UInt32 := 0

/-- The output is bound by a stream of its own, so the SOR and its protocol go unused. -/
def nvGspDispBuildCoreModeset (pb : Stream) (t : NvEdidTiming) (head _sor _protocol : UInt32) :
    Stream :=
  let htotal := t.hact + t.hblank
  let vtotal := t.vact + t.vblank
  let hbe := t.hblank - t.hsyncOff - 1
  let vbe := t.vblank - t.vsyncOff - 1
  let hbs := hbe + t.hact
  let vbs := vbe + t.vact
  let hertz := t.pclkKhz * 1000
  -- the view
  let pb := pushMethod pb (headMethod headSetViewportPointIn head) 0
  let pb := pushMethod pb (headMethod headSetViewportSizeIn head)
    (t.hact ||| (t.vact <<< (16 : UInt32)))
  let pb := pushMethod pb (headMethod headSetViewportSizeOut head)
    (t.hact ||| (t.vact <<< (16 : UInt32)))
  -- the mode
  let pb := pushMethod pb (headMethod headSetRasterSize head) (htotal ||| (vtotal <<< (16 : UInt32)))
  let pb := pushMethod pb (headMethod headSetRasterSyncEnd head)
    ((t.hsyncW - 1) ||| ((t.vsyncW - 1) <<< (16 : UInt32)))
  let pb := pushMethod pb (headMethod headSetRasterBlankEnd head) (hbe ||| (vbe <<< (16 : UInt32)))
  let pb := pushMethod pb (headMethod headSetRasterBlankStart head) (hbs ||| (vbs <<< (16 : UInt32)))
  let pb := pushMethod pb (headMethod headSetRasterVertBlank2 head) 1
  let pb := pushMethod pb (headMethod headSetControlMeth head) headControlProgressive
  let pb := pushMethod pb (headMethod headSetPixelClockFrequency head) (hertz &&& 0x7fffffff)
  pushMethod pb (headMethod headSetPixelClockFrequencyMax head) (hertz &&& 0x7fffffff)

/-! One axis of a timing, and the counts as integers. -/

structure Axis where
  active : Nat
  blank : Nat
  syncOff : Nat
  syncW : Nat

section Axis

variable (a : Axis)

def Axis.total : Int := a.active + a.blank
def Axis.syncEnd : Int := a.syncW - 1
def Axis.blankEnd : Int := a.blank - a.syncOff - 1
def Axis.blankStart : Int := a.blankEnd + a.active

def Axis.Ordered : Prop :=
  a.syncEnd < a.blankEnd ∧ a.blankEnd < a.blankStart ∧ a.blankStart < a.total

/-- A pulse that ends before the blanking does, and a picture. -/
def Axis.Valid : Prop := 1 ≤ a.syncW ∧ a.syncOff + a.syncW < a.blank ∧ 1 ≤ a.active

end Axis

def horizontal (t : NvEdidTiming) : Axis :=
  ⟨t.hact.toNat, t.hblank.toNat, t.hsyncOff.toNat, t.hsyncW.toNat⟩

def vertical (t : NvEdidTiming) : Axis :=
  ⟨t.vact.toNat, t.vblank.toNat, t.vsyncOff.toNat, t.vsyncW.toNat⟩

/-- The address of a head's method, as the channel takes it from the header. -/
def address (base head : UInt32) : UInt32 := nvDispMethodHdr (headMethod base head) 1 &&& 0x3ffc

/-- The method's word holds `low` and `high` in its halves. -/
def Holds (pb : Stream) (head base : UInt32) (low high : Int) : Prop :=
  ∃ word, latched (address base head) pb = some word ∧
    ((word.toNat % 2 ^ 16 : Nat) : Int) = low ∧ ((word.toNat / 2 ^ 16 : Nat) : Int) = high

/-- Every field holds the count that it should, and the counts are in order. -/
structure WellFormed (pb : Stream) (head : UInt32) (h v : Axis) : Prop where
  viewportIn : Holds pb head headSetViewportSizeIn h.active v.active
  viewportOut : Holds pb head headSetViewportSizeOut h.active v.active
  size : Holds pb head headSetRasterSize h.total v.total
  syncEnd : Holds pb head headSetRasterSyncEnd h.syncEnd v.syncEnd
  blankEnd : Holds pb head headSetRasterBlankEnd h.blankEnd v.blankEnd
  blankStart : Holds pb head headSetRasterBlankStart h.blankStart v.blankStart
  columns : h.Ordered
  rows : v.Ordered

/-! Two methods of one head are told apart by their place among its own. -/

theorem method_place (base head : UInt32) : address base head &&& 0x3fc = base &&& 0x3fc := by
  have low : headMethod base head &&& 0x3ff = base &&& 0x3ff := by
    apply UInt32.toNat_inj.mp
    have mask : (0x3ff : UInt32).toNat = 2 ^ 10 - 1 := rfl
    have scale : (0x400 : UInt32).toNat = 2 ^ 10 := rfl
    rw [UInt32.toNat_and, UInt32.toNat_and, mask, Nat.and_two_pow_sub_one_eq_mod,
      Nat.and_two_pow_sub_one_eq_mod, headMethod, UInt32.toNat_add, UInt32.toNat_mul, scale]
    omega
  have header : ((1 : UInt32) &&& 0x3ff) <<< (18 : UInt32) &&& (0x3ffc &&& 0x3fc) = 0 := by decide
  have inner : (0x3ffc : UInt32) &&& (0x3ffc &&& 0x3fc) = 0x3ff &&& 0x3fc := by decide
  have split : ∀ x y z : UInt32, (x ||| y) &&& z = (x &&& z) ||| (y &&& z) := by
    intro x y z
    apply UInt32.toNat_inj.mp
    simp only [UInt32.toNat_and, UInt32.toNat_or, Nat.and_or_distrib_right]
  rw [address, nvDispMethodHdr, UInt32.and_assoc, split, header, UInt32.and_assoc, inner,
    ← UInt32.and_assoc, low, UInt32.and_assoc, UInt32.zero_or]
  rfl

section Latches

variable {base other head data : UInt32} {pb : Stream}

theorem latched_here :
    latched (address base head) (pushMethod pb (headMethod base head) data) = some data :=
  latched_same rfl

theorem latched_apart (apart : other &&& 0x3fc ≠ base &&& 0x3fc) :
    latched (address base head) (pushMethod pb (headMethod other head) data) =
      latched (address base head) pb := by
  apply latched_other
  intro same
  have places := congrArg (· &&& 0x3fc) same
  have first := method_place other head
  rw [address] at first
  rw [first, method_place] at places
  exact apart places

end Latches

section Stream

variable (pb : Stream) (t : NvEdidTiming) (head sor protocol : UInt32)

/-- The six words with a count for either axis, as the channel latches them. -/
theorem modeset_latches :
    let stream := nvGspDispBuildCoreModeset pb t head sor protocol
    let hbe := t.hblank - t.hsyncOff - 1
    let vbe := t.vblank - t.vsyncOff - 1
    latched (address headSetViewportSizeIn head) stream =
        some (t.hact ||| (t.vact <<< (16 : UInt32))) ∧
      latched (address headSetViewportSizeOut head) stream =
        some (t.hact ||| (t.vact <<< (16 : UInt32))) ∧
      latched (address headSetRasterSize head) stream =
        some ((t.hact + t.hblank) ||| ((t.vact + t.vblank) <<< (16 : UInt32))) ∧
      latched (address headSetRasterSyncEnd head) stream =
        some ((t.hsyncW - 1) ||| ((t.vsyncW - 1) <<< (16 : UInt32))) ∧
      latched (address headSetRasterBlankEnd head) stream =
        some (hbe ||| (vbe <<< (16 : UInt32))) ∧
      latched (address headSetRasterBlankStart head) stream =
        some ((hbe + t.hact) ||| ((vbe + t.vact) <<< (16 : UInt32))) := by
  simp only [nvGspDispBuildCoreModeset]
  refine ⟨?_, ?_, ?_, ?_, ?_, ?_⟩
  all_goals simp (disch := decide) only [latched_apart, latched_here]

end Stream

theorem pack_toNat {x y : UInt32} (low : x.toNat < 2 ^ 16) (high : y.toNat < 2 ^ 16) :
    (x ||| (y <<< (16 : UInt32))).toNat = x.toNat + 2 ^ 16 * y.toNat := by
  have sixteen : (16 : UInt32).toNat % 32 = 16 := rfl
  rw [UInt32.toNat_or, UInt32.toNat_shiftLeft, sixteen, Nat.shiftLeft_eq,
    Nat.mod_eq_of_lt (by omega), Nat.mul_comm, Nat.or_comm, ← Nat.two_pow_add_eq_or_of_lt low,
    Nat.add_comm]

/-- A word whose halves do not spill holds them. -/
theorem holds_pack {pb : Stream} {head base x y : UInt32} {low high : Int}
    (sent : latched (address base head) pb = some (x ||| (y <<< (16 : UInt32))))
    (left : (x.toNat : Int) = low) (right : (y.toNat : Int) = high)
    (lowSmall : low < 2 ^ 16) (highSmall : high < 2 ^ 16) : Holds pb head base low high := by
  have word := pack_toNat (x := x) (y := y) (by omega) (by omega)
  refine ⟨_, sent, ?_, ?_⟩
  · rw [word]
    omega
  · rw [word]
    omega

/-- What was sent for an axis is no negative count. -/
theorem holds_nonneg {pb : Stream} {head base : UInt32} {low high : Int}
    (holds : Holds pb head base low high) : 0 ≤ low ∧ 0 ≤ high := by
  obtain ⟨word, _, left, right⟩ := holds
  omega

/-- A byte below a masked byte in the place above it. -/
theorem spliced_small {low high mask shift : UInt32} {n : Nat} (lowSmall : low.toNat < 2 ^ n)
    (place : shift.toNat < 32) (highSmall : mask.toNat * 2 ^ shift.toNat < 2 ^ n) :
    (low ||| ((high &&& mask) <<< shift)).toNat < 2 ^ n := by
  have masked : (high &&& mask).toNat ≤ mask.toNat := by
    rw [UInt32.toNat_and]
    exact Nat.and_le_right
  have scaled : (high &&& mask).toNat * 2 ^ shift.toNat ≤ mask.toNat * 2 ^ shift.toNat :=
    Nat.mul_le_mul_right _ masked
  rw [UInt32.toNat_or, UInt32.toNat_shiftLeft, Nat.mod_eq_of_lt place, Nat.shiftLeft_eq]
  exact Nat.or_lt_two_pow lowSmall (lt_of_le_of_lt (Nat.mod_le _ _) (by omega))

/-- The picture and the blanking have 12 bits on either axis. -/
theorem timing_small {edid : Mem} {edidLen : UInt32} {t : NvEdidTiming}
    (accepted : nvEdidParseDtd edid edidLen = some t) :
    (t.hact.toNat < 2 ^ 12 ∧ t.vact.toNat < 2 ^ 12) ∧
      t.hblank.toNat < 2 ^ 12 ∧ t.vblank.toNat < 2 ^ 12 := by
  refine ⟨active_small accepted, ?_⟩
  have byte : ∀ b : UInt8, b.toUInt32.toNat < 2 ^ 12 := by
    intro b
    have bound := b.toNat_lt
    rw [UInt8.toNat_toUInt32]
    omega
  simp only [nvEdidParseDtd] at accepted
  split at accepted
  · cases accepted
  split at accepted
  · cases accepted
  cases accepted
  exact ⟨spliced_small (byte _) (by decide) (by decide),
    spliced_small (byte _) (by decide) (by decide)⟩

section Counts

variable {active blank syncOff syncW : UInt32}
  (valid : (Axis.mk active.toNat blank.toNat syncOff.toNat syncW.toNat).Valid)
  (small : active.toNat < 2 ^ 12 ∧ blank.toNat < 2 ^ 12)
include valid small

/-- On a valid axis no difference wraps, and the counts have 16 bits. -/
theorem counts_exact :
    let a := Axis.mk active.toNat blank.toNat syncOff.toNat syncW.toNat
    ((active + blank).toNat : Int) = a.total ∧ ((syncW - 1).toNat : Int) = a.syncEnd ∧
      ((blank - syncOff - 1).toNat : Int) = a.blankEnd ∧
      ((blank - syncOff - 1 + active).toNat : Int) = a.blankStart ∧
      a.total < 2 ^ 16 ∧ a.syncEnd < 2 ^ 16 ∧ a.blankEnd < 2 ^ 16 ∧ a.blankStart < 2 ^ 16 := by
  obtain ⟨pulse, ends, picture⟩ := valid
  simp only at pulse ends picture
  have one : (1 : UInt32).toNat = 1 := rfl
  have width : (syncW - 1).toNat = syncW.toNat - 1 :=
    UInt32.toNat_sub_of_le syncW 1 (UInt32.le_iff_toNat_le.mpr (by omega))
  have offset : (blank - syncOff).toNat = blank.toNat - syncOff.toNat :=
    UInt32.toNat_sub_of_le blank syncOff (UInt32.le_iff_toNat_le.mpr (by omega))
  have last : (blank - syncOff - 1).toNat = blank.toNat - syncOff.toNat - 1 := by
    rw [UInt32.toNat_sub_of_le _ 1 (UInt32.le_iff_toNat_le.mpr (by omega)), offset, one]
  have start : (blank - syncOff - 1 + active).toNat =
      blank.toNat - syncOff.toNat - 1 + active.toNat := by
    rw [UInt32.toNat_add, last]
    omega
  have sum : (active + blank).toNat = active.toNat + blank.toNat := by
    rw [UInt32.toNat_add]
    omega
  simp only [Axis.total, Axis.syncEnd, Axis.blankEnd, Axis.blankStart, width, last, start, sum]
  omega

end Counts

/-- The raster is well formed exactly for the timings with a pulse inside the
blanking and a picture on either axis. -/
theorem raster_well_formed_iff {edid : Mem} {edidLen : UInt32} {t : NvEdidTiming}
    (accepted : nvEdidParseDtd edid edidLen = some t) (pb : Stream) (head sor protocol : UInt32) :
    WellFormed (nvGspDispBuildCoreModeset pb t head sor protocol) head (horizontal t)
        (vertical t) ↔
      (horizontal t).Valid ∧ (vertical t).Valid := by
  constructor
  -- A latch of zero less one is not the count, so a pulse is there on both axes.
  · intro formed
    have pulses := holds_nonneg formed.syncEnd
    have columns := formed.columns
    have rows := formed.rows
    simp only [Axis.Ordered, Axis.Valid, Axis.syncEnd, Axis.blankEnd, Axis.blankStart, Axis.total]
      at pulses columns rows ⊢
    omega
  · rintro ⟨columns, rows⟩
    obtain ⟨⟨width, height⟩, hblank, vblank⟩ := timing_small accepted
    obtain ⟨sizeIn, sizeOut, size, syncEnd, blankEnd, blankStart⟩ :=
      modeset_latches pb t head sor protocol
    obtain ⟨htotal, hse, hbe, hbs, htotalSmall, hseSmall, hbeSmall, hbsSmall⟩ :=
      counts_exact columns ⟨width, hblank⟩
    obtain ⟨vtotal, vse, vbe, vbs, vtotalSmall, vseSmall, vbeSmall, vbsSmall⟩ :=
      counts_exact rows ⟨height, vblank⟩
    have picture :
        ((horizontal t).active : Int) < 2 ^ 16 ∧ ((vertical t).active : Int) < 2 ^ 16 := by
      simp only [horizontal, vertical]
      omega
    refine ⟨holds_pack sizeIn rfl rfl picture.1 picture.2,
      holds_pack sizeOut rfl rfl picture.1 picture.2,
      holds_pack size htotal vtotal htotalSmall vtotalSmall,
      holds_pack syncEnd hse vse hseSmall vseSmall,
      holds_pack blankEnd hbe vbe hbeSmall vbeSmall,
      holds_pack blankStart hbs vbs hbsSmall vbsSmall, ?_, ?_⟩
    · obtain ⟨pulse, ends, some⟩ := columns
      simp only [Axis.Ordered, Axis.syncEnd, Axis.blankEnd, Axis.blankStart, Axis.total]
      omega
    · obtain ⟨pulse, ends, some⟩ := rows
      simp only [Axis.Ordered, Axis.syncEnd, Axis.blankEnd, Axis.blankStart, Axis.total]
      omega

/-- The bytes of a timing descriptor, in an EDID that is otherwise clear. -/
def edidOf (dtd : List UInt8) : Mem := fun x => if 54 ≤ x then dtd.getD (x - 54) 0 else 0

/-- 1920 by 1080 at 60 Hz. -/
def fullHd : Mem := edidOf [0x02, 0x3a, 0x80, 0x18, 0x71, 0x38, 0x2d, 0x40, 0x58, 0x2c, 0x45, 0,
  0, 0, 0, 0, 0, 0x1e]

def fullHdTiming : NvEdidTiming :=
  ⟨148500, 1920, 280, 88, 44, 1080, 45, 4, 5, 1, 1⟩

theorem raster_well_formed_iff_full_hd :
    WellFormed (nvGspDispBuildCoreModeset [] fullHdTiming 0 0 0) 0 (horizontal fullHdTiming)
      (vertical fullHdTiming) := by
  have accepted : nvEdidParseDtd fullHd 128 = some fullHdTiming := rfl
  apply (raster_well_formed_iff accepted [] 0 0 0).mpr
  exact ⟨⟨by decide, by decide, by decide⟩, by decide, by decide, by decide⟩

/-- A pixel clock and nothing else: a descriptor that the parser accepts. -/
def clockOnly : Mem := edidOf [1]

theorem clock_only_raster :
    ∃ t, nvEdidParseDtd clockOnly 128 = some t ∧
      ¬ WellFormed (nvGspDispBuildCoreModeset [] t 0 0 0) 0 (horizontal t) (vertical t) := by
  refine ⟨⟨10, 0, 0, 0, 0, 0, 0, 0, 0, 0, 0⟩, rfl, ?_⟩
  intro formed
  have pulse := (holds_nonneg formed.syncEnd).1
  exact absurd pulse (by decide)

end GspDriver.RasterTiming
