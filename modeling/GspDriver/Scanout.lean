import GspDriver.GspDisp

/-!
The scanout surface of `nv_gsp_bringup`: the buffer the platform's provider
hands in, the ctx-dma descriptor and the window image programmed for it, and
the geometry published to the drawing side. The display engine counts the
descriptor in units of 256 bytes and the pitch in units of 64, both rounded
down, so producer and consumer agree only on multiples of them.
-/

namespace GspDriver.Scanout

open Words Bytes GspDisp

/-- The provider's `alloc`: its return code, the address and the target it hands in. -/
abbrev Alloc := UInt32 → UInt32 → UInt32 → Int × UInt64 × UInt32

structure NvGspScanout where
  fbPhys : UInt64
  width : UInt32
  height : UInt32
  pitch : UInt32
  fbTarget : UInt32

/-- What the display engine is given: the descriptor and the window's stream. -/
structure Programmed where
  desc : Mem
  ws : Stream

/-- Without a provider the buffer is at a fixed place in video memory; a
provider that refuses cancels the modeset. -/
def scanoutFb (fbp : Option Alloc) (w h pit : UInt32) : Option (UInt64 × UInt32) :=
  match fbp with
  | none => some (0x14000000, ctxdmaTargetVram)
  | some alloc =>
      let given := alloc w h pit
      if given.1 = 0 ∧ given.2.1 ≠ 0 then some given.2 else none

def scanoutDesc (fb2 fbsz : UInt64) (target : UInt32) : Mem :=
  nvGspDispBuildCtxdmaDesc fb2 (fb2 + fbsz - 1) target

def scanoutWindow (w h pit : UInt32) : Stream :=
  nvGspDispBuildWindowUpdate
    (nvGspDispBuildWindowImage [] paramsFormatX8r8g8b8 w h pit 0 nvDispHandleVram) false

/-- The modeset for the first timing of `edid`. The geometry is published once
the core channel has taken the head's methods, `cdone`. -/
def nvGspBringupScanout (edid : Mem) (fbp : Option Alloc) (cdone : Bool) :
    Option (Programmed × Option NvGspScanout) :=
  match nvEdidParseDtd edid 128 with
  | none => none
  | some mt =>
      let w := mt.hact
      let h := mt.vact
      let pit := w * 4
      let fbsz := pit.toUInt64 * h.toUInt64
      (scanoutFb fbp w h pit).map fun fb =>
        (⟨scanoutDesc fb.1 fbsz fb.2, scanoutWindow w h pit⟩,
          if cdone then some ⟨fb.1, w, h, pit, fb.2⟩ else none)

/-! The address the display engine forms, and the one the drawing side uses. -/

def Programmed.pitchField (p : Programmed) : Nat :=
  ((latched (setPlanarStorage 0) p.ws).getD 0).toNat

def Programmed.offsetField (p : Programmed) : Nat :=
  ((latched (setOffset 0) p.ws).getD 0).toNat

def Programmed.fetchAddress (p : Programmed) (x y : Nat) : Nat :=
  startField p.desc * 2 ^ 8 + p.offsetField * 2 ^ 8 + y * (p.pitchField * 64) + 4 * x

def NvGspScanout.drawAddress (scan : NvGspScanout) (x y : Nat) : Nat :=
  scan.fbPhys.toNat + y * scan.pitch.toNat + 4 * x

/-- Every pixel is fetched from where it is drawn, below the ctx-dma's limit. -/
def Agrees (p : Programmed) (scan : NvGspScanout) : Prop :=
  ∀ x < scan.width.toNat, ∀ y < scan.height.toNat,
    p.fetchAddress x y = scan.drawAddress x y ∧
      p.fetchAddress x y ≤ limitField p.desc * 2 ^ 8 + 0xff

/-- The modes and addresses whose geometry the units can express. -/
def Expressible (t : NvEdidTiming) (fb : UInt64) : Prop :=
  t.hact.toNat = 0 ∨ t.vact.toNat = 0 ∨
    (256 ∣ fb.toNat ∧ (16 ∣ t.hact.toNat ∨ t.vact.toNat = 1) ∧
      fb.toNat + 4 * t.hact.toNat * t.vact.toNat ≤ 2 ^ 64)

theorem window_latches (w h pit : UInt32) :
    latched (setPlanarStorage 0) (scanoutWindow w h pit) = some ((pit >>> 6) &&& 0x1fff) ∧
      latched (setOffset 0) (scanoutWindow w h pit) = some 0 := by
  simp only [scanoutWindow, nvGspDispBuildWindowUpdate, nvGspDispBuildWindowImage]
  constructor
  · simp (disch := decide) only [latched_other, latched_same]
  · simp (disch := decide) only [latched_other, latched_same]
    rfl

/-- With a pitch below `2 ^ 19` the field holds all of its whole units. -/
theorem pitch_units {pit : UInt32} (small : pit.toNat < 2 ^ 19) :
    ((pit >>> 6) &&& 0x1fff).toNat = pit.toNat / 64 := by
  have six : (6 : UInt32).toNat % 32 = 6 := rfl
  have mask : (0x1fff : UInt32).toNat = 2 ^ 13 - 1 := rfl
  rw [UInt32.toNat_and, UInt32.toNat_shiftRight, six, mask, Nat.and_two_pow_sub_one_eq_mod,
    Nat.shiftRight_eq_div_pow]
  omega

section Geometry

variable {t : NvEdidTiming} (width : t.hact.toNat < 2 ^ 12) (height : t.vact.toNat < 2 ^ 12)
include width

theorem pitch_toNat : (t.hact * 4).toNat = 4 * t.hact.toNat := by
  have four : (4 : UInt32).toNat = 4 := rfl
  rw [UInt32.toNat_mul, four]
  omega

include height

theorem surface_toNat : ((t.hact * 4).toUInt64 * t.vact.toUInt64).toNat =
    4 * t.hact.toNat * t.vact.toNat ∧ 4 * t.hact.toNat * t.vact.toNat < 2 ^ 26 := by
  have pitch := pitch_toNat width
  have area : 4 * t.hact.toNat * t.vact.toNat ≤ (4 * 4095) * 4095 :=
    Nat.mul_le_mul (by omega) (by omega)
  constructor
  · rw [mul_toNat]
    · rw [UInt32.toNat_toUInt64, UInt32.toNat_toUInt64, pitch]
    · rw [UInt32.toNat_toUInt64, UInt32.toNat_toUInt64, pitch]
      omega
  · omega

end Geometry

/-- The limit's unit holds the surface's first byte only if the surface ends
within the address space. -/
theorem limit_wraps {fb size : Nat} (nonempty : 0 < size) (small : size < 2 ^ 26)
    (word : fb < 2 ^ 64) :
    fb ≤ (fb + size + (2 ^ 64 - 1)) % 2 ^ 64 / 256 * 2 ^ 8 + 0xff ↔ fb + size ≤ 2 ^ 64 := by
  by_cases fits : fb + size ≤ 2 ^ 64
  · have limit : (fb + size + (2 ^ 64 - 1)) % 2 ^ 64 = fb + size - 1 := by omega
    rw [limit]
    omega
  · have limit : (fb + size + (2 ^ 64 - 1)) % 2 ^ 64 = fb + size - 1 - 2 ^ 64 := by omega
    rw [limit]
    omega

/-- The last pixel of row `y` ends within the surface. -/
theorem pixel_inside {w h x y : Nat} (column : x < w) (row : y < h) :
    y * (4 * w) + 4 * x + 4 ≤ 4 * w * h := by
  have rows : (y + 1) * (4 * w) ≤ h * (4 * w) := Nat.mul_le_mul_right _ row
  have expand : (y + 1) * (4 * w) = y * (4 * w) + 4 * w := by ring
  have turned : 4 * w * h = h * (4 * w) := by ring
  omega

theorem geometry_iff {w h fb : Nat} (size : 4 * w * h < 2 ^ 26) (word : fb < 2 ^ 64) :
    (∀ x < w, ∀ y < h,
      fb / 256 * 2 ^ 8 + 0 * 2 ^ 8 + y * (4 * w / 64 * 64) + 4 * x = fb + y * (4 * w) + 4 * x ∧
        fb / 256 * 2 ^ 8 + 0 * 2 ^ 8 + y * (4 * w / 64 * 64) + 4 * x ≤
          (fb + 4 * w * h + (2 ^ 64 - 1)) % 2 ^ 64 / 256 * 2 ^ 8 + 0xff) ↔
      w = 0 ∨ h = 0 ∨ (256 ∣ fb ∧ (16 ∣ w ∨ h = 1) ∧ fb + 4 * w * h ≤ 2 ^ 64) := by
  constructor
  · intro agrees
    by_cases narrow : w = 0
    · exact Or.inl narrow
    by_cases flat : h = 0
    · exact Or.inr (Or.inl flat)
    have nonempty : 0 < 4 * w * h := Nat.mul_pos (by omega) (by omega)
    -- the first pixel decides the address, the first of the second row the pitch
    obtain ⟨start, below⟩ := agrees 0 (by omega) 0 (by omega)
    simp only [Nat.zero_mul, Nat.mul_zero, Nat.add_zero] at start below
    have address : 256 ∣ fb := by omega
    rw [start] at below
    have fits := (limit_wraps nonempty size word).mp below
    refine Or.inr (Or.inr ⟨address, ?_, fits⟩)
    by_cases single : h = 1
    · exact Or.inr single
    · have second := (agrees 0 (by omega) 1 (by omega)).1
      exact Or.inl (by omega)
  · rintro (narrow | flat | ⟨address, pitch, fits⟩) x column y row
    · omega
    · omega
    have nonempty : 0 < 4 * w * h := Nat.mul_pos (by omega) (by omega)
    have inside := pixel_inside column row
    have whole : fb / 256 * 2 ^ 8 = fb := by omega
    have limit : (fb + 4 * w * h + (2 ^ 64 - 1)) % 2 ^ 64 = fb + 4 * w * h - 1 := by omega
    have rows : y * (4 * w / 64 * 64) = y * (4 * w) := by
      rcases pitch with units | single
      · have exact_pitch : 4 * w / 64 * 64 = 4 * w := by omega
        rw [exact_pitch]
      · have first : y = 0 := by omega
        rw [first, Nat.zero_mul, Nat.zero_mul]
    rw [limit, rows, whole]
    omega

/-- For every accepted mode and every buffer a provider hands in, the modeset
agrees with the published geometry exactly where the units can express it. -/
theorem scanout_agrees_iff {edid : Mem} {t : NvEdidTiming} {fbp : Option Alloc} {fb : UInt64}
    {target : UInt32} (parsed : nvEdidParseDtd edid 128 = some t)
    (provided : scanoutFb fbp t.hact t.vact (t.hact * 4) = some (fb, target)) :
    ∃ p scan, nvGspBringupScanout edid fbp true = some (p, some scan) ∧
      scan.fbPhys = fb ∧ scan.width = t.hact ∧ scan.height = t.vact ∧
      (Agrees p scan ↔ Expressible t fb) := by
  obtain ⟨width, height⟩ := active_small parsed
  obtain ⟨area, small⟩ := surface_toNat width height
  have pitch := pitch_toNat width
  have one : (1 : UInt64).toNat = 1 := rfl
  refine ⟨⟨scanoutDesc fb ((t.hact * 4).toUInt64 * t.vact.toUInt64) target,
    scanoutWindow t.hact t.vact (t.hact * 4)⟩, ⟨fb, t.hact, t.vact, t.hact * 4, target⟩, ?_, rfl,
    rfl, rfl, ?_⟩
  · simp only [nvGspBringupScanout, parsed, provided, Option.map_some, if_true]
  · obtain ⟨planar, offset⟩ := window_latches t.hact t.vact (t.hact * 4)
    obtain ⟨start, limit⟩ :=
      ctxdma_fields fb (fb + (t.hact * 4).toUInt64 * t.vact.toUInt64 - 1) target
    have last : (fb + (t.hact * 4).toUInt64 * t.vact.toUInt64 - 1).toNat =
        (fb.toNat + 4 * t.hact.toNat * t.vact.toNat + (2 ^ 64 - 1)) % 2 ^ 64 := by
      rw [UInt64.toNat_sub, UInt64.toNat_add, area, one]
      omega
    have zero : (0 : UInt32).toNat = 0 := rfl
    have same := @geometry_iff t.hact.toNat t.vact.toNat fb.toNat small fb.toNat_lt
    simp only [Agrees, Programmed.fetchAddress, NvGspScanout.drawAddress, Programmed.pitchField,
      Programmed.offsetField, planar, offset, Option.getD_some, scanoutDesc, start, limit, last,
      pitch_units (show (t.hact * 4).toNat < 2 ^ 19 by omega), pitch, zero]
    exact same

/-- An EDID whose first timing has `w` by `h` active pixels. -/
def edidOf (w h : Nat) : Mem
  | 54 => 1
  | 56 => UInt8.ofNat w
  | 58 => UInt8.ofNat (w / 256 * 16)
  | 59 => UInt8.ofNat h
  | 61 => UInt8.ofNat (h / 256 * 16)
  | _ => 0

theorem scanout_agrees_iff_full_hd : ∃ p scan,
    nvGspBringupScanout (edidOf 1920 1080) none true = some (p, some scan) ∧
      scan.width = 1920 ∧ scan.height = 1080 ∧ Agrees p scan := by
  have parsed : nvEdidParseDtd (edidOf 1920 1080) 128 =
      some ⟨10, 1920, 0, 0, 0, 1080, 0, 0, 0, 0, 0⟩ := rfl
  obtain ⟨p, scan, set, _, width, height, agrees⟩ :=
    @scanout_agrees_iff _ _ none 0x14000000 ctxdmaTargetVram parsed rfl
  exact ⟨p, scan, set, width, height, agrees.mpr (Or.inr (Or.inr (by decide)))⟩

/-- A provider whose buffer lies at 1 GiB of coherent system memory. -/
def atOneGib : Alloc := fun _ _ _ => (0, 0x40000000, 3)

/-- 1366 pixels make a pitch of 5464 bytes, of which the field holds 5440. -/
theorem scanout_skewed : ∃ p scan,
    nvGspBringupScanout (edidOf 1366 768) (some atOneGib) true = some (p, some scan) ∧
      0 < scan.width.toNat ∧ 1 < scan.height.toNat ∧ scan.pitch = 5464 ∧ p.pitchField * 64 = 5440 ∧
      ¬ Agrees p scan := by
  refine ⟨_, _, rfl, by decide, by decide, rfl, rfl, fun agrees => ?_⟩
  have second := (agrees 0 (by decide) 1 (by decide)).1
  exact absurd second (by decide +kernel)

end GspDriver.Scanout
