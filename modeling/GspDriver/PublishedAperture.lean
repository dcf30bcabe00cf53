import GspDriver.DriverClients

/-!
The aperture that the system gets to draw into. The driver counts its address on
its own, apart from the address it tells the card, and publishes it only for a
scan that the hardware confirmed. Whatever is handed out covers every pixel of
the mode, stays inside the second aperture or the buffer, and is the memory that
the display was given.
-/

namespace GspDriver.PublishedAperture

open Trace Words Bytes GspDisp Pramin FlatVram MilcorixFB Scanout
open DriverStart DriverMemory DriverRuns DriverClients

/-- `len` bytes at `phys` are the scanned buffer: video memory seen through the
second aperture, or the host memory that the display reads. -/
inductive Backs (env : Boot) (scan : NvGspScanout) (phys : UInt64) (len : Nat) : Prop where
  | video (base barLen : UInt64) (bar : env.bar1 = some (base, barLen))
      (target : scan.fbTarget = ctxdmaTargetVram)
      (here : phys.toNat = base.toNat + scan.fbPhys.toNat)
      (inside : scan.fbPhys.toNat + len ≤ barLen.toNat)
  | host (target : scan.fbTarget = nvCtxdmaTargetSysmem) (here : phys = scan.fbPhys)
      (given : phys = env.scanout.phys) (inside : len ≤ env.scanout.segLen.toNat)

theorem backs_shorter {env : Boot} {scan : NvGspScanout} {phys : UInt64} {len less : Nat}
    (backs : Backs env scan phys len) (shorter : less ≤ len) : Backs env scan phys less := by
  cases backs with
  | video base barLen bar target here inside =>
    exact .video base barLen bar target here (by omega)
  | host target here given inside => exact .host target here given (by omega)

/-- The modeset, asking the driver in the state `s` for a buffer, told the display
of the memory at `scan.fbPhys` and no other. -/
def Tells (env : Boot) (s : Driver) (scan : NvGspScanout) : Prop :=
  ∃ edid program, env.bringup.edid = some edid ∧
    nvGspBringupScanout edid (some (mfbFbAllocCb env s)) env.bringup.cdone =
      some (program, some scan) ∧
    program.desc = scanoutDesc scan.fbPhys (scan.pitch.toUInt64 * scan.height.toUInt64)
      scan.fbTarget

/-- The bring-up that `start` called, with the driver in the state `b`, programmed
the display for `scan` and returned it. -/
structure Programs (env : Boot) (b : Driver) (scan : NvGspScanout) : Prop where
  returned : (nvGspBringup env b).1 = some scan
  tells : Tells env (atModeset env b) scan

/-- The display scans the geometry that the driver reports. -/
structure Scans (env : Boot) (b d : Driver) (scan : NvGspScanout) : Prop where
  programmed : Programs env b scan
  confirmed : env.bringup.live = true
  width : d.fWidth = scan.width
  height : d.fHeight = scan.height
  pitch : d.fPitch = scan.pitch

/-- Every pixel of the mode has its four bytes in the range. -/
def Drawable (env : Boot) (b d : Driver) (range : UInt64 × UInt64) : Prop :=
  ∃ scan, Scans env b d scan ∧ Backs env scan range.1 range.2.toNat ∧
    ∀ x < d.fWidth.toNat, ∀ y < d.fHeight.toNat,
      y * d.fPitch.toNat + 4 * x + 4 ≤ range.2.toNat

theorem drawable_congr {env : Boot} {b d t : Driver} {range : UInt64 × UInt64}
    (drawable : Drawable env b d range) (width : t.fWidth = d.fWidth)
    (height : t.fHeight = d.fHeight) (pitch : t.fPitch = d.fPitch) : Drawable env b t range := by
  obtain ⟨scan, scans, backs, pixels⟩ := drawable
  refine ⟨scan, ⟨scans.programmed, scans.confirmed, width.trans scans.width,
    height.trans scans.height, pitch.trans scans.pitch⟩, backs, ?_⟩
  rw [width, height, pitch]
  exact pixels

/-- The second aperture lies in the address space of the bus. -/
def OnBus (env : Boot) : Prop :=
  ∀ base barLen, env.bar1 = some (base, barLen) → base.toNat + barLen.toNat ≤ 2 ^ 52

section Alloc

variable {env : Boot} {s : Driver}

/-- The fields that place the second aperture are those of the card. -/
def Placed (env : Boot) (s : Driver) : Prop :=
  s.fBar1 = true → env.bar1 = some (s.fBar1Phys, s.fBar1Len)

theorem probe_fits {bar1Read : Mmio → UInt64 → UInt32} {present : Bool} {barLen : UInt64}
    {card : Mmio} {off bytes : UInt64}
    (seen : (probeBar1Identity bar1Read present barLen card off bytes).1 = true) :
    ¬ off + bytes > barLen := by
  unfold probeBar1Identity at seen
  split at seen
  · cases seen
  split at seen
  · cases seen
  · assumption

theorem scanoutOffset_bound (env : Boot) (s : Driver) :
    scanoutOffset env s = 0 ∨ (scanoutOffset env s).toNat < s.fBar1Len.toNat := by
  have search : consoleFbOffsetInBar1 env s = ~~~0 ∨
      (consoleFbOffsetInBar1 env s).toNat < s.fBar1Len.toNat := by
    unfold consoleFbOffsetInBar1
    split
    · exact .inl rfl
    split
    · exact .inl rfl
    simp only
    split
    · exact .inl rfl
    split
    · exact .inl rfl
    · rename_i below
      exact .inr (UInt64.lt_iff_toNat_lt.mp (UInt64.not_le.mp below))
  unfold scanoutOffset
  split
  · exact .inl rfl
  · rename_i known
    exact .inr (search.resolve_left known)

theorem surfaceBytes_toNat (h pitch : UInt32) : (surfaceBytes h pitch).toNat =
    (pitch.toNat * h.toNat + 0xffff) / 2 ^ 16 * 2 ^ 16 := by
  have wide := pitch.toNat_lt
  have tall := h.toNat_lt
  have area : pitch.toNat * h.toNat ≤ (2 ^ 32 - 1) * (2 ^ 32 - 1) :=
    Nat.mul_le_mul (by omega) (by omega)
  have round : (0xffff : UInt64).toNat = 2 ^ 16 - 1 := rfl
  have product : (pitch.toUInt64 * h.toUInt64).toNat = pitch.toNat * h.toNat := by
    rw [mul_toNat] <;> rw [UInt32.toNat_toUInt64, UInt32.toNat_toUInt64]
    omega
  rw [surfaceBytes, and_not_mask_toNat _ round, add_toNat] <;> rw [product, round]
  · rfl
  · omega

/-- A buffer that the provider hands over backs its own aperture. -/
structure Provided (env : Boot) (t : Driver) (answer : Given) (bytes : UInt64) : Prop where
  len : t.fApertureLen = bytes
  window : t.fFbMode = milcorixFbmodeBar1 → answer.2.1 = scanoutOffset env t
  backs : ∀ scan : NvGspScanout, scan.fbPhys = answer.2.1 → scan.fbTarget = answer.2.2 →
    Backs env scan t.fApertureCpuPhys bytes.toNat

theorem scanoutInSysmem_provided (bytes : UInt64) (other : s.fFbMode ≠ milcorixFbmodeBar1)
    (success : (scanoutInSysmem env s bytes).1.1 = 0) :
    Provided env (scanoutInSysmem env s bytes).2 (scanoutInSysmem env s bytes).1 bytes := by
  unfold scanoutInSysmem at *
  split at success
  · cases success
  rename_i owned
  simp only [if_neg owned] at *
  split at success
  · cases success
  rename_i prepared
  simp only [if_neg prepared] at *
  split at success
  · cases success
  rename_i valid
  rw [if_neg valid]
  obtain ⟨_, _, long⟩ := (not_or.mp valid).imp_right not_or.mp
  refine ⟨rfl, fun only => absurd only other, fun scan address target => ?_⟩
  exact .host target address.symm rfl (UInt64.le_iff_toNat_le.mp (UInt64.not_lt.mp long))

theorem probeScanout_fields (bytes : UInt64) :
    (probeScanout env s bytes).2.fBar1Phys = s.fBar1Phys ∧
      (probeScanout env s bytes).2.fBar1Len = s.fBar1Len := by
  unfold probeScanout
  split <;> exact ⟨rfl, rfl⟩

theorem probeScanout_seen {bytes : UInt64} (seen : (probeScanout env s bytes).1 = true) :
    s.fBar1 = true ∧ ¬ scanoutOffset env s + bytes > s.fBar1Len := by
  unfold probeScanout at seen
  split at seen
  · rename_i tried
    exact ⟨tried.2, probe_fits seen⟩
  · cases seen

theorem freeScanoutFb_bars : (freeScanoutFb s).fBar1 = s.fBar1 ∧
    (freeScanoutFb s).fBar1Phys = s.fBar1Phys ∧ (freeScanoutFb s).fBar1Len = s.fBar1Len := by
  unfold freeScanoutFb
  split
  · split <;> exact ⟨rfl, rfl, rfl⟩
  · exact ⟨rfl, rfl, rfl⟩

theorem allocScanoutFb_provided (onBus : OnBus env) (placed : Placed env s) {w h pitch : UInt32}
    (success : (allocScanoutFb env s w h pitch).1.1 = 0) :
    Provided env (allocScanoutFb env s w h pitch).2 (allocScanoutFb env s w h pitch).1
      (surfaceBytes h pitch) := by
  unfold allocScanoutFb at *
  split at success
  · cases success
  rename_i some_
  simp only [if_neg some_] at *
  split at success
  · cases success
  rename_i small
  simp only [if_neg small] at *
  have seen := @probeScanout_seen env (freeScanoutFb s) (surfaceBytes h pitch)
  obtain ⟨phys, len⟩ := @probeScanout_fields env (freeScanoutFb s) (surfaceBytes h pitch)
  obtain ⟨bar1, bar1Phys, bar1Len⟩ := @freeScanoutFb_bars s
  have sameOff : scanoutOffset env (probeScanout env (freeScanoutFb s) (surfaceBytes h pitch)).2 =
      scanoutOffset env (freeScanoutFb s) := by
    simp only [scanoutOffset, consoleFbOffsetInBar1, phys, len]
  generalize probeScanout env (freeScanoutFb s) (surfaceBytes h pitch) = probe at *
  split at success
  · rename_i hit
    rw [if_pos hit]
    obtain ⟨mapped, room⟩ := seen hit
    have bar := placed (bar1.symm.trans mapped)
    have bus := onBus _ _ bar
    have bound := scanoutOffset_bound env (freeScanoutFb s)
    rw [bar1Len] at bound room
    refine ⟨rfl, fun _ => rfl, fun scan address target => ?_⟩
    unfold scanoutInBar1 at address ⊢
    rw [sameOff] at address ⊢
    generalize scanoutOffset env (freeScanoutFb s) = off at *
    -- Neither sum wraps: the aperture ends far below `2 ^ 64`.
    have low : off.toNat ≤ s.fBar1Len.toNat := by
      rcases bound with zero | below
      · rw [zero, UInt64.toNat_zero]
        exact Nat.zero_le _
      · exact Nat.le_of_lt below
    have limit : (128 * 1024 * 1024 : UInt64).toNat = 2 ^ 27 := rfl
    have short := UInt64.le_iff_toNat_le.mp (UInt64.not_lt.mp small)
    rw [limit] at short
    have sum : (off + surfaceBytes h pitch).toNat = off.toNat + (surfaceBytes h pitch).toNat :=
      add_toNat (by omega)
    have inside := UInt64.le_iff_toNat_le.mp (UInt64.not_lt.mp room)
    rw [sum] at inside
    have place : scan.fbPhys = off := address
    refine .video _ _ bar target ?_ (by rw [place]; exact inside)
    change (probe.2.fBar1Phys + off).toNat = _
    rw [phys, bar1Phys, place, add_toNat (by omega)]
  · rename_i miss
    rw [if_neg miss]
    split at success
    · cases success
    · rename_i other
      rw [if_neg other]
      exact scanoutInSysmem_provided _ other success

end Alloc

section Start

variable {env : Boot} {b s : Driver}

theorem published_scan {edid : Mem} {provider : Alloc} {cdone : Bool} {mt : NvEdidTiming}
    {program : Programmed} {scan : NvGspScanout} (parsed : nvEdidParseDtd edid 128 = some mt)
    (shown : nvGspBringupScanout edid (some provider) cdone = some (program, some scan)) :
    ((provider mt.hact mt.vact (mt.hact * 4)).1 = 0 ∧
      (provider mt.hact mt.vact (mt.hact * 4)).2.1 ≠ 0) ∧
    scan = ⟨(provider mt.hact mt.vact (mt.hact * 4)).2.1, mt.hact, mt.vact, mt.hact * 4,
      (provider mt.hact mt.vact (mt.hact * 4)).2.2⟩ ∧
    program.desc = scanoutDesc scan.fbPhys (scan.pitch.toUInt64 * scan.height.toUInt64)
      scan.fbTarget := by
  by_cases given : (provider mt.hact mt.vact (mt.hact * 4)).1 = 0 ∧
      (provider mt.hact mt.vact (mt.hact * 4)).2.1 ≠ 0
  · cases cdone with
    | true =>
      simp only [nvGspBringupScanout, parsed, scanoutFb, if_pos given, if_true, Option.map_some,
        Option.some.injEq, Prod.mk.injEq] at shown
      obtain ⟨rfl, rfl⟩ := shown
      exact ⟨given, rfl, rfl⟩
    | false =>
      simp [nvGspBringupScanout, parsed, scanoutFb, given] at shown
  · simp [nvGspBringupScanout, parsed, scanoutFb, given] at shown

/-- The programmed scan has its surface in the aperture of `t`. -/
structure Offers (env : Boot) (t : Driver) (scan : NvGspScanout) : Prop where
  backs : Backs env scan t.fApertureCpuPhys (surfaceBytes scan.height scan.pitch).toNat
  len : t.fApertureLen = surfaceBytes scan.height scan.pitch
  wide : scan.width.toNat < 2 ^ 12
  tall : scan.height.toNat < 2 ^ 12
  pitch : scan.pitch = scan.width * 4
  nonzero : scan.fbPhys ≠ 0
  window : t.fFbMode = milcorixFbmodeBar1 → scan.fbPhys = scanoutOffset env t

/-- The scan that the bring-up reports is the surface that the provider gave. -/
theorem bringupScanout_offers (onBus : OnBus env) (placed : Placed env s) {scan : NvGspScanout}
    (shown : (bringupScanout env s).1 = some scan) :
    Tells env s scan ∧ Offers env (bringupScanout env s).2 scan := by
  unfold bringupScanout at *
  cases chosen : env.bringup.edid with
  | none =>
    simp only [chosen] at shown
    cases shown
  | some edid =>
    cases parsed : nvEdidParseDtd edid 128 with
    | none =>
      simp only [chosen, parsed] at shown
      cases shown
    | some mt =>
      simp only [chosen, parsed] at shown ⊢
      obtain ⟨wide, tall⟩ := active_small parsed
      have provided := @allocScanoutFb_provided env s onBus placed mt.hact mt.vact (mt.hact * 4)
      cases programmed :
          nvGspBringupScanout edid (some (mfbFbAllocCb env s)) env.bringup.cdone with
      | none =>
        rw [programmed] at shown
        cases shown
      | some result =>
        obtain ⟨program, published⟩ := result
        rw [programmed] at shown
        have same : published = some scan := shown
        rw [same] at programmed
        obtain ⟨⟨success, nonzero⟩, fields, desc⟩ := published_scan parsed programmed
        obtain ⟨len, window, backs⟩ := provided success
        refine ⟨⟨edid, program, chosen, programmed, desc⟩, ?_⟩
        rw [fields]
        exact ⟨backs _ rfl rfl, len, wide, tall, rfl, nonzero, window⟩

/-- A published mode with its aperture. -/
def Ready (env : Boot) (b d : Driver) : Prop := ∃ scan, Scans env b d scan ∧ Offers env d scan

theorem placed_congr {t : Driver} (placed : Placed env s) (same : SameAccess s t) :
    Placed env t := by
  unfold Placed
  rw [same.bar1, same.bar1Phys, same.bar1Len]
  exact placed

/-- Only a mode that the hardware confirmed is published. -/
theorem publishScanout_ready {shown : Option NvGspScanout} (dark : s.fModeset = false)
    (backed : ∀ scan, shown = some scan → Programs env b scan ∧ Offers env s scan)
    (modeset :
      (publishScanout env (if env.bringup.live then shown else none) s).fModeset = true) :
    Ready env b (publishScanout env (if env.bringup.live then shown else none) s) := by
  cases live : env.bringup.live with
  | false =>
    simp only [live, Bool.false_eq_true, if_false, publishScanout, dark] at modeset
  | true =>
    simp only [live, if_true] at modeset ⊢
    cases shown with
    | none =>
      simp only [publishScanout, dark, Bool.false_eq_true] at modeset
    | some scan =>
      obtain ⟨programmed, offers⟩ := backed scan rfl
      unfold publishScanout at *
      simp only at modeset ⊢
      split at modeset
      · cases modeset
      · rename_i valid
        rw [if_neg valid]
        exact ⟨scan, ⟨programmed, live, rfl, rfl, rfl⟩, offers.backs, offers.len, offers.wide,
          offers.tall, offers.pitch, offers.nonzero, offers.window⟩

theorem nvGspBringup_offers (onBus : OnBus env) (placed : Placed env s) {scan : NvGspScanout}
    (returned : (nvGspBringup env s).1 = some scan) :
    Programs env s scan ∧ Offers env (nvGspBringup env s).2 scan := by
  have before : Placed env (atModeset env s) := by
    have here : Placed env (lendArena (s.touch true)) :=
      placed_congr (show Placed env (s.touch true) from placed) lendArena_access
    exact here
  have shown := returned
  unfold nvGspBringup at shown ⊢
  simp only at shown ⊢
  split at shown
  · cases shown
  rename_i told
  rw [if_neg told]
  split at shown
  · cases shown
  · rename_i full
    rw [if_neg full]
    obtain ⟨tells, offers⟩ := bringupScanout_offers onBus before shown
    exact ⟨⟨returned, tells⟩, offers.backs, offers.len, offers.wide, offers.tall, offers.pitch,
      offers.nonzero, offers.window⟩

theorem gspBringUp_ready (onBus : OnBus env) (placed : Placed env s) (dark : s.fModeset = false)
    (bar0 : s.fBar0 = true) (modeset : (gspBringUp env s).2.fModeset = true) :
    Ready env (allocDmaArena env s).2.setRunning (gspBringUp env s).2 := by
  have arena := allocDmaArena_access env s
  have unlit : (allocDmaArena env s).2.fModeset = false := arena.modeset.trans dark
  unfold gspBringUp at *
  simp only at modeset ⊢
  split at modeset
  · exact absurd (unlit.symm.trans modeset) (by decide)
  rename_i given
  rw [if_neg given]
  split at modeset
  · exact absurd (unlit.symm.trans modeset) (by decide)
  rename_i size
  rw [if_neg size]
  have running : SameAccess (allocDmaArena env s).2 (allocDmaArena env s).2.setRunning :=
    ⟨rfl, rfl, rfl, rfl, rfl, rfl, rfl, rfl, rfl, rfl⟩
  have offered := @nvGspBringup_offers env (allocDmaArena env s).2.setRunning onBus
    (placed_congr (placed_congr placed arena) running)
  have begun := nvGspBringup_access env (show (allocDmaArena env s).2.setRunning.fBar0 = true from
    arena.bar0.trans bar0)
  have still : (nvGspBringup env (allocDmaArena env s).2.setRunning).2.fModeset = false :=
    begun.modeset.trans unlit
  generalize nvGspBringup env (allocDmaArena env s).2.setRunning = result at *
  split at modeset
  · exact absurd (still.symm.trans modeset) (by decide)
  rename_i succeeded
  rw [if_neg succeeded]
  have tested : ∀ t : Driver,
      (if t.owner.ok = true then runGpuSelfTest t else t).fApertureCpuPhys = t.fApertureCpuPhys ∧
      (if t.owner.ok = true then runGpuSelfTest t else t).fApertureLen = t.fApertureLen := by
    intro t
    unfold runGpuSelfTest Driver.note
    split
    · split
      · exact ⟨rfl, rfl⟩
      · split <;> exact ⟨rfl, rfl⟩
    · exact ⟨rfl, rfl⟩
  have same := @selfTested_access result.2
  refine publishScanout_ready (same.modeset.trans still) ?_ modeset
  intro scan shown
  obtain ⟨programmed, offers⟩ := offered shown
  refine ⟨programmed, ?_, ?_, offers.wide, offers.tall, offers.pitch, offers.nonzero,
    fun only => ?_⟩
  · rw [(tested result.2).1]
    exact offers.backs
  · rw [(tested result.2).2]
    exact offers.len
  · rw [offers.window (same.fbMode ▸ only)]
    simp only [scanoutOffset, consoleFbOffsetInBar1, same.bar1Phys, same.bar1Len]

/-- A published aperture covers the mode, with room behind it if the buffer has any. -/
theorem ready_drawable {d : Driver} (ready : Ready env b d) :
    Drawable env b d (d.fApertureCpuPhys, apertureLen d) := by
  obtain ⟨scan, scans, offers⟩ := ready
  have wide : d.fWidth.toNat < 2 ^ 12 := scans.width ▸ offers.wide
  have tall : d.fHeight.toNat < 2 ^ 12 := scans.height ▸ offers.tall
  have pitch : d.fPitch.toNat = 4 * d.fWidth.toNat := by
    have four : (4 : UInt32).toNat = 4 := rfl
    rw [scans.pitch, offers.pitch, ← scans.width, UInt32.toNat_mul, four]
    omega
  have surface : (surfaceBytes scan.height scan.pitch).toNat =
      (d.fPitch.toNat * d.fHeight.toNat + 0xffff) / 2 ^ 16 * 2 ^ 16 := by
    rw [surfaceBytes_toNat, scans.pitch, scans.height]
  have area : d.fPitch.toNat * d.fHeight.toNat ≤ (4 * 4095) * 4095 :=
    Nat.mul_le_mul (by omega) (by omega)
  have want : (d.fPitch.toUInt64 * d.fHeight.toUInt64 + 128).toNat =
      d.fPitch.toNat * d.fHeight.toNat + 128 := by
    have spare : (128 : UInt64).toNat = 128 := rfl
    have product : (d.fPitch.toUInt64 * d.fHeight.toUInt64).toNat =
        d.fPitch.toNat * d.fHeight.toNat := by
      rw [mul_toNat] <;> rw [UInt32.toNat_toUInt64, UInt32.toNat_toUInt64]
      omega
    rw [add_toNat] <;> rw [product, spare]
    omega
  have lens : (apertureLen d).toNat ≤ (surfaceBytes scan.height scan.pitch).toNat ∧
      d.fPitch.toNat * d.fHeight.toNat ≤ (apertureLen d).toNat := by
    unfold apertureLen
    simp only
    split
    · rw [offers.len, surface]
      omega
    · rename_i fits
      have below := UInt64.le_iff_toNat_le.mp (UInt64.not_lt.mp fits)
      rw [want, offers.len] at below
      rw [want]
      omega
  refine ⟨scan, scans, backs_shorter offers.backs lens.1, fun x column y row => ?_⟩
  have pixel := pixel_inside column row
  rw [pitch]
  rw [pitch] at lens
  exact Nat.le_trans pixel lens.2

/-- What the bring-up leaves of the place of the second aperture. -/
theorem gspBringUp_bars (bar0 : s.fBar0 = true) : (gspBringUp env s).2.fBar1Phys = s.fBar1Phys ∧
    (gspBringUp env s).2.fBar1Len = s.fBar1Len ∧ (gspBringUp env s).2.fFbMode = s.fFbMode ∧
    (gspBringUp env s).2.fFbMem = s.fFbMem := by
  have arena := allocDmaArena_access env s
  unfold gspBringUp
  simp only
  split
  · exact ⟨arena.bar1Phys, arena.bar1Len, arena.fbMode, arena.fbMem⟩
  split
  · exact ⟨arena.bar1Phys, arena.bar1Len, arena.fbMode, arena.fbMem⟩
  have running : SameAccess (allocDmaArena env s).2 (allocDmaArena env s).2.setRunning :=
    ⟨rfl, rfl, rfl, rfl, rfl, rfl, rfl, rfl, rfl, rfl⟩
  have begun := access_trans (access_trans arena running)
    (nvGspBringup_access env (arena.bar0.trans bar0))
  split
  · exact ⟨begun.bar1Phys, begun.bar1Len, begun.fbMode, begun.fbMem⟩
  have tested := access_trans begun selfTested_access
  have published : ∀ (shown : Option NvGspScanout) (t : Driver),
      (publishScanout env shown t).fBar1Phys = t.fBar1Phys ∧
      (publishScanout env shown t).fBar1Len = t.fBar1Len ∧
      (publishScanout env shown t).fFbMode = t.fFbMode ∧
      (publishScanout env shown t).fFbMem = t.fFbMem := by
    intro shown t
    unfold publishScanout
    split
    · exact ⟨rfl, rfl, rfl, rfl⟩
    · split <;> exact ⟨rfl, rfl, rfl, rfl⟩
  obtain ⟨phys, len, mode, mem⟩ := published (if env.bringup.live then
    (nvGspBringup env (allocDmaArena env s).2.setRunning).1 else none) _
  exact ⟨phys.trans tested.bar1Phys, len.trans tested.bar1Len, mode.trans tested.fbMode,
    mem.trans tested.fbMem⟩

end Start

section Runs

variable {env : Boot} {b : Driver}

/-- What holds of every range given out, and of the next one. -/
structure Shown (env : Boot) (b d : Driver) (s : System) : Prop where
  width : s.driver.fWidth = d.fWidth
  height : s.driver.fHeight = d.fHeight
  pitch : s.driver.fPitch = d.fPitch
  handed : ∀ range ∈ s.handed, Drawable env b d range
  kept : ∀ range, s.driver.fFbMem = some range → Drawable env b d range
  ready : s.driver.fApertureCpuPhys ≠ 0 →
    Drawable env b d (s.driver.fApertureCpuPhys, apertureLen s.driver)

theorem hidden_shown {d : Driver} {s : System} (width : s.driver.fWidth = d.fWidth)
    (height : s.driver.fHeight = d.fHeight) (pitch : s.driver.fPitch = d.fPitch)
    (handed : ∀ range ∈ s.handed, Drawable env b d range) (unmapped : s.driver.fFbMem = none)
    (dark : s.driver.fApertureCpuPhys = 0) : Shown env b d s where
  width := width
  height := height
  pitch := pitch
  handed := handed
  kept range held := by cases unmapped.symm.trans held
  ready lit := absurd dark lit

theorem teardown_hides (d : Driver) : (teardown d).fApertureCpuPhys = 0 ∧
    (teardown d).fFbMem = none ∧ (teardown d).fWidth = d.fWidth ∧
    (teardown d).fHeight = d.fHeight ∧ (teardown d).fPitch = d.fPitch := by
  unfold teardown freeBuffers freeDmaArena freeScanoutFb
  cases d.fFbBuf <;> cases d.fScanoutLive <;> cases d.fGspRunning <;> cases d.fDmaBuf <;>
    exact ⟨rfl, rfl, rfl, rfl, rfl⟩

theorem mapped_fields (card : Mmio) : Placed env (mapped env card).2 ∧
    (mapped env card).2.fModeset = false ∧ (mapped env card).2.fFbMem = none := by
  unfold mapped mapBars
  split
  · refine ⟨fun bars => ?_, rfl, rfl⟩
    cases bars
  · split
    · rename_i here
      exact ⟨fun _ => here, rfl, rfl⟩
    · refine ⟨fun bars => ?_, rfl, rfl⟩
      cases bars

theorem broughtUp_ready (onBus : OnBus env) {card : Mmio} (bar0 : (mapped env card).1 = true)
    (modeset : (broughtUp env card).2.fModeset = true) :
    Ready env (atBringup env card) (broughtUp env card).2 ∧
      (broughtUp env card).2.fFbMem = none := by
  obtain ⟨based, _⟩ := mapped_access env card
  obtain ⟨placed, dark, unmapped⟩ := @mapped_fields env card
  have here : Placed env (setLock (mapped env card).2) := placed
  have base : (setLock (mapped env card).2).fBar0 = true := based bar0
  exact ⟨gspBringUp_ready onBus here dark base modeset, (gspBringUp_bars base).2.2.2.trans unmapped⟩

theorem launched_shown (onBus : OnBus env) (card : Mmio) :
    Shown env (atBringup env card) (start env card).2 (launched env card) := by
  have outcome := start_outcome env card
  unfold launched
  generalize start env card = result at outcome
  have nothing : ∀ d, ∀ range ∈ ([] : List (UInt64 × UInt64)),
      Drawable env (atBringup env card) d range :=
    fun _ _ none_ => absurd none_ List.not_mem_nil
  have gone : ∀ t text,
      Shown env (atBringup env card) (giveUp t text).2
        ⟨(giveUp t text).2, (giveUp t text).1, false, [], []⟩ := by
    intro t text
    obtain ⟨dark, unmapped, _⟩ := teardown_hides (t.note text)
    exact hidden_shown rfl rfl rfl (nothing _) unmapped dark
  cases outcome with
  | untouched => exact hidden_shown rfl rfl rfl (nothing _) rfl rfl
  | stranger => exact hidden_shown rfl rfl rfl (nothing _) rfl rfl
  | noBars text => exact gone _ text
  | noFramebuffer text bar0 => exact gone _ text
  | framebuffer bar0 up full modeset aperture nonempty =>
    obtain ⟨ready, unmapped⟩ := broughtUp_ready onBus bar0 modeset
    refine ⟨rfl, rfl, rfl, nothing _, fun range held => ?_, fun _ => ?_⟩
    · have empty : (broughtUp env card).2.fFbMem = some range := held
      cases unmapped.symm.trans empty
    · have drawn : Drawable env (atBringup env card)
          ((broughtUp env card).2.note (startedText (broughtUp env card).2))
          ((broughtUp env card).2.fApertureCpuPhys, apertureLen (broughtUp env card).2) :=
        drawable_congr (ready_drawable ready) rfl rfl rfl
      exact drawn

/-- An action that leaves the aperture and its owner alone. -/
theorem frame_shown {d : Driver} {s : System} (shown : Shown env b d s) {driver : Driver}
    (up freed : Bool) (clients : List Nat) (width : driver.fWidth = s.driver.fWidth)
    (height : driver.fHeight = s.driver.fHeight) (pitch : driver.fPitch = s.driver.fPitch)
    (mem : driver.fFbMem = s.driver.fFbMem)
    (phys : driver.fApertureCpuPhys = s.driver.fApertureCpuPhys)
    (len : driver.fApertureLen = s.driver.fApertureLen) :
    Shown env b d ⟨driver, up, freed, clients, s.handed⟩ := by
  have same : apertureLen driver = apertureLen s.driver := by
    simp only [apertureLen, height, pitch, len]
  refine ⟨width.trans shown.width, height.trans shown.height, pitch.trans shown.pitch,
    shown.handed, fun range held => shown.kept range (mem ▸ held), fun lit => ?_⟩
  have drawn := shown.ready (phys ▸ lit)
  simp only [phys, same]
  exact drawn

theorem getApertureRange_shown {d : Driver} {s : System} (shown : Shown env b d s)
    (aperture : UInt32) (made : Bool) :
    Shown env b d { s with
      driver := (getApertureRange s.driver aperture made).2
      handed := (getApertureRange s.driver aperture made).1.toList ++ s.handed } := by
  unfold getApertureRange
  split
  · exact shown
  split
  · exact shown
  rename_i valid
  have drawn := shown.ready (not_or.mp valid).1
  split
  · rename_i range kept
    refine ⟨shown.width, shown.height, shown.pitch, fun other given => ?_, shown.kept, shown.ready⟩
    rcases List.mem_append.mp given with new | old
    · rw [List.mem_singleton.mp new]
      exact shown.kept range kept
    · exact shown.handed other old
  split
  · refine ⟨shown.width, shown.height, shown.pitch, fun other given => ?_, fun other held => ?_,
      shown.ready⟩
    · rcases List.mem_append.mp given with new | old
      · rw [List.mem_singleton.mp new]
        exact drawn
      · exact shown.handed other old
    · rw [← Option.some.inj held]
      exact drawn
  · exact shown

theorem step_shown {d : Driver} {s : System} (shown : Shown env b d s) (action : Action) :
    Shown env b d (DriverRuns.step s action) := by
  unfold DriverRuns.step
  split
  · exact shown
  cases action with
  | newUserClient client type made =>
    simp only
    split
    · exact shown
    · exact frame_shown shown _ _ _ rfl rfl rfl rfl rfl rfl
  | freeClient client => exact frame_shown shown _ _ _ rfl rfl rfl rfl rfl rfl
  | write client offset data len => exact frame_shown shown _ _ _ rfl rfl rfl rfl rfl rfl
  | read client offset len => exact frame_shown shown _ _ _ rfl rfl rfl rfl rfl rfl
  | copy client srcOffset dstOffset bytes outcome =>
    exact frame_shown shown _ _ _ rfl rfl rfl rfl rfl rfl
  | getApertureRange aperture made => exact getApertureRange_shown shown aperture made
  | stop =>
    obtain ⟨dark, unmapped, width, height, pitch⟩ := teardown_hides s.driver
    exact hidden_shown (width.trans shown.width) (height.trans shown.height)
      (pitch.trans shown.pitch) shown.handed unmapped dark
  | free => exact frame_shown shown _ _ _ rfl rfl rfl rfl rfl rfl

/-- In every run, every range that the system was given to draw into: the scan is
the one that the bring-up of this start told the display of and returned, the
hardware confirmed it, the driver reports its geometry, the range is the scanned
memory and ends within the aperture or the buffer, and no pixel of the mode lies
outside of it. -/
theorem handed_drawable (onBus : OnBus env) (card : Mmio) (actions : List Action) :
    let s := run DriverRuns.step (launched env card) actions
    ∀ range ∈ s.handed, Drawable env (atBringup env card) s.driver range := by
  intro s range given
  have shown : Shown env (atBringup env card) (start env card).2 s :=
    @run_kept _ _ DriverRuns.step _ (Shown env (atBringup env card) (start env card).2)
      (fun _ action here => step_shown here action) actions (launched_shown onBus card)
  exact drawable_congr (shown.handed range given) shown.width shown.height shown.pitch

/-- The desktop with a second aperture of 256 MiB, through which video memory shows as it is. -/
def windowBoot : Boot :=
  { deskBoot with
    milcorixfb := none
    bar1 := some (0x4000000000, 0x10000000)
    bar1Read := fun card off => LittleEndian.ld32 card.vram off.toNat
    console := some 0x4000100000 }

theorem handed_drawable_window :
    Drawable windowBoot (atBringup windowBoot deskCard)
      (run DriverRuns.step (launched windowBoot deskCard) [.getApertureRange 0 true]).driver
      (0x4000100000, 0x7e9080) := by
  have onBus : OnBus windowBoot := by
    intro base barLen bar
    cases bar
    decide
  exact handed_drawable onBus deskCard [.getApertureRange 0 true] _ (by decide)

/-- A buffer at the very start of video memory is one that the bring-up takes
for a refusal. So with the second aperture as the only choice the driver comes
up only if the firmware's console lies inside of it, past its first byte. -/
theorem window_needs_offset (onBus : OnBus env) {card : Mmio}
    (only : mfbReadBootUint env.milcorixfb milcorixFbmodeAuto milcorixFbmodeSysmem =
      milcorixFbmodeBar1) (started : (start env card).1 = true) :
    consoleFbOffsetInBar1 env (mapped env card).2 ≠ 0 ∧
      consoleFbOffsetInBar1 env (mapped env card).2 ≠ ~~~0 := by
  have outcome := start_outcome env card
  generalize start env card = result at outcome started
  cases outcome with
  | untouched => cases started
  | stranger => cases started
  | noBars text => cases started
  | noFramebuffer text bar0 => cases started
  | framebuffer bar0 up full modeset aperture nonempty =>
    obtain ⟨⟨scan, _, offers⟩, _⟩ := broughtUp_ready onBus bar0 modeset
    obtain ⟨based, _⟩ := mapped_access env card
    have base : (setLock (mapped env card).2).fBar0 = true := based bar0
    obtain ⟨phys, len, mode, _⟩ := @gspBringUp_bars env _ base
    have chosen : (mapped env card).2.fFbMode = milcorixFbmodeBar1 := by
      rw [← only]
      unfold mapped mapBars
      split
      · rfl
      · split <;> rfl
    have place := offers.window (mode.trans chosen)
    have same : scanoutOffset env (broughtUp env card).2 = scanoutOffset env (mapped env card).2 := by
      have physical : (broughtUp env card).2.fBar1Phys = (mapped env card).2.fBar1Phys := phys
      have length : (broughtUp env card).2.fBar1Len = (mapped env card).2.fBar1Len := len
      simp only [scanoutOffset, consoleFbOffsetInBar1, physical, length]
    rw [same] at place
    unfold scanoutOffset at place
    split at place
    · exact absurd place offers.nonzero
    · rename_i known
      exact ⟨fun zero => offers.nonzero (place.trans zero), known⟩

theorem window_needs_offset_only :
    consoleFbOffsetInBar1 { windowBoot with milcorixfb := some 1 }
      (mapped { windowBoot with milcorixfb := some 1 } deskCard).2 ≠ 0 := by
  have onBus : OnBus { windowBoot with milcorixfb := some 1 } := by
    intro base barLen bar
    cases bar
    decide
  exact (@window_needs_offset { windowBoot with milcorixfb := some 1 } onBus deskCard rfl
    (by decide)).1

end Runs

end GspDriver.PublishedAperture
