import GspDriver.DriverStart

/-!
Host memory over `start` and `teardown`. Whatever the system and the firmware
answer, a page whose address the card was told is never given back, no page is
given back twice, and after `teardown` every other page has been given back,
except the arena of a bring-up that stopped before it told the card of it.
-/

namespace GspDriver.DriverMemory

open Ledger Bytes GspDisp Pramin FlatVram MilcorixFB Scanout DriverStart

/-- The two buffers of the driver against the pages; the flags say of each
whether the card knows it. `told` is that of the bring-up. -/
structure Kept (told : Bool) (s : Driver) : Prop where
  sound : s.pages.Sound fun page => s.fDmaBuf = some page ∨ s.fFbBuf = some page
  apart : ∀ page, s.fDmaBuf = some page → s.fFbBuf ≠ some page
  arena : ∀ page, s.fDmaBuf = some page →
    (page ∈ s.pages.lent ↔ s.fGspRunning = true ∧ told = true)
  scanout : ∀ page, s.fFbBuf = some page → (page ∈ s.pages.lent ↔ s.fScanoutLive = true)
  running : s.fGspRunning = true → s.fDmaBuf.isSome = true

/-- What `Kept` reads. -/
structure SameBuffers (s t : Driver) : Prop where
  pages : t.pages = s.pages
  dma : t.fDmaBuf = s.fDmaBuf
  fb : t.fFbBuf = s.fFbBuf
  running : t.fGspRunning = s.fGspRunning
  live : t.fScanoutLive = s.fScanoutLive

variable {told : Bool}

theorem kept_congr {s t : Driver} (kept : Kept told s) (same : SameBuffers s t) :
    Kept told t where
  sound := by
    rw [same.pages, same.dma, same.fb]
    exact kept.sound
  apart := by
    rw [same.dma, same.fb]
    exact kept.apart
  arena := by
    rw [same.pages, same.dma, same.running]
    exact kept.arena
  scanout := by
    rw [same.pages, same.fb, same.live]
    exact kept.scanout
  running := by
    rw [same.running, same.dma]
    exact kept.running

theorem reset_kept (card : Mmio) : Kept told (reset card) where
  sound := Pages.sound_congr Pages.empty_sound (by simp [reset])
  apart _ held := by cases held
  arena _ held := by cases held
  scanout _ held := by cases held
  running runs := by cases runs

section Free

variable {s : Driver} (kept : Kept told s)
include kept

theorem freeScanoutFb_kept : Kept told (freeScanoutFb s) := by
  unfold freeScanoutFb
  cases buffer : s.fFbBuf with
  | none => exact kept_congr kept ⟨rfl, rfl, by simp only [buffer], rfl, rfl⟩
  | some page =>
    cases live : s.fScanoutLive with
    | true => exact kept_congr kept ⟨rfl, rfl, by simp [buffer], rfl, by simp [live]⟩
    | false =>
      -- No device was told of the page.
      have unknown : page ∉ s.pages.lent := by
        intro lent
        have scanned := (kept.scanout page buffer).mp lent
        rw [live] at scanned
        cases scanned
      constructor
      · refine Pages.sound_congr (Pages.giveBack_sound kept.sound (.inr buffer) unknown) ?_
        intro other
        simp only [Bool.false_eq_true, if_false, buffer, reduceCtorEq, or_false, Option.some.injEq]
        constructor
        · intro held
          refine ⟨.inl held, fun same => ?_⟩
          exact kept.apart other held (by rw [buffer, same])
        · rintro ⟨held | same, distinct⟩
          · exact held
          · exact absurd same.symm distinct
      · intro _ _
        simp
      · exact kept.arena
      · intro _ held
        cases held
      · exact kept.running

theorem freeDmaArena_kept (idle : s.fGspRunning = false) : Kept told (freeDmaArena s) := by
  unfold freeDmaArena
  cases buffer : s.fDmaBuf with
  | none => exact kept_congr kept ⟨rfl, by simp only [buffer], rfl, rfl, rfl⟩
  | some page =>
    have unknown : page ∉ s.pages.lent := by
      intro lent
      have running := ((kept.arena page buffer).mp lent).1
      rw [idle] at running
      cases running
    constructor
    · refine Pages.sound_congr (Pages.giveBack_sound kept.sound (.inl buffer) unknown) ?_
      intro other
      simp only [buffer, reduceCtorEq, false_or, Option.some.injEq]
      constructor
      · intro held
        refine ⟨.inr held, fun same => ?_⟩
        exact kept.apart page buffer (by rw [← same]; exact held)
      · rintro ⟨same | held, distinct⟩
        · exact absurd same.symm distinct
        · exact held
    · intro _ held
      cases held
    · intro _ held
      cases held
    · exact kept.scanout
    · intro runs
      cases idle.symm.trans runs

theorem freeBuffers_kept : Kept told (freeBuffers s) := by
  have freed := freeScanoutFb_kept kept
  unfold freeBuffers
  by_cases running : (freeScanoutFb s).fGspRunning = true
  · rw [if_pos running]
    exact freed
  · rw [if_neg running]
    exact freeDmaArena_kept freed (Bool.not_eq_true _ ▸ running)

theorem teardown_kept : Kept told (teardown s) :=
  have idle : Kept told { s with owner := { s.owner with ok := false } } :=
    kept_congr kept ⟨rfl, rfl, rfl, rfl, rfl⟩
  kept_congr (freeBuffers_kept idle) ⟨rfl, rfl, rfl, rfl, rfl⟩

end Free

section Alloc

variable {env : Boot} {s : Driver} (kept : Kept told s)
include kept

/-- A page that was asked for and refused again leaves the buffers as they were. -/
theorem refused_kept : Kept told (s.takePage.giveBackPage s.pages.next) := by
  have taken := Pages.take_sound kept.sound
  have unknown : s.pages.next ∉ s.pages.take.lent := by
    intro lent
    have known := (kept.sound.lentKept _ lent).1
    omega
  have fresh : ∀ page, s.fDmaBuf = some page ∨ s.fFbBuf = some page → page ≠ s.pages.next := by
    intro page held same
    have known := (kept.sound.heldKept page held).1
    omega
  constructor
  · refine Pages.sound_congr (Pages.giveBack_sound taken (.inl rfl) unknown) ?_
    intro page
    constructor
    · intro held
      exact ⟨.inr held, fresh page held⟩
    · rintro ⟨new | held, distinct⟩
      · exact absurd new distinct
      · exact held
  · exact kept.apart
  · exact kept.arena
  · exact kept.scanout
  · exact kept.running

/-- The new page in the place of the arena. -/
theorem taken_dma (empty : s.fDmaBuf = none) : s.pages.take.Sound fun page =>
    some s.pages.next = some page ∨ s.fFbBuf = some page := by
  refine Pages.sound_congr (Pages.take_sound kept.sound) ?_
  intro page
  rw [empty]
  constructor
  · rintro (same | held)
    · exact .inl (Option.some.inj same).symm
    · exact .inr (.inr held)
  · rintro (same | nothing | held)
    · exact .inl (congrArg some same.symm)
    · cases nothing
    · exact .inr held

theorem allocDmaArena_kept (idle : s.fGspRunning = false) :
    Kept told (allocDmaArena env s).2 := by
  unfold allocDmaArena
  split
  · exact kept
  rename_i empty
  split
  · exact kept
  simp only
  split
  · exact refused_kept kept
  split
  · exact kept_congr (refused_kept kept) ⟨rfl, rfl, rfl, rfl, rfl⟩
  have none_ : s.fDmaBuf = none := Option.not_isSome_iff_eq_none.mp empty
  constructor
  · have taken := taken_dma kept none_
    exact taken
  · intro page held same
    have new := Option.some.inj held
    have known := (kept.sound.heldKept page (.inr same)).1
    omega
  · rintro page held
    cases held
    change s.pages.next ∈ s.pages.lent ↔ s.fGspRunning = true ∧ told = true
    rw [idle]
    constructor
    · intro lent
      have known := (kept.sound.lentKept _ lent).1
      omega
    · rintro ⟨running, _⟩
      cases running
  · exact kept.scanout
  · intro _
    rfl

/-- The new page in the place of the scanout buffer. -/
theorem taken_fb (empty : s.fFbBuf = none) : s.pages.take.Sound fun page =>
    s.fDmaBuf = some page ∨ some s.pages.next = some page := by
  refine Pages.sound_congr (Pages.take_sound kept.sound) ?_
  intro page
  rw [empty]
  constructor
  · rintro (held | same)
    · exact .inr (.inl held)
    · exact .inl (Option.some.inj same).symm
  · rintro (same | held | nothing)
    · exact .inr (congrArg some same.symm)
    · exact .inl held
    · cases nothing

theorem scanoutInSysmem_kept (bytes : UInt64) (empty : s.fFbBuf = none)
    (dark : s.fScanoutLive = false) : Kept told (scanoutInSysmem env s bytes).2 := by
  have taken := taken_fb kept empty
  have apart : ∀ page, s.fDmaBuf = some page → page ≠ s.pages.next := by
    intro page held same
    have known := (kept.sound.heldKept page (.inl held)).1
    omega
  unfold scanoutInSysmem
  split
  · exact kept
  simp only
  split
  · exact refused_kept kept
  split
  · have fresh : s.pages.next ∉ s.pages.lent := by
      intro lent
      have known := (kept.sound.lentKept _ lent).1
      omega
    have held : Kept told { s.takePage with fFbBuf := some s.pages.next } := by
      refine ⟨taken, ?_, kept.arena, ?_, kept.running⟩
      · intro page arena same
        exact apart page arena (Option.some.inj same).symm
      · rintro page same
        cases same
        change s.pages.next ∈ s.pages.lent ↔ s.fScanoutLive = true
        rw [dark]
        exact ⟨fun lent => absurd lent fresh, fun live => by cases live⟩
    exact freeScanoutFb_kept held
  · constructor
    · exact Pages.lend_sound taken (.inr rfl)
    · intro page held same
      exact apart page held (Option.some.inj same).symm
    · intro page held
      have before := kept.arena page held
      change page ∈ s.pages.next :: s.pages.lent ↔ s.fGspRunning = true ∧ told = true
      rw [← before, List.mem_cons, or_iff_right (apart page held)]
    · rintro page held
      cases held
      exact ⟨fun _ => rfl, fun _ => List.mem_cons.mpr (.inl rfl)⟩
    · exact kept.running

end Alloc

section Bringup

variable {env : Boot} {s : Driver}

theorem freeScanoutFb_empty (empty : s.fFbBuf = none) : SameBuffers s (freeScanoutFb s) := by
  have step : freeScanoutFb s =
      { s with fFbGpuAddr := 0, fFbTarget := 0, fApertureCpuPhys := 0, fApertureLen := 0 } := by
    simp only [freeScanoutFb, empty]
  rw [step]
  exact ⟨rfl, rfl, rfl, rfl, rfl⟩

theorem probeScanout_same (bytes : UInt64) : SameBuffers s (probeScanout env s bytes).2 := by
  unfold probeScanout
  split <;> exact ⟨rfl, rfl, rfl, rfl, rfl⟩

theorem same_trans {s t u : Driver} (first : SameBuffers s t) (second : SameBuffers t u) :
    SameBuffers s u where
  pages := second.pages.trans first.pages
  dma := second.dma.trans first.dma
  fb := second.fb.trans first.fb
  running := second.running.trans first.running
  live := second.live.trans first.live

theorem allocScanoutFb_kept (kept : Kept told s) (empty : s.fFbBuf = none)
    (dark : s.fScanoutLive = false) (w h pitch : UInt32) :
    Kept told (allocScanoutFb env s w h pitch).2 := by
  unfold allocScanoutFb
  split
  · exact kept
  simp only
  split
  · exact kept
  have same := same_trans (freeScanoutFb_empty empty)
    (@probeScanout_same env (freeScanoutFb s) (surfaceBytes h pitch))
  generalize probeScanout env (freeScanoutFb s) (surfaceBytes h pitch) = probe at same
  have held := kept_congr kept same
  have bare := same.fb.trans empty
  split
  · -- The buffer is video memory, and no page of the host was asked for.
    refine ⟨held.sound, held.apart, held.arena, ?_, held.running⟩
    intro page buffer
    have none_ := bare.symm.trans buffer
    cases none_
  split
  · exact held
  · exact scanoutInSysmem_kept held _ bare (same.live.trans dark)

theorem bringupScanout_kept (kept : Kept told s) (empty : s.fFbBuf = none)
    (dark : s.fScanoutLive = false) : Kept told (bringupScanout env s).2 := by
  unfold bringupScanout
  split
  · exact kept
  split
  · exact kept
  · exact allocScanoutFb_kept kept empty dark _ _ _

/-- A bring-up that comes as far as the arena lends it. -/
theorem lendArena_kept (kept : Kept true s) {page : Nat} (buffer : s.fDmaBuf = some page) :
    Kept true (lendArena s.setRunning) := by
  have step : lendArena s.setRunning = s.setRunning.lendPage page := by
    simp only [lendArena, Driver.setRunning, buffer]
  rw [step]
  refine ⟨Pages.lend_sound kept.sound (.inl buffer), kept.apart, ?_, ?_, ?_⟩
  · intro other held
    have same := Option.some.inj (buffer.symm.trans held)
    rw [← same]
    exact ⟨fun _ => ⟨rfl, rfl⟩, fun _ => List.mem_cons.mpr (.inl rfl)⟩
  · intro other held
    have before := kept.scanout other held
    have distinct : other ≠ page := by
      intro same
      exact kept.apart page buffer (by rw [← same]; exact held)
    change other ∈ page :: s.pages.lent ↔ s.fScanoutLive = true
    rw [← before, List.mem_cons, or_iff_right distinct]
  · intro _
    exact Option.isSome_iff_exists.mpr ⟨page, buffer⟩

theorem lendArena_fb : (lendArena s).fFbBuf = s.fFbBuf ∧
    (lendArena s).fScanoutLive = s.fScanoutLive := by
  unfold lendArena
  split <;> exact ⟨rfl, rfl⟩

/-- The flag is set, and the card knows nothing of the arena. -/
theorem untold_kept (kept : Kept false s) (given : s.fDmaBuf.isSome = true) :
    Kept false s.setRunning where
  sound := kept.sound
  apart := kept.apart
  arena page buffer := by
    have before := kept.arena page buffer
    refine ⟨fun lent => absurd (before.mp lent).2 (by decide), ?_⟩
    rintro ⟨_, told⟩
    cases told
  scanout := kept.scanout
  running _ := given

theorem atModeset_fb : (atModeset env s).fFbBuf = s.fFbBuf ∧
    (atModeset env s).fScanoutLive = s.fScanoutLive :=
  @lendArena_fb (s.touch true)

theorem atModeset_kept (kept : Kept true s) {page : Nat} (buffer : s.fDmaBuf = some page) :
    Kept true (atModeset env s.setRunning) := by
  have touched : Kept true (s.touch true) := kept_congr kept ⟨rfl, rfl, rfl, rfl, rfl⟩
  have lent : Kept true (lendArena (s.touch true).setRunning) := lendArena_kept touched buffer
  exact kept_congr lent ⟨rfl, rfl, rfl, rfl, rfl⟩

theorem nvGspBringup_kept (kept : Kept env.bringup.arenaTold s) {page : Nat}
    (buffer : s.fDmaBuf = some page) (empty : s.fFbBuf = none) (dark : s.fScanoutLive = false) :
    Kept env.bringup.arenaTold (nvGspBringup env s.setRunning).2 := by
  unfold nvGspBringup
  cases told : env.bringup.arenaTold with
  | false =>
    rw [told] at kept
    have given : s.fDmaBuf.isSome = true := Option.isSome_iff_exists.mpr ⟨page, buffer⟩
    exact kept_congr (untold_kept kept given) ⟨rfl, rfl, rfl, rfl, rfl⟩
  | true =>
    rw [told] at kept
    have before := @atModeset_kept env s kept page buffer
    obtain ⟨fb, live⟩ := @atModeset_fb env s.setRunning
    simp only [Bool.not_true, Bool.false_eq_true, if_false]
    split
    · exact kept_congr before ⟨rfl, rfl, rfl, rfl, rfl⟩
    · have shown := @bringupScanout_kept _ env _ before (fb.trans empty) (live.trans dark)
      exact kept_congr shown ⟨rfl, rfl, rfl, rfl, rfl⟩

theorem allocDmaArena_some : (allocDmaArena env s).1 = true →
    (allocDmaArena env s).2.fDmaBuf.isSome = true := by
  unfold allocDmaArena
  split
  · rename_i before
    exact fun _ => before
  split
  · intro given
    cases given
  simp only
  split
  · intro given
    cases given
  split
  · intro given
    cases given
  · exact fun _ => rfl

theorem allocDmaArena_fields : (allocDmaArena env s).2.fFbBuf = s.fFbBuf ∧
    (allocDmaArena env s).2.fScanoutLive = s.fScanoutLive ∧
    (allocDmaArena env s).2.fGspRunning = s.fGspRunning := by
  unfold allocDmaArena
  split
  · exact ⟨rfl, rfl, rfl⟩
  split
  · exact ⟨rfl, rfl, rfl⟩
  simp only
  split
  · exact ⟨rfl, rfl, rfl⟩
  · split <;> exact ⟨rfl, rfl, rfl⟩

theorem gspBringUp_kept (kept : Kept env.bringup.arenaTold s) (empty : s.fFbBuf = none)
    (dark : s.fScanoutLive = false) (idle : s.fGspRunning = false) :
    Kept env.bringup.arenaTold (gspBringUp env s).2 := by
  have arena : Kept env.bringup.arenaTold (allocDmaArena env s).2 := allocDmaArena_kept kept idle
  obtain ⟨fb, live, _⟩ := @allocDmaArena_fields env s
  unfold gspBringUp
  simp only
  split
  · exact arena
  rename_i given
  obtain ⟨page, buffer⟩ :=
    Option.isSome_iff_exists.mp (@allocDmaArena_some env s (by simpa using given))
  split
  · exact arena
  have begun : Kept env.bringup.arenaTold
      (nvGspBringup env (allocDmaArena env s).2.setRunning).2 :=
    nvGspBringup_kept arena buffer (fb.trans empty) (live.trans dark)
  split
  · exact begun
  have tested : ∀ t, Kept env.bringup.arenaTold t →
      Kept env.bringup.arenaTold (if t.owner.ok = true then runGpuSelfTest t else t) := by
    intro t held
    unfold runGpuSelfTest Driver.note
    split
    · split
      · exact kept_congr held ⟨rfl, rfl, rfl, rfl, rfl⟩
      · split <;> exact kept_congr held ⟨rfl, rfl, rfl, rfl, rfl⟩
    · exact held
  have published : ∀ shown t, Kept env.bringup.arenaTold t →
      Kept env.bringup.arenaTold (publishScanout env shown t) := by
    intro shown t held
    unfold publishScanout
    split
    · exact held
    · split <;> exact kept_congr held ⟨rfl, rfl, rfl, rfl, rfl⟩
  exact published _ _ (tested _ begun)

end Bringup

section Start

variable {env : Boot} {s : Driver}

/-- The arena that the driver does not give back since the bring-up was tried. -/
def Spared (s : Driver) (page : Nat) : Prop := s.fGspRunning = true ∧ s.fDmaBuf = some page

/-- With the buffers that may go back gone, every page is accounted for. -/
structure Settled (told : Bool) (s : Driver) : Prop where
  kept : Kept told s
  rest : ∀ page < s.pages.next,
    page ∈ s.pages.returned ↔ page ∉ s.pages.lent ∧ ¬ Spared s page

theorem teardown_arena {page : Nat} (held : (teardown s).fDmaBuf = some page) :
    (teardown s).fGspRunning = true := by
  unfold teardown freeBuffers unmapBars at *
  generalize freeScanoutFb { s with owner := { s.owner with ok := false } } = t at *
  by_cases running : t.fGspRunning = true
  · simp only [if_pos running]
    exact running
  · simp only [if_neg running] at held
    have gone : (freeDmaArena t).fDmaBuf = none := by
      unfold freeDmaArena
      split
      · rfl
      · assumption
    cases gone.symm.trans held

theorem freeDmaArena_fb : (freeDmaArena s).fFbBuf = s.fFbBuf ∧
    (freeDmaArena s).fScanoutLive = s.fScanoutLive := by
  unfold freeDmaArena
  split <;> exact ⟨rfl, rfl⟩

theorem freeScanoutFb_scanned {page : Nat} (held : (freeScanoutFb s).fFbBuf = some page) :
    (freeScanoutFb s).fScanoutLive = true := by
  unfold freeScanoutFb at *
  cases buffer : s.fFbBuf with
  | none =>
    simp only [buffer] at held
    cases held
  | some page =>
    cases live : s.fScanoutLive with
    | true => exact live
    | false =>
      simp only [buffer, live] at held
      cases held

theorem teardown_scanned {page : Nat} (held : (teardown s).fFbBuf = some page) :
    (teardown s).fScanoutLive = true := by
  unfold teardown freeBuffers unmapBars at *
  by_cases running :
      (freeScanoutFb { s with owner := { s.owner with ok := false } }).fGspRunning = true
  · simp only [if_pos running] at *
    exact freeScanoutFb_scanned held
  · simp only [if_neg running, freeDmaArena_fb] at *
    exact freeScanoutFb_scanned held

theorem teardown_settled (kept : Kept told s) : Settled told (teardown s) := by
  have after := teardown_kept kept
  refine ⟨after, fun page low => (Pages.returned_iff after.sound low).trans ?_⟩
  constructor
  · rintro ⟨unknown, free⟩
    exact ⟨unknown, fun spared => free (.inl spared.2)⟩
  · rintro ⟨unknown, other⟩
    refine ⟨unknown, ?_⟩
    rintro (arena | scanout)
    · exact other ⟨teardown_arena arena, arena⟩
    · exact unknown ((after.scanout page scanout).mpr (teardown_scanned scanout))

theorem giveUp_settled (kept : Kept told s) (text : String) :
    Settled told (giveUp s text).2 := by
  have settled : Settled told (teardown (s.note text)) :=
    teardown_settled (kept_congr kept ⟨rfl, rfl, rfl, rfl, rfl⟩)
  exact ⟨kept_congr settled.kept ⟨rfl, rfl, rfl, rfl, rfl⟩, settled.rest⟩

theorem mapBars_same : SameBuffers s (mapBars env s).2 := by
  unfold mapBars
  split
  · exact ⟨rfl, rfl, rfl, rfl, rfl⟩
  · split <;> exact ⟨rfl, rfl, rfl, rfl, rfl⟩

variable (env)

theorem untouched_settled {card : Mmio} (same : SameBuffers (reset card) s) :
    Settled told s := by
  refine ⟨kept_congr (reset_kept card) same, fun page low => ?_⟩
  rw [same.pages] at low
  exact absurd low (Nat.not_lt_zero page)

theorem configure_same (card : Mmio) : SameBuffers (reset card) (openJournal (configure env card)) :=
  ⟨rfl, rfl, rfl, rfl, rfl⟩

theorem mapped_same (card : Mmio) : SameBuffers (reset card) (mapped env card).2 :=
  same_trans (configure_same env card) mapBars_same

theorem broughtUp_kept (card : Mmio) :
    Kept env.bringup.arenaTold (broughtUp env card).2 := by
  have bars := mapped_same env card
  have locked : Kept env.bringup.arenaTold (setLock (mapped env card).2) :=
    kept_congr (untouched_settled bars).kept ⟨rfl, rfl, rfl, rfl, rfl⟩
  exact gspBringUp_kept locked bars.fb bars.live bars.running

/-- `start` keeps the pages, and a `start` that fails has given back the rest. -/
theorem start_kept (card : Mmio) : Kept env.bringup.arenaTold (start env card).2 ∧
    ((start env card).1 = false → Settled env.bringup.arenaTold (start env card).2) := by
  have outcome := start_outcome env card
  generalize start env card = result at outcome
  have failed : ∀ {t : Driver}, Settled env.bringup.arenaTold t →
      Kept env.bringup.arenaTold t ∧ ((false = false) → Settled env.bringup.arenaTold t) :=
    fun settled => ⟨settled.kept, fun _ => settled⟩
  cases outcome with
  | untouched =>
    have same : SameBuffers (reset card) (configure env card) := ⟨rfl, rfl, rfl, rfl, rfl⟩
    exact failed (untouched_settled same)
  | stranger => exact failed (untouched_settled (configure_same env card))
  | noBars text =>
    exact failed (giveUp_settled (untouched_settled (mapped_same env card)).kept text)
  | noFramebuffer text bar0 => exact failed (giveUp_settled (broughtUp_kept env card) text)
  | framebuffer =>
    refine ⟨kept_congr (broughtUp_kept env card) ⟨rfl, rfl, rfl, rfl, rfl⟩, fun refused => ?_⟩
    cases refused

end Start

end GspDriver.DriverMemory
