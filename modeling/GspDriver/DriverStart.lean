import GspDriver.Base.Ledger
import GspDriver.FlatVram
import GspDriver.MilcorixFB
import GspDriver.Scanout

/-!
`MilcorixFB` from `start` to the point where it becomes the system's
framebuffer: the boot arguments, the apertures of the card, the DMA arena, the
bring-up with its one call for a scanout buffer, and `teardown`. What the system
and the firmware answer is `Boot`. `pages` counts the host memory that the
driver was given: a page is lent once its address has been told to the card.
-/

namespace GspDriver.DriverStart

open Ledger Bytes GspDisp Pramin FlatVram MilcorixFB Scanout

def milcorixStageOff : UInt32 := 0
def milcorixStageFull : UInt32 := 2
def milcorixFbmodeAuto : UInt32 := 0
def milcorixFbmodeBar1 : UInt32 := 1
def milcorixFbmodeSysmem : UInt32 := 2
def nvCtxdmaTargetSysmem : UInt32 := 3
def nvDmaArenaSize : UInt64 := 64 * 1024 * 1024

/-- What a request for physically contiguous memory comes to: the buffer, its
`prepare`, its address for the processor (0 for none) and its first segment. -/
structure AllocReply where
  given : Bool
  prepared : Bool
  va : UInt64
  phys : UInt64
  segLen : UInt64

/-- The execution context that `nv_gsp_bringup` leaves, as far as the driver reads it. -/
structure GpuGiven where
  ok : Bool
  externalVmm : Bool
  poolSelftestOk : Bool
  selftestOk : Bool
  scratchVA : UInt64
  scratchPhys : UInt64
  scratchSize : UInt64
  hChannel : UInt32
  hCe : UInt32

/-- A run of `nv_gsp_bringup`. `arenaTold` says that it comes as far as writing
an address of the arena to the card, which the load of FWSEC does first. `edid`
is that of the chosen output if the run comes as far as the modeset; `live` says
that the head scans and its output resource is active. -/
structure Bringup where
  arenaTold : Bool
  rc : Int
  before : Mmio
  edid : Option Mem
  cdone : Bool
  live : Bool
  after : Mmio → Mmio
  gpu : GpuGiven

/-- What stops the run before the card is told of the arena (the firmware of the
card, the files, the arena itself, the VBIOS) is an error. -/
def Bringup.result (run : Bringup) : Int := if run.arenaTold then run.rc else -1

structure Boot where
  milcorix : Option Int
  milcorixfb : Option Int
  milcorixvram : Option Int
  pci : Bool
  bar0 : Bool
  /-- The bus address and the length of the second aperture. -/
  bar1 : Option (UInt64 × UInt64)
  /-- What a read through the second aperture shows. -/
  bar1Read : Mmio → UInt64 → UInt32
  lock : Bool
  arena : AllocReply
  /-- `v_baseAddr` of the console. -/
  console : Option UInt64
  scanout : AllocReply
  bringup : Bringup
  superStart : Bool

structure Driver where
  fStage : UInt32
  fFbMode : UInt32
  fBar0 : Bool
  fBar1 : Bool
  fBar1Phys : UInt64
  fBar1Len : UInt64
  fDmaBuf : Option Nat
  fArenaPhys : UInt64
  fArenaSize : UInt64
  fFbBuf : Option Nat
  fFbGpuAddr : UInt64
  fFbTarget : UInt32
  fApertureCpuPhys : UInt64
  fApertureLen : UInt64
  fWidth : UInt32
  fHeight : UInt32
  fPitch : UInt32
  fModeset : Bool
  /-- The first block, once `fEdidOk`. -/
  fEdid : Option Mem
  fGspRunning : Bool
  fScanoutLive : Bool
  fFbMem : Option (UInt64 × UInt64)
  selftestOk : Bool
  /-- The card, the lock, the client count and the execution context. -/
  owner : Owner
  pages : Pages
  journal : Bool
  status : List String
  /-- A register was accessed through a base that is not mapped. -/
  wild : Bool

/-- The fields as `start` sets them before anything else. -/
def reset (card : Mmio) : Driver where
  fStage := 0
  fFbMode := 0
  fBar0 := false
  fBar1 := false
  fBar1Phys := 0
  fBar1Len := 0
  fDmaBuf := none
  fArenaPhys := 0
  fArenaSize := 0
  fFbBuf := none
  fFbGpuAddr := 0
  fFbTarget := 0
  fApertureCpuPhys := 0
  fApertureLen := 0
  fWidth := 1280
  fHeight := 1024
  fPitch := 1280 * 4
  fModeset := false
  fEdid := none
  fGspRunning := false
  fScanoutLive := false
  fFbMem := none
  selftestOk := false
  owner :=
    { card, fGpuLock := false, ok := false, externalVmm := false, poolSelftestOk := false
      scratchVA := 0, scratchPhys := 0, scratchSize := 0, hChannel := 0, hCe := 0
      fGpuClients := 0, clock := 0, issued := [] }
  pages := .empty
  journal := false
  status := []
  wild := false

namespace Driver

def takePage (s : Driver) : Driver := { s with pages := s.pages.take }

def giveBackPage (s : Driver) (page : Nat) : Driver := { s with pages := s.pages.giveBack page }

def lendPage (s : Driver) (page : Nat) : Driver := { s with pages := s.pages.lend page }

def setCard (s : Driver) (card : Mmio) : Driver := { s with owner := { s.owner with card } }

/-- Set before the bring-up: it may start DMA even if it fails later. -/
def setRunning (s : Driver) : Driver := { s with fGspRunning := true }

def note (s : Driver) (text : String) : Driver := { s with status := s.status ++ [text] }

/-- Registers are accessed if `reached`. -/
def touch (s : Driver) (reached : Bool) : Driver := { s with wild := s.wild || reached && !s.fBar0 }

end Driver

def mfbReadBootUint (given : Option Int) (def_ max : UInt32) : UInt32 :=
  match given with
  | some val => if 0 ≤ val ∧ val ≤ max.toNat then UInt32.ofNat val.toNat else def_
  | none => def_

def mapBars (env : Boot) (s : Driver) : Bool × Driver :=
  if !env.bar0 then (false, s)
  else match env.bar1 with
    | some (phys, len) =>
        (true, { s with fBar0 := true, fBar1 := true, fBar1Phys := phys, fBar1Len := len })
    | none => (true, { s with fBar0 := true })

def consoleFbOffsetInBar1 (env : Boot) (s : Driver) : UInt64 :=
  if s.fBar1Phys = 0 ∨ s.fBar1Len = 0 then ~~~0
  else match env.console with
    | none => ~~~0
    | some vBaseAddr =>
      let base := vBaseAddr &&& ~~~3
      if base = 0 ∨ base < s.fBar1Phys then ~~~0
      else if base - s.fBar1Phys ≥ s.fBar1Len then ~~~0
      else base - s.fBar1Phys

def allocDmaArena (env : Boot) (s : Driver) : Bool × Driver :=
  if s.fDmaBuf.isSome then (true, s)
  else if !env.arena.given then (false, s)
  else
    let page := s.pages.next
    if !env.arena.prepared then (false, s.takePage.giveBackPage page)
    else
      let s := { s with fArenaPhys := env.arena.phys, fArenaSize := nvDmaArenaSize }
      if env.arena.va = 0 ∨ env.arena.phys = 0 ∨ env.arena.segLen < nvDmaArenaSize then
        (false, s.takePage.giveBackPage page)
      else (true, { s.takePage with fDmaBuf := some page })

def freeDmaArena (s : Driver) : Driver :=
  match s.fDmaBuf with
  | some page =>
    { s.giveBackPage page with fDmaBuf := none, fArenaPhys := 0, fArenaSize := 0 }
  | none => { s with fArenaPhys := 0, fArenaSize := 0 }

/-- A buffer that the display scans is kept. -/
def freeScanoutFb (s : Driver) : Driver :=
  let s := match s.fFbBuf with
    | some page =>
      if s.fScanoutLive then s else { s.giveBackPage page with fFbBuf := none }
    | none => s
  { s with fFbGpuAddr := 0, fFbTarget := 0, fApertureCpuPhys := 0, fApertureLen := 0 }

/-- The bytes of a surface, a multiple of 64 KiB. -/
def surfaceBytes (h pitch : UInt32) : UInt64 :=
  (pitch.toUInt64 * h.toUInt64 + 0xffff) &&& ~~~0xffff

/-- Return code, `*outGpuAddr` and `*outTarget`. -/
abbrev Given := Int × UInt64 × UInt32

def scanoutInBar1 (s : Driver) (vramOff bytes : UInt64) : Given × Driver :=
  ((0, vramOff, ctxdmaTargetVram),
    { s with
      fFbGpuAddr := vramOff
      fFbTarget := ctxdmaTargetVram
      fApertureCpuPhys := s.fBar1Phys + vramOff
      fApertureLen := bytes
      fScanoutLive := true })

def scanoutInSysmem (env : Boot) (s : Driver) (bytes : UInt64) : Given × Driver :=
  let refused : Given := (-1, 0, ctxdmaTargetVram)
  if !env.scanout.given then (refused, s)
  else
    let page := s.pages.next
    if !env.scanout.prepared then (refused, s.takePage.giveBackPage page)
    else if env.scanout.va = 0 ∨ env.scanout.phys = 0 ∨ env.scanout.segLen < bytes then
      (refused, freeScanoutFb { s.takePage with fFbBuf := some page })
    else
      ((0, env.scanout.phys, nvCtxdmaTargetSysmem),
        { s.takePage.lendPage page with
          fFbBuf := some page
          fFbGpuAddr := env.scanout.phys
          fFbTarget := nvCtxdmaTargetSysmem
          fApertureCpuPhys := env.scanout.phys
          fApertureLen := bytes
          fScanoutLive := true })

/-- Where the console is, or the start of video memory. -/
def scanoutOffset (env : Boot) (s : Driver) : UInt64 :=
  if consoleFbOffsetInBar1 env s = ~~~0 then 0 else consoleFbOffsetInBar1 env s

/-- Whether the buffer may be video memory seen through the second aperture. -/
def probeScanout (env : Boot) (s : Driver) (bytes : UInt64) : Bool × Driver :=
  if s.fFbMode ≠ milcorixFbmodeSysmem ∧ s.fBar1 then
    let probe := probeBar1Identity env.bar1Read (s.fBar1 && s.fBar0) s.fBar1Len s.owner.card
      (scanoutOffset env s) bytes
    (probe.1, s.setCard probe.2)
  else (false, s)

def allocScanoutFb (env : Boot) (s : Driver) (w h pitch : UInt32) : Given × Driver :=
  let refused : Given := (-1, 0, ctxdmaTargetVram)
  if w = 0 ∨ h = 0 ∨ pitch = 0 then (refused, s)
  else
    let bytes := surfaceBytes h pitch
    if bytes > 128 * 1024 * 1024 then (refused, s)
    else
      let probe := probeScanout env (freeScanoutFb s) bytes
      if probe.1 then scanoutInBar1 probe.2 (scanoutOffset env probe.2) bytes
      else if probe.2.fFbMode = milcorixFbmodeBar1 then (refused, probe.2)
      else scanoutInSysmem env probe.2 bytes

/-- What `mfb_fb_alloc_cb` answers. -/
def mfbFbAllocCb (env : Boot) (s : Driver) : Alloc := fun w h pitch =>
  (allocScanoutFb env s w h pitch).1

/-- The modeset part of the bring-up: the provider is asked at most once. -/
def bringupScanout (env : Boot) (s : Driver) : Option NvGspScanout × Driver :=
  match env.bringup.edid with
  | none => (none, s)
  | some edid =>
    match nvEdidParseDtd edid 128 with
    | none => (none, s)
    | some mt =>
      let shown := nvGspBringupScanout edid (some (mfbFbAllocCb env s)) env.bringup.cdone
      (shown.bind Prod.snd, (allocScanoutFb env s mt.hact mt.vact (mt.hact * 4)).2)

/-- From here on the card knows the arena. -/
def lendArena (s : Driver) : Driver :=
  match s.fDmaBuf with
  | some page => s.lendPage page
  | none => s

def setGpu (s : Driver) (gpu : GpuGiven) : Driver :=
  { s with
    selftestOk := gpu.selftestOk
    owner :=
      { s.owner with
        ok := gpu.ok
        externalVmm := gpu.externalVmm
        poolSelftestOk := gpu.poolSelftestOk
        scratchVA := gpu.scratchVA
        scratchPhys := gpu.scratchPhys
        scratchSize := gpu.scratchSize
        hChannel := gpu.hChannel
        hCe := gpu.hCe } }

/-- The context that the bring-up starts from. -/
def noGpu : GpuGiven where
  ok := false
  externalVmm := false
  poolSelftestOk := false
  selftestOk := false
  scratchVA := 0
  scratchPhys := 0
  scratchSize := 0
  hChannel := 0
  hCe := 0

/-- The driver where the bring-up comes to the modeset. -/
def atModeset (env : Boot) (s : Driver) : Driver :=
  (lendArena (s.touch true)).setCard env.bringup.before

/-- The driver's call of `nv_gsp_bringup`. -/
def nvGspBringup (env : Boot) (s : Driver) : Option NvGspScanout × Driver :=
  if !env.bringup.arenaTold then (none, setGpu ((s.touch true).setCard env.bringup.before) noGpu)
  else
    let s := atModeset env s
    let shown := if s.fStage < milcorixStageFull then (none, s) else bringupScanout env s
    (shown.1, setGpu (shown.2.setCard (env.bringup.after shown.2.owner.card)) env.bringup.gpu)

def runGpuSelfTest (s : Driver) : Driver :=
  if !s.owner.ok then s.note "gpu:no-ctx"
  else if s.selftestOk then s.note "gpu:copy-ok"
  else s.note "gpu:copy-fail"

/-- `shown` is the geometry of a scan that the hardware confirmed. -/
def publishScanout (env : Boot) (shown : Option NvGspScanout) (s : Driver) : Driver :=
  match shown with
  | none => s
  | some scan =>
    if s.fApertureCpuPhys = 0 ∨ s.fApertureLen = 0 then { s with fModeset := false }
    else
      { s with
        fWidth := scan.width
        fHeight := scan.height
        fPitch := scan.pitch
        fModeset := true
        fEdid := env.bringup.edid }

def gspBringUp (env : Boot) (s : Driver) : Bool × Driver :=
  let arena := allocDmaArena env s
  if !arena.1 then (false, arena.2)
  else
    let appMiB := mfbReadBootUint env.milcorixvram 0 4096
    if appMiB ≠ 0 ∧ appMiB < 1024 then (false, arena.2)
    else
      let (shown, s) := nvGspBringup env arena.2.setRunning
      if env.bringup.result ≠ 0 then (false, s)
      else
        let s := if s.owner.ok then runGpuSelfTest s else s
        (true, publishScanout env (if env.bringup.live then shown else none) s)

/-- The arena stays once the bring-up was tried: the firmware may write to it. -/
def freeBuffers (s : Driver) : Driver :=
  let s := freeScanoutFb s
  if s.fGspRunning then s else freeDmaArena s

def unmapBars (s : Driver) : Driver := { s with fFbMem := none, fBar1 := false, fBar0 := false }

def teardown (s : Driver) : Driver :=
  unmapBars (freeBuffers { s with owner := { s.owner with ok := false } })

/-- What every failure after the apertures does. -/
def giveUp (s : Driver) (text : String) : Bool × Driver :=
  (false, { teardown (s.note text) with journal := false })

def startedText (s : Driver) : String :=
  "ok:fb " ++ toString s.fWidth.toNat ++ "x" ++ toString s.fHeight.toNat ++ " pitch=" ++
    toString s.fPitch.toNat ++ " phys=0x" ++ String.ofList (Nat.toDigits 16 s.fApertureCpuPhys.toNat)

/-- The fields and the two boot arguments. -/
def configure (env : Boot) (card : Mmio) : Driver :=
  { reset card with
    fStage := mfbReadBootUint env.milcorix milcorixStageOff milcorixStageFull
    fFbMode := mfbReadBootUint env.milcorixfb milcorixFbmodeAuto milcorixFbmodeSysmem }

def openJournal (s : Driver) : Driver := { s with journal := true, status := s.status ++ ["start"] }

def setLock (s : Driver) : Driver := { s with owner := { s.owner with fGpuLock := true } }

/-- `start` once the lock exists. -/
def becomeFramebuffer (env : Boot) (s : Driver) : Bool × Driver :=
  let up := gspBringUp env s
  if !up.1 then giveUp up.2 "fail:bringup"
  else if up.2.fStage < milcorixStageFull then giveUp up.2 "ok:bringup-only"
  else if !up.2.fModeset ∨ up.2.fApertureCpuPhys = 0 ∨ up.2.fApertureLen = 0 then
    giveUp up.2 "fail:no-aperture"
  else if !env.superStart then giveUp up.2 "fail:iofb-start"
  else (true, up.2.note (startedText up.2))

/-- `start`: whether the driver became the framebuffer. -/
def start (env : Boot) (card : Mmio) : Bool × Driver :=
  let s := configure env card
  if s.fStage = milcorixStageOff then (false, s)
  else if !env.pci then (false, openJournal s)
  else
    let bars := mapBars env (openJournal s)
    if !bars.1 then giveUp bars.2 "fail:bar0"
    else if !env.lock then giveUp bars.2 "fail:gpu-lock"
    else becomeFramebuffer env (setLock bars.2)

/-! What `start` comes to. -/

section Outcome

variable (env : Boot) (card : Mmio)

def mapped : Bool × Driver := mapBars env (openJournal (configure env card))

def broughtUp : Bool × Driver := gspBringUp env (setLock (mapped env card).2)

/-- The driver as `start` calls `nv_gsp_bringup`, if it comes that far. -/
def atBringup : Driver := (allocDmaArena env (setLock (mapped env card).2)).2.setRunning

inductive Outcome : Bool × Driver → Prop where
  | untouched : Outcome (false, configure env card)
  | stranger : Outcome (false, openJournal (configure env card))
  | noBars (text : String) : Outcome (giveUp (mapped env card).2 text)
  | noFramebuffer (text : String) (bar0 : (mapped env card).1 = true) :
      Outcome (giveUp (broughtUp env card).2 text)
  | framebuffer (bar0 : (mapped env card).1 = true) (up : (broughtUp env card).1 = true)
      (full : ¬ (broughtUp env card).2.fStage < milcorixStageFull)
      (modeset : (broughtUp env card).2.fModeset = true)
      (aperture : (broughtUp env card).2.fApertureCpuPhys ≠ 0)
      (nonempty : (broughtUp env card).2.fApertureLen ≠ 0) :
      Outcome (true, (broughtUp env card).2.note (startedText (broughtUp env card).2))

theorem start_outcome : Outcome env card (start env card) := by
  have passed : ∀ {check : Bool}, ¬ (!check) = true → check = true := by
    intro check
    cases check <;> simp
  unfold start
  simp only
  split
  · exact .untouched
  split
  · exact .stranger
  split
  · exact .noBars _
  rename_i found
  have bar0 : (mapped env card).1 = true := passed found
  split
  · exact .noBars _
  unfold becomeFramebuffer
  simp only
  split
  · exact .noFramebuffer _ bar0
  rename_i succeeded
  split
  · exact .noFramebuffer _ bar0
  rename_i full
  split
  · exact .noFramebuffer _ bar0
  rename_i valid
  obtain ⟨modeset, aperture, nonempty⟩ := not_or.mp valid |>.imp_right not_or.mp
  split
  · exact .noFramebuffer _ bar0
  · exact .framebuffer bar0 (passed succeeded) full (passed modeset) aperture nonempty

end Outcome

end GspDriver.DriverStart
