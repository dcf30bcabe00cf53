import GspDriver.RmSession
import GspDriver.GpuCopy
import GspDriver.BringupVram

/-!
Layers 3 to 5 of `nv_gsp_bringup`, from the first RPC to the modeset, as one
conversation. The parts follow the nesting of the source. Logging is left out,
and reads that only feed the log.
-/

namespace GspDriver.BringupSession

open Bytes LittleEndian Vram GspRpc GspRm RmCalls TypedControls GspMemory Conversation RmSession

/-- `nv_gsp_options` -/
structure NvGspOptions where
  appVramBytes : UInt64
  consoleVramBase : UInt64
  consoleVramSize : UInt64

/-- `nv_gsp_fb_provider_t`: whether it has an `alloc`, and `skip_modeset`. -/
structure NvGspFbProvider where
  alloc : Bool
  skipModeset : Bool

/-- The arguments, whether a context is wanted, and what the stack held where `si` lies. -/
structure Given where
  options : Option NvGspOptions
  fbp : Option NvGspFbProvider
  gpu : Bool
  stale : NvGspStaticInfoFull

/-- The options of an external address space. -/
def Given.external (given : Given) : Option NvGspOptions :=
  given.options.filter fun options => options.appVramBytes ≠ 0

/-! Layer 3: the static info and the chain client, device, subdevice. -/

structure Chain where
  si : NvGspStaticInfoFull
  hcli : UInt32
  hdev : UInt32
  hsub : UInt32
  ok : Bool

/-- The tables of layer 6 are only asked for. -/
def recon (si : NvGspStaticInfoFull) : Session Unit := do
  let _ ← nvGspGrGetCtxbufInfo si.hClient si.hSubdevice
  let _ ← nvGspIntrGetTable si.hClient si.hSubdevice

/-- A step that is left out unless `c` holds. -/
def onlyIf (c : Bool) (left : α) (d : Session α) : Session α := if c then d else pure left

def staticInfo (given : Given) : Session NvGspStaticInfoFull := do
  let returned ← ask Call.staticInfo
  let info := nvGspGetStaticInfo given.stale returned
  onlyIf info.1.isOk () (recon info.2)
  pure info.2

def chain (si : NvGspStaticInfoFull) : Session Chain := do
  let client ← nvGspRmClientCtor
  let device ← onlyIf client.ok .skipped (nvGspRmDeviceCtor client.handle)
  let subdevice ← onlyIf device.ok .skipped (nvGspRmSubdeviceCtor client.handle device.handle)
  pure { si
         hcli := client.handle
         hdev := device.handle
         hsub := subdevice.handle
         ok := client.ok && device.ok && subdevice.ok }

/-! Layer 4, before the channel: the engine, the address space, the memory object. -/

def rmEngineTypeCopy0 : UInt32 := 0x09

def noDevices : NvGspFifoDevinfo := ⟨0, []⟩

/-- Type and runlist of the copy engine. -/
def copyEngine (c : Chain) : Session (Option NvGspFifoEngn) := do
  let di ← typed c.hcli c.hsub devinfo noDevices
  pure (if di.ok then nvGspFifoFindEngine di.value rmEngineTypeCopy0 else none)

def fbIndices (i : Nat) : UInt32 := [0x07, 0x08, 0x09, 0x16, 0x05].getD i 0

/-- `FB_GET_INFO_V2` is only asked for the log. -/
def fbGetInfo (c : Chain) : Session Unit := do
  let _ ← typed c.hcli c.hsub (fbInfo fbIndices 5 (by decide)) []

structure Memory where
  vphys : UInt64
  vsize : UInt64
  layout : NvGspMemoryLayout

/-- The plan of an external address space, or the first region with room. -/
def chooseMemory (given : Given) (si : NvGspStaticInfoFull) : Option Memory :=
  match given.external with
  | some options =>
      match nvGspMemoryPlan si.toNvGspStaticInfo options.appVramBytes
          (some ⟨options.consoleVramBase, options.consoleVramSize⟩) with
      | some (0, m) => some ⟨m.servicePhys, m.tables.bytes, m⟩
      | _ => none
  | none => (BringupVram.chooseVram si.toNvGspStaticInfo).map fun vphys =>
      ⟨vphys, BringupVram.vsize, .zero⟩

/-- `nv_gsp_rm_vram_memlist`; the service area alone is registered for an external space. -/
def memlist (given : Given) (c : Chain) (mem : Memory) : Session Bool := do
  let size := if given.external.isSome then nvGspServiceBytes else mem.vsize
  let a ← ask (Call.memlist c.hcli c.hdev mem.vphys size)
  pure (a.rc.isOk && a.rpcResult.getD 0xffffffff == 0)

def ptBase (mem : Memory) : UInt64 := (mem.vphys + mem.vsize + 0xfff) &&& ~~~0xfff

def tablesFor (given : Given) (mem : Memory) : Tables :=
  let va := RmSession.nv90f1CopyPdesPagesizeDefault
  if given.external.isSome then
    ⟨mem.layout.tables.levelPhys 0, mem.layout.tables.levelPhys 1, mem.layout.tables.levelPhys 2,
      mem.layout.tables.levelPhys 3, mem.layout.tables.levelPhys 4, va, mem.vphys, mem.vsize⟩
  else
    ⟨ptBase mem + 0 * 0x1000, ptBase mem + 1 * 0x1000, ptBase mem + 2 * 0x1000,
      ptBase mem + 3 * 0x1000, ptBase mem + 4 * 0x1000, va, mem.vphys, mem.vsize⟩

def handRoots (given : Given) (c : Chain) (hva : UInt32) (t : Tables) : Session (Queried Unit) :=
  if given.external.isSome then nvGspRmSetPageDirectory c.hcli c.hdev hva t.pd3
  else
    nvGspRmVaspaceCopyPdes c.hcli hva 0 0 t.va
      (t.va + RmSession.nv90f1CopyPdesPagesizeDefault - 1) t.pd3 t.pd2 t.pd1

/-- The roots are handed to GSP once the tables stand, and the first entry is read back. -/
def mapMemory (given : Given) (c : Chain) (hva : UInt32) (t : Tables) : Session Bool := do
  let grc ← ask (Call.buildTables t)
  if grc = 0 then
    let handed ← handRoots given c hva t
    let pte ← ask (Call.readPte t.spt t.va)
    pure (handed.ok && pte == Gmmu.nvGmmuMakePteVram t.phys false false)
  else pure false

/-! Layer 4: the channel, its engine object, the first command, the hand-over. -/

def bufBase (given : Given) (mem : Memory) : UInt64 :=
  if given.external.isSome then mem.layout.channelPhys else ptBase mem + 0x10000

def chanCfg (given : Given) (c : Chain) (hva : UInt32) (mem : Memory) (engine : NvGspFifoEngn) :
    NvGspChanCfg where
  hClient := c.hcli
  hDevice := c.hdev
  hVASpace := hva
  chid := 0
  engineType := engine.rmEngineType
  gpfifoVa := RmSession.nv90f1CopyPdesPagesizeDefault
  gpfifoEntries := GpuCopy.gpfifoEntries
  instPhys := bufBase given mem + 0x0000
  instSize := 0x1000
  userdPhys := bufBase given mem + 0x1000
  userdSize := 0x200
  ramfcSize := 0x200
  mthdbufPhys := bufBase given mem + 0x2000
  mthdbufSize := 0x5000
  mthdbufSysmem := false
  priv := true

/-- The buffers of the channel and its ring, all zero. -/
def clearBuffers (cfg : NvGspChanCfg) (vphys : UInt64) : Session Unit := do
  ask (Call.fill cfg.instPhys cfg.instSize.toUInt32 0)
  ask (Call.fill cfg.userdPhys cfg.userdSize.toUInt32 0)
  ask (Call.fill cfg.mthdbufPhys cfg.mthdbufSize.toUInt32 0)
  ask (Call.fill vphys (cfg.gpfifoEntries * 8) 0)

structure CopyObject where
  ok : Bool
  hce : UInt32
  classEngineId : UInt32

/-- The copy engine's object on the channel, and its class id. -/
def copyObject (c : Chain) (hchan engineType : UInt32) : Session CopyObject := do
  let hce := nvGspRmCeObjHandle ||| 0
  let made ← nvGspRmCeObjAlloc c.hcli hchan hce ampereDmaCopyB engineType
  if made.ok then
    let ceid ← nvGspFifoGetClassEngineid c.hcli hchan hce
    pure ⟨true, hce, if ceid.ok then ceid.value else 0⟩
  else pure ⟨false, 0, 0⟩

/-- `nv_gsp_gpu_ctx_t`, with what the platform is told beside the wiring. -/
structure Context extends GpuCopy.NvGspGpuCtx where
  hClient : UInt32
  hDevice : UInt32
  hVaspace : UInt32
  hChannel : UInt32
  hCe : UInt32
  engineType : UInt32
  scratchVa : UInt64
  scratchPhys : UInt64
  scratchSize : UInt64
  externalVmm : Bool
  selftestOk : Bool
  poolSelftestOk : Bool

def Context.copied (gpu : Context) (tested : Tested) : Context :=
  { gpu with
    gpPut := tested.gpPut, seq := tested.seq, objectBound := tested.objectBound
    ok := gpu.ok && tested.ok }

/-- `nv_gsp_gpu_pool_test` -/
def poolTest (gpu : Context) : Session Context := do
  let tested ← ask (Call.poolTest gpu.scratchVa gpu.scratchPhys gpu.scratchSize)
  let gpu := gpu.copied tested
  pure { gpu with poolSelftestOk := tested.passed, ok := gpu.ok && tested.passed }

/-- A copy of 64 KiB inside the scratch area, and for a pool the two probes of it. -/
def selfTest (gpu : Context) : Session Context := do
  if gpu.ok && gpu.scratchSize ≥ 0x20000 then
    let tested ← ask (Call.selfTest gpu.scratchVa gpu.scratchPhys)
    let gpu := { gpu.copied tested with selftestOk := tested.passed }
    let gpu ← onlyIf (gpu.externalVmm && gpu.selftestOk) gpu (poolTest gpu)
    pure { gpu with ok := gpu.ok && (!gpu.externalVmm || gpu.poolSelftestOk) }
  else pure gpu

def contextFor (given : Given) (cfg : NvGspChanCfg) (mem : Memory) (hchan : UInt32)
    (engine : NvGspFifoEngn) (object : CopyObject) (execOk : Bool) : Context :=
  { toNvGspGpuCtx := GpuCopy.handOver mem.vphys cfg.userdPhys cfg.chid engine.runlist
      object.classEngineId execOk object.ok
    hClient := cfg.hClient
    hDevice := cfg.hDevice
    hVaspace := cfg.hVASpace
    hChannel := hchan
    hCe := object.hce
    engineType := cfg.engineType
    scratchVa := if given.external.isSome then mem.layout.appVa else cfg.gpfifoVa + 0x3000
    scratchPhys := if given.external.isSome then mem.layout.appPhys else mem.vphys + 0x3000
    scratchSize := if given.external.isSome then mem.layout.appBytes
      else if mem.vsize > 0x3000 then mem.vsize - 0x3000 else 0
    externalVmm := given.external.isSome
    selftestOk := false
    poolSelftestOk := false }

/-- `none` is a context that stays cleared. -/
def channel (given : Given) (c : Chain) (hva : UInt32) (mem : Memory) (engine : NvGspFifoEngn) :
    Session (Option Context) := do
  let cfg := chanCfg given c hva mem engine
  clearBuffers cfg mem.vphys
  let chan ← nvGspRmChannelAlloc cfg
  if chan.ok then
    let _ ← nvGspRmChannelBind c.hcli chan.handle cfg.engineType
    let sched ← nvGspRmChannelSchedule c.hcli chan.handle true
    if sched.ok then
      let object ← copyObject c chan.handle cfg.engineType
      let token := (engine.runlist <<< 16) ||| cfg.chid
      let execOk ← ask (Call.firstCommand mem.vphys cfg.userdPhys token)
      if given.gpu then
        let gpu ← selfTest (contextFor given cfg mem chan.handle engine object execOk)
        pure (some gpu)
      else pure none
    else pure none
  else pure none

/-- What the layer does with its memory, once there is some. -/
def workOn (given : Given) (c : Chain) (engine : Option NvGspFifoEngn) (hva : Made) (mem : Memory) :
    Session (Option Context) := do
  let registered ← memlist given c mem
  if registered && hva.ok then
    let mapped ← mapMemory given c hva.handle (tablesFor given mem)
    match mapped, engine with
    | true, some engine => channel given c hva.handle mem engine
    | _, _ => pure none
  else pure none

def vaspace (given : Given) (c : Chain) : Session Made :=
  if given.external.isSome then nvGspRmVaspaceExternalCtor c.hcli c.hdev
  else nvGspRmVaspaceCtor c.hcli c.hdev

def memoryAndChannel (given : Given) (c : Chain) : Session (Option Context) := do
  let engine ← copyEngine c
  fbGetInfo c
  let hva ← vaspace given c
  match chooseMemory given c.si with
  | some mem => workOn given c engine hva mem
  | none => pure none

/-! Layer 5: the displays. -/

structure Found where
  hdisp : UInt32
  dmask : UInt32
  ok : Bool

def enumerate (c : Chain) : Session Found := do
  let disp ← nvGspDispCommonAlloc c.hcli c.hdev
  if disp.ok then
    let heads ← nvGspDispGetNumHeads c.hcli disp.handle
    let supported ← nvGspDispGetSupported c.hcli disp.handle
    let _ ← nvGspDispGetHeadMask c.hcli disp.handle
    pure ⟨disp.handle, supported.value,
      heads.ok && supported.ok && heads.value > 0 && supported.value != 0⟩
  else pure ⟨disp.handle, 0, false⟩

/-- `md_edid` and the rest of the output chosen for the modeset; `edid` is the
static buffer that every display is read into. -/
structure Chosen where
  edid : Mem
  mdEdid : Mem
  mdEdidOk : Bool
  mdDid : UInt32
  mdProto : UInt32

def isTmds (pr : UInt32) : Bool := pr == 1 || pr == 2 || pr == 5

/-- The first display with a timing, or the first TMDS one if that was on DisplayPort. -/
def Chosen.offer (chosen : Chosen) (did pr : UInt32) (erc : Bool) (esz : UInt32) : Chosen :=
  if erc && esz ≥ 128 && (!chosen.mdEdidOk || (isTmds pr && chosen.mdProto ≥ 8)) then
    { chosen with mdEdid := chosen.edid, mdEdidOk := true, mdDid := did, mdProto := pr }
  else chosen

def readInto (edid : Mem) (read : EdidRead) : Mem :=
  putBytes edid 0 read.bytes.length (bytesAt read.bytes)

def bit (b : Nat) : UInt32 := (1 : UInt32) <<< UInt32.ofNat b

def connector (c : Chain) (hdisp dmask conn : UInt32) (chosen : Chosen) (b : Nat) :
    Session Chosen := do
  let did := dmask &&& bit b
  if did = 0 then pure chosen
  else
    let pr ← nvGspDispOrGetInfo c.hcli hdisp did
    if conn &&& did = 0 then pure chosen
    else
      let read ← typed c.hcli hdisp (TypedControls.edid did 256) ⟨[], 0⟩
      let chosen := { chosen with edid := readInto chosen.edid read.value }
      pure (chosen.offer did pr.value read.ok read.value.outSize)

def connectors (c : Chain) (hdisp dmask conn : UInt32) : Session Chosen :=
  (List.range 32).foldlM (connector c hdisp dmask conn) ⟨zeros, zeros, false, 0, 0⟩

def noSor : UInt32 := ~~~0

/-- `md_sor` after one more connected display. -/
def assignOne (c : Chain) (hdisp conn mdDid : UInt32) (mdSor : UInt32) (b : Nat) :
    Session UInt32 := do
  let did := conn &&& bit b
  if did = 0 then pure mdSor
  else
    let sor ← typed c.hcli hdisp (assignSor did) noSor
    pure (if did = mdDid ∧ sor.ok ∧ sor.value ≠ noSor then sor.value else mdSor)

def assignSors (c : Chain) (hdisp conn mdDid : UInt32) : Session UInt32 :=
  (List.range 32).foldlM (assignOne c hdisp conn mdDid) noSor

/-- Three bands, drawn only when the platform has no buffer of its own. -/
def testPattern : Session Unit := do
  ask (Call.fill BringupVram.fbPhys 2764800 0x00ff0000)
  ask (Call.fill (BringupVram.fbPhys + 2764800) 2764800 0x0000ff00)
  ask (Call.fill (BringupVram.fbPhys + 5529600) 2764800 0x000000ff)

structure Scan where
  geometry : Scanout.NvGspScanout
  edid : Mem
  ok : Bool

def Given.provides (given : Given) : Bool := (given.fbp.map NvGspFbProvider.alloc).getD false

def Given.skips (given : Given) : Bool := (given.fbp.map NvGspFbProvider.skipModeset).getD false

/-- The platform's answer and the buffer it stands for, or the fixed place. -/
structure Surface where
  fbp : Option Scanout.Alloc
  frc : Int
  fb2 : UInt64
  fbTarget : UInt32

def surface (given : Given) (w h pit : UInt32) : Session Surface :=
  if given.provides then do
    let a ← ask (Call.allocFb w h pit)
    pure ⟨some fun _ _ _ => a, a.1, a.2.1, a.2.2⟩
  else pure ⟨none, 0, 0x14000000, GspDisp.ctxdmaTargetVram⟩

def setMode (given : Given) (c : Chain) (hdisp : UInt32) (chosen : Chosen) (mdSor : UInt32)
    (mt : GspDisp.NvEdidTiming) : Session (Option Scan) := do
  let _ ← nvGspDispSetHdmiEnable c.hcli hdisp chosen.mdDid true
  let w := mt.hact
  let h := mt.vact
  let pit := w * 4
  let fb ← surface given w h pit
  if fb.frc = 0 ∧ fb.fb2 ≠ 0 then
    let driven ← ask (Call.modeset
      { mt, mdSor, mdProto := chosen.mdProto, hcli := c.hcli, fbp := fb.fbp, fb2 := fb.fb2
        fbTarget := fb.fbTarget })
    let _ ← nvGspDispGetActive c.hcli hdisp 0
    pure (if driven.cdone then
      some ⟨⟨fb.fb2, w, h, pit, fb.fbTarget⟩, chosen.mdEdid, driven.hwScanning && driven.hwOrActive⟩
      else none)
  else pure none

/-- From the assigned SORs and the window channel to the modeset. -/
def windowAndMode (given : Given) (c : Chain) (hdisp conn hroot : UInt32) (chosen : Chosen) :
    Session (Option Scan) := do
  let mdSor ← assignSors c hdisp conn chosen.mdDid
  ask (Call.fill BringupVram.winPb BringupVram.nvDispPbSize.toUInt32 0)
  let _ ← nvGspDispChannelPushbuffer c.si.hClient c.si.hSubdevice ga102DispWindowChannelDma 0
    BringupVram.winPb (BringupVram.nvDispPbSize - 1)
  let window ← nvGspDispCoreChannelAlloc c.hcli hroot ga102DispWindowChannelDma 0
  onlyIf given.fbp.isNone () testPattern
  if given.skips then pure none
  else if window.ok && chosen.mdEdidOk && mdSor != noSor then
    match GspDisp.nvEdidParseDtd chosen.mdEdid 256 with
    | some mt => setMode given c hdisp chosen mdSor mt
    | none => pure none
  else pure none

/-- The instance memory, the root of the display and its two channels. -/
def displayChannels (given : Given) (c : Chain) (hdisp conn : UInt32) (chosen : Chosen) :
    Session (Option Scan) := do
  ask (Call.fill BringupVram.dispInst BringupVram.nvDispInstSize.toUInt32 0)
  let _ ← nvGspDispWriteInstMem c.si.hClient c.si.hSubdevice BringupVram.dispInst
    BringupVram.nvDispInstSize
  let root ← nvGspDispRootAlloc c.hcli c.hdev ad102Disp
  if root.ok then
    ask (Call.fill BringupVram.corePb BringupVram.nvDispPbSize.toUInt32 0)
    let _ ← nvGspDispChannelPushbuffer c.si.hClient c.si.hSubdevice ad102DispCoreChannelDma 0
      BringupVram.corePb (BringupVram.nvDispPbSize - 1)
    let core ← nvGspDispCoreChannelAlloc c.hcli root.handle ad102DispCoreChannelDma 0
    if core.ok then windowAndMode given c hdisp conn root.handle chosen else pure none
  else pure none

def display (given : Given) (c : Chain) : Session (Option Scan) := do
  let found ← enumerate c
  if found.ok then
    let conn ← nvGspDispGetConnectState c.hcli found.hdisp found.dmask
    let chosen ← connectors c found.hdisp found.dmask conn.value
    displayChannels given c found.hdisp conn.value chosen
  else pure none

/-- What `nv_gsp_bringup` leaves in `*gpu` and `*scan`. -/
structure Outcome where
  gpu : Option Context
  scan : Option Scan

def layers (given : Given) : Session Outcome := do
  let si ← staticInfo given
  let c ← chain si
  if c.ok then
    let gpu ← memoryAndChannel given c
    let scan ← display given c
    pure ⟨gpu, scan⟩
  else pure ⟨none, none⟩

end GspDriver.BringupSession
