import GspDriver.Base.Conversation
import GspDriver.TypedControls
import GspDriver.MemoryList
import GspDriver.GspMemory
import GspDriver.DisplayModeset

/-!
The constructors and controls of gsp_rm.c, gsp_fifo.c, gsp_disp.c and gsp_gr.c,
as calls whose answers come from outside: from GSP-RM over the RPC channel, from
video memory, from the GPU or from the platform. Each wrapper is its own values
put into one of three shapes. A wrapper given a null channel is left out: the
bring-up never does that.
-/

namespace GspDriver.RmSession

open Bytes LittleEndian GspRpc GspRm RmCalls TypedControls MemoryList GspMemory Conversation

/-- What `nv_gsp_rm_alloc` and `nv_gsp_rm_control` give back. -/
structure RmAnswer where
  rc : Except RmError Unit
  status : Option UInt32
  params : Payload

structure MemlistAnswer where
  rc : Except RmError Unit
  rpcResult : Option UInt32

/-- Five page tables and the range they are built for. -/
structure Tables where
  pd3 : UInt64
  pd2 : UInt64
  pd1 : UInt64
  pd0 : UInt64
  spt : UInt64
  va : UInt64
  phys : UInt64
  bytes : UInt64

/-- How a copy of the GPU went, where it left the ring, and whether the context is
still good: after a copy that timed out it is not. -/
structure Tested where
  passed : Bool
  ok : Bool
  gpPut : UInt32
  seq : UInt32
  objectBound : Bool

/-- After the modeset: the core channel took the head's methods, the head scans,
the output resource is active. -/
structure Driven where
  cdone : Bool
  hwScanning : Bool
  hwOrActive : Bool

inductive Call where
  | staticInfo
  | alloc (hClient hParent hObject hClass : UInt32) (params : Payload) (paramsLen : UInt32)
  | control (hClient hObject cmd : UInt32) (params : Payload) (paramsLen : UInt32)
  | memlist (hClient hDevice : UInt32) (phys size : UInt64)
  | fill (phys : UInt64) (len val : UInt32)
  | buildTables (t : Tables)
  | readPte (spt va : UInt64)
  | firstCommand (ringPhys userdPhys : UInt64) (token : UInt32)
  | selfTest (scratchVa scratchPhys : UInt64)
  | poolTest (scratchVa scratchPhys scratchSize : UInt64)
  | allocFb (w h pitch : UInt32)
  | modeset (m : DisplayModeset.Modeset)

abbrev Answer : Call → Type
  | .staticInfo => RpcReturn
  | .alloc .. => RmAnswer
  | .control .. => RmAnswer
  | .memlist .. => MemlistAnswer
  | .fill .. => Unit
  | .buildTables _ => Int
  | .readPte .. => UInt64
  | .firstCommand .. => Bool
  | .selfTest .. => Tested
  | .poolTest .. => Tested
  | .allocFb .. => Int × UInt64 × UInt32
  | .modeset _ => Driven

abbrev Session := Dialogue Call Answer

def rmAlloc (hClient hParent hObject hClass : UInt32) (params : Payload) (paramsLen : UInt32) :
    Session RmAnswer :=
  ask (Call.alloc hClient hParent hObject hClass params paramsLen)

def rmControl (hClient hObject cmd : UInt32) (params : Payload) (paramsLen : UInt32) :
    Session RmAnswer :=
  ask (Call.control hClient hObject cmd params paramsLen)

def zeros : Mem := fun _ => 0

/-! `nv_gsp_get_static_info` -/

structure NvGspStaticInfoFull extends NvGspStaticInfo where
  bar1Pde : UInt64
  bar2Pde : UInt64
  hClient : UInt32
  hDevice : UInt32
  hSubdevice : UInt32

def NvGspStaticInfoFull.zero : NvGspStaticInfoFull := ⟨⟨0, fun _ => ⟨0, 0, 0, 0⟩⟩, 0, 0, 0, 0, 0⟩

def nvGspSciSize : UInt32 := 2168
def nvGspSciFbregionOff : Nat := 840

def sciRegion (rep : Mem) (i : Nat) : NvGspFbRegion :=
  let rg := nvGspSciFbregionOff + 8 + i * 48
  ⟨ld64 rep rg, ld64 rep (rg + 8), ld64 rep (rg + 16), rep (rg + 30)⟩

/-- `out` is cleared before the region count is checked, and left alone on the
errors before that. -/
def nvGspGetStaticInfo (out : NvGspStaticInfoFull) :
    RpcReturn → Except RmError Unit × NvGspStaticInfoFull
  | .errTimeout => (.error .timeout, out)
  | .errBounds => (.error .bounds, out)
  | .ok reply rlen rres =>
      if rres ≠ 0 then (.error .bounds, out)
      else if rlen < nvGspSciSize then (.error .bounds, out)
      else
        let rep := bytesAt reply
        let n := ld32 rep nvGspSciFbregionOff
        if n = 0 ∨ n > nvGspFbregionMax then (.error .bounds, .zero)
        else (.ok (), {
          numRegions := n
          regions := fun i => if i < n.toNat then sciRegion rep i else ⟨0, 0, 0, 0⟩
          bar1Pde := ld64 rep 2088
          bar2Pde := ld64 rep 2096
          hClient := ld32 rep 2152
          hDevice := ld32 rep 2156
          hSubdevice := ld32 rep 2160 })

/-! Constructors: an alloc with a handle of the driver's choice. -/

/-- `rc`, `*out` and `*status`, which the caller had set to 0 and ~0. -/
structure Made where
  rc : Except RmError Unit
  handle : UInt32
  status : UInt32

def Made.ok (m : Made) : Bool := m.rc.isOk && m.status == 0

/-- A constructor that was not called. -/
def Made.skipped : Made := ⟨.error .arg, 0, 0xffffffff⟩

def construct (hClient hParent h hClass : UInt32) (params : Payload) (paramsLen : UInt32) :
    Session Made := do
  let a ← rmAlloc hClient hParent h hClass params paramsLen
  pure { rc := a.rc
         handle := if a.rc.isOk then h else 0
         status := a.status.getD 0xffffffff }

def nv01Root : UInt32 := 0
def nv01Device0 : UInt32 := 0x80
def nv20Subdevice0 : UInt32 := 0x2080
def fermiVaspaceA : UInt32 := 0x90f1
def ampereChannelGpfifoA : UInt32 := 0xc56f
def ampereDmaCopyB : UInt32 := 0xc7b5
def nv04DisplayCommon : UInt32 := 0x73
def ad102Disp : UInt32 := 0xc770
def ad102DispCoreChannelDma : UInt32 := 0xc77d
def ga102DispWindowChannelDma : UInt32 := 0xc67e

def nvGspRmClientHandle : UInt32 := 0xc1d00000
def nvGspRmDeviceHandle : UInt32 := 0xde1d0000
def nvGspRmSubdevHandle : UInt32 := 0x5d1d0000
def nvGspRmVaspaceHandle : UInt32 := 0x90f10000
def nvGspRmChannelHandle : UInt32 := 0xf1f00000
def nvGspRmCeObjHandle : UInt32 := 0xce00
def nvGspRmDispcommonHandle : UInt32 := 0x00730000

def nvGspRmClientCtor : Session Made :=
  let h := nvGspRmClientHandle ||| 0
  construct h h h nv01Root (some (st32 (st32 zeros 0 h) 4 0xffffffff)) 108

def nvGspRmDeviceCtor (hClient : UInt32) : Session Made :=
  construct hClient hClient nvGspRmDeviceHandle nv01Device0 (some (st32 zeros 4 hClient)) 56

def nvGspRmSubdeviceCtor (hClient hDevice : UInt32) : Session Made :=
  construct hClient hDevice nvGspRmSubdevHandle nv20Subdevice0 (some zeros) 4

def nvVaspaceFlagsExternallyOwned : UInt32 := (1 : UInt32) <<< 3

def vaspaceCtor (hClient hDevice flags : UInt32) : Session Made :=
  construct hClient hDevice nvGspRmVaspaceHandle fermiVaspaceA
    (some (st32 (st32 zeros 0 0) 4 flags)) 48

def nvGspRmVaspaceCtor (hClient hDevice : UInt32) : Session Made := vaspaceCtor hClient hDevice 0

def nvGspRmVaspaceExternalCtor (hClient hDevice : UInt32) : Session Made :=
  vaspaceCtor hClient hDevice nvVaspaceFlagsExternallyOwned

/-- `nv_gsp_chan_cfg` -/
structure NvGspChanCfg where
  hClient : UInt32
  hDevice : UInt32
  hVASpace : UInt32
  chid : UInt32
  engineType : UInt32
  gpfifoVa : UInt64
  gpfifoEntries : UInt32
  instPhys : UInt64
  instSize : UInt64
  userdPhys : UInt64
  userdSize : UInt64
  ramfcSize : UInt64
  mthdbufPhys : UInt64
  mthdbufSize : UInt64
  mthdbufSysmem : Bool
  priv : Bool

def nvMemdescAddrspaceSysmem : UInt32 := 1
def nvMemdescAddrspaceVidmem : UInt32 := 2

def wrMemdesc (p : Mem) (off : Nat) (base size : UInt64) (addrspace cacheattrib : UInt32) : Mem :=
  st32 (st32 (st64 (st64 p (off + 0) base) (off + 8) size) (off + 16) addrspace) (off + 20)
    cacheattrib

def channelFlags (chid : UInt32) (priv : Bool) : UInt32 :=
  let flags := ((1 : UInt32) <<< 21) ||| ((chid % 8) <<< 8) ||| ((chid / 8) <<< 12)
  if priv then flags ||| ((1 : UInt32) <<< 5) else flags

/-- `NV_CHANNEL_ALLOC_PARAMS` -/
def channelParams (cfg : NvGspChanCfg) : Mem :=
  let p := st64 zeros 8 cfg.gpfifoVa
  let p := st32 p 16 cfg.gpfifoEntries
  let p := st32 p 20 (channelFlags cfg.chid cfg.priv)
  let p := st32 p 28 cfg.hVASpace
  let p := st32 p 128 cfg.engineType
  let p := wrMemdesc p 144 cfg.instPhys cfg.instSize nvMemdescAddrspaceVidmem 1
  let p := wrMemdesc p 168 cfg.userdPhys cfg.userdSize nvMemdescAddrspaceVidmem 1
  let p := wrMemdesc p 192 cfg.instPhys (if cfg.ramfcSize ≠ 0 then cfg.ramfcSize else 0x200)
    nvMemdescAddrspaceVidmem 1
  wrMemdesc p 216 cfg.mthdbufPhys cfg.mthdbufSize
    (if cfg.mthdbufSysmem then nvMemdescAddrspaceSysmem else nvMemdescAddrspaceVidmem)
    (if cfg.mthdbufSysmem then 0 else 1)

def nvGspRmChannelAlloc (cfg : NvGspChanCfg) : Session Made :=
  construct cfg.hClient cfg.hDevice (nvGspRmChannelHandle ||| cfg.chid) ampereChannelGpfifoA
    (some (channelParams cfg)) 360

/-- The caller chose the handle and keeps it. -/
def nvGspRmCeObjAlloc (hClient hChannel hObject engineClass engineType : UInt32) :
    Session Made :=
  construct hClient hChannel hObject engineClass (some (st32 (st32 zeros 0 1) 4 engineType)) 8

def nvGspDispCommonAlloc (hClient hDevice : UInt32) : Session Made :=
  construct hClient hDevice nvGspRmDispcommonHandle nv04DisplayCommon none 0

def nvGspDispRootAlloc (hClient hDevice dispClass : UInt32) : Session Made :=
  construct hClient hDevice (dispClass <<< 16) dispClass none 0

def nvGspDispCoreChannelAlloc (hClient hDispRoot coreClass channelInstance : UInt32) :
    Session Made :=
  construct hClient hDispRoot ((coreClass <<< 16) ||| channelInstance) coreClass
    (some (st32 (st32 zeros 0 channelInstance) 12 0)) 32

/-! Controls, and the value a wrapper reads out of the params that come back. -/

/-- `rc`, `*status` and the value behind the output pointer. -/
structure Queried (Value : Type) where
  rc : Except RmError Unit
  status : UInt32
  value : Value

variable {Value : Type}

def Queried.ok (q : Queried Value) : Bool := q.rc.isOk && q.status == 0

/-- `initial` is what the caller had put behind the output pointer. -/
def query (hClient hObject cmd : UInt32) (params : Mem) (paramsLen : UInt32) (initial : Value)
    (read : Mem → Value) : Session (Queried Value) := do
  let a ← rmControl hClient hObject cmd (some params) paramsLen
  pure { rc := a.rc
         status := a.status.getD 0xffffffff
         value := if a.rc.isOk then read (a.params.getD params) else initial }

/-- A control of which only `rc` and the status are looked at. -/
def command (hClient hObject cmd : UInt32) (params : Mem) (paramsLen : UInt32) :
    Session (Queried Unit) :=
  query hClient hObject cmd params paramsLen () fun _ => ()

/-- What a wrapper with a parser of its own makes of the answer. -/
def typedAnswer (t : TypedControl Value) (initial : Value) (a : RmAnswer) : Queried Value :=
  let st := a.status.getD 0xffffffff
  match a.rc with
  | .error error => ⟨.error error, st, initial⟩
  | .ok () =>
      if t.checksStatus ∧ st ≠ 0 then ⟨.error .bounds, st, initial⟩
      else ⟨.ok (), st, t.value (a.params.getD t.params)⟩

def typed (hClient hObject : UInt32) (t : TypedControl Value) (initial : Value) :
    Session (Queried Value) := do
  let a ← rmControl hClient hObject t.cmd (some t.params) t.size
  pure (typedAnswer t initial a)

def nv0080SetPageDirectory : UInt32 := 0x00801813
def nv90f1CopyPdes : UInt32 := 0x90f10106
def nva06fGpfifoSchedule : UInt32 := 0xa06f0103
def nva06fBind : UInt32 := 0xa06f0104
def nv906fGetClassEngineid : UInt32 := 0x906f0101
def nv2080DisplayWriteInstMem : UInt32 := 0x20800a49
def nv2080DisplayChannelPushbuffer : UInt32 := 0x20800a58
def nv2080GetContextBuffersInfo : UInt32 := 0x20800a32
def nv2080IntrGetKernelTable : UInt32 := 0x20800a5c
def nv0073GetNumHeads : UInt32 := 0x730102
def nv0073GetSupported : UInt32 := 0x730120
def nv0073GetConnectState : UInt32 := 0x730122
def nv0073GetActive : UInt32 := 0x730126
def nv0073SetHdmiEnable : UInt32 := 0x730273
def nv0073GetAllHeadMask : UInt32 := 0x730287
def nv0073OrGetInfo : UInt32 := 0x73028b

def setPageDirectoryParams (hVASpace : UInt32) (rootPhys : UInt64) : Mem :=
  st32 (st32 (st64 zeros 0 rootPhys) 8 4) 16 hVASpace

def nvGspRmSetPageDirectory (hClient hDevice hVASpace : UInt32) (rootPhys : UInt64) :
    Session (Queried Unit) :=
  if rootPhys &&& 0xfff ≠ 0 ∨ rootPhys ≥ (1 : UInt64) <<< 40 then
    pure ⟨.error .arg, 0xffffffff, ()⟩
  else command hClient hDevice nv0080SetPageDirectory (setPageDirectoryParams hVASpace rootPhys) 32

def nv90f1CopyPdesPagesizeDefault : UInt64 := 0x20000000

def pdesLevel (p : Mem) (i : Nat) (phys size : UInt64) (pageShift : UInt8) : Mem :=
  let lv := 40 + i * 24
  put (st32 (st64 (st64 p lv phys) (lv + 8) size) (lv + 16) 1) (lv + 20) pageShift

/-- Three levels, as the bring-up asks for. -/
def copyPdesParams (hSubDevice subDeviceId : UInt32) (virtAddrLo virtAddrHi pd3 pd2 pd1 : UInt64) :
    Mem :=
  let p := st32 (st32 zeros 0 hSubDevice) 4 subDeviceId
  let p := st64 (st64 (st64 p 8 nv90f1CopyPdesPagesizeDefault) 16 virtAddrLo) 24 virtAddrHi
  let p := st32 p 32 3
  pdesLevel (pdesLevel (pdesLevel p 0 pd3 0x20 0x2f) 1 pd2 0x1000 0x26) 2 pd1 0x1000 0x1d

def nvGspRmVaspaceCopyPdes (hClient hVASpace hSubDevice subDeviceId : UInt32)
    (virtAddrLo virtAddrHi pd3 pd2 pd1 : UInt64) : Session (Queried Unit) :=
  command hClient hVASpace nv90f1CopyPdes
    (copyPdesParams hSubDevice subDeviceId virtAddrLo virtAddrHi pd3 pd2 pd1) 184

def nvGspRmChannelBind (hClient hChannel engineType : UInt32) : Session (Queried Unit) :=
  command hClient hChannel nva06fBind (st32 zeros 0 engineType) 4

def nvGspRmChannelSchedule (hClient hChannel : UInt32) (enable : Bool) : Session (Queried Unit) :=
  command hClient hChannel nva06fGpfifoSchedule (put zeros 0 (if enable then 1 else 0)) 2

/-- The id is read from `p` whatever the control returned; on an error `p` is as it was sent. -/
def nvGspFifoGetClassEngineid (hClient hChannel hObject : UInt32) : Session (Queried UInt32) :=
  query hClient hChannel nv906fGetClassEngineid (st32 zeros 0 hObject) 16
    (ld32 (st32 zeros 0 hObject) 4) fun p => ld32 p 4

def nvGspFifoFindEngine (di : NvGspFifoDevinfo) (rmEngineType : UInt32) : Option NvGspFifoEngn :=
  di.engines.find? fun engine => engine.rmEngineType == rmEngineType

def nvGspGrGetCtxbufInfo (hIntClient hIntSubdevice : UInt32) : Session (Queried Unit) :=
  command hIntClient hIntSubdevice nv2080GetContextBuffersInfo zeros 1600

def nvGspIntrGetTable (hIntClient hIntSubdevice : UInt32) : Session (Queried Unit) :=
  command hIntClient hIntSubdevice nv2080IntrGetKernelTable zeros 2068

def nvGspDispGetNumHeads (hClient hDispCommon : UInt32) : Session (Queried UInt32) :=
  query hClient hDispCommon nv0073GetNumHeads (st32 (st32 zeros 0 0) 4 0) 12 0 fun p => ld32 p 8

/-- The mask of displays; the mask of those with a DDC line is only logged. -/
def nvGspDispGetSupported (hClient hDispCommon : UInt32) : Session (Queried UInt32) :=
  query hClient hDispCommon nv0073GetSupported (st32 zeros 0 0) 12 0 fun p => ld32 p 4

def nvGspDispGetHeadMask (hClient hDispCommon : UInt32) : Session (Queried UInt32) :=
  query hClient hDispCommon nv0073GetAllHeadMask zeros 8 0 fun p => ld32 p 4

def nvGspDispGetConnectState (hClient hDispCommon displayMask : UInt32) :
    Session (Queried UInt32) :=
  query hClient hDispCommon nv0073GetConnectState (st32 (st32 zeros 4 0) 8 displayMask) 16 0
    fun p => ld32 p 8

/-- The protocol; type, index and location are only logged. -/
def nvGspDispOrGetInfo (hClient hDispCommon displayId : UInt32) : Session (Queried UInt32) :=
  query hClient hDispCommon nv0073OrGetInfo (st32 zeros 4 displayId) 56 0 fun p => ld32 p 16

def nvGspDispSetHdmiEnable (hClient hDispCommon displayId : UInt32) (enable : Bool) :
    Session (Queried Unit) :=
  command hClient hDispCommon nv0073SetHdmiEnable
    (put (st32 zeros 4 displayId) 8 (if enable then 1 else 0)) 12

def nvGspDispGetActive (hClient hDispCommon head : UInt32) : Session (Queried UInt32) :=
  query hClient hDispCommon nv0073GetActive (st32 zeros 4 head) 16 0xdead fun p => ld32 p 12

def nvRmAddrFbmem : UInt32 := 2
def nvMemoryWritecombined : UInt32 := 2

def writeInstMemParams (instPhys instSize : UInt64) : Mem :=
  st32 (st32 (st64 (st64 zeros 0 instPhys) 8 instSize) 16 nvRmAddrFbmem) 20 nvMemoryWritecombined

def nvGspDispWriteInstMem (hIntClient hIntSubdevice : UInt32) (instPhys instSize : UInt64) :
    Session (Queried Unit) :=
  command hIntClient hIntSubdevice nv2080DisplayWriteInstMem (writeInstMemParams instPhys instSize) 24

def pushbufferParams (hclass channelInstance : UInt32) (pbPhys pbLimit : UInt64) : Mem :=
  let p := st64 (st64 (st32 zeros 0 nvRmAddrFbmem) 8 pbPhys) 16 pbLimit
  put (st32 (st32 (st32 p 24 0) 28 hclass) 32 channelInstance) 36 1

def nvGspDispChannelPushbuffer (hIntClient hIntSubdevice hclass channelInstance : UInt32)
    (pbPhys pbLimit : UInt64) : Session (Queried Unit) :=
  command hIntClient hIntSubdevice nv2080DisplayChannelPushbuffer
    (pushbufferParams hclass channelInstance pbPhys pbLimit) 40

end GspDriver.RmSession
