import GspDriver.GspFifo
import GspDriver.Pramin

/-!
`nv_gsp_gpu_copy` and the GPU that executes its copies. The host writes one word
through the PRAMIN window at a time, moves GP_PUT, rings the doorbell and polls
the semaphore; between any two of its accesses the GPU takes an entry, moves a
byte or releases the semaphore. `translate` gives the place in video memory of a
GPU address. `submitted`, `completed` and `returns` only record what happened.
-/

namespace GspDriver.GpuCopy

open Bytes LittleEndian Words Pramin GspFifo

def nvUserdGpPutOff : UInt64 := 0x8c
def nvVfnDoorbellAddr : UInt32 := 0x00bb0090

/-- What of the context no copy changes. -/
structure Wiring where
  chid : UInt32
  runlist : UInt32
  ringVa : UInt64
  ringPhys : UInt64
  ringEntries : UInt32
  pbVa : UInt64
  pbPhys : UInt64
  semVa : UInt64
  semPhys : UInt64
  userdPhys : UInt64
  classEngineId : UInt32

structure NvGspGpuCtx extends Wiring where
  ok : Bool
  gpPut : UInt32
  seq : UInt32
  objectBound : Bool

def nv90f1CopyPdesPagesizeDefault : UInt64 := 0x20000000
def gpfifoEntries : UInt32 := 0x100

/-- The context that `nv_gsp_bringup` hands out: the first submission of the
bring-up took slot 0. -/
def handOver (vphys userdPhys : UInt64) (chid runlist classEngineId : UInt32)
    (execOk ceObjOk : Bool) : NvGspGpuCtx :=
  let va := nv90f1CopyPdesPagesizeDefault
  { chid, runlist
    ringVa := va
    ringPhys := vphys
    ringEntries := gpfifoEntries
    pbVa := va + 0x1000
    pbPhys := vphys + 0x1000
    semVa := va + 0x2000
    semPhys := vphys + 0x2000
    userdPhys, classEngineId
    gpPut := 1 % gpfifoEntries
    seq := 0
    objectBound := false
    ok := execOk && ceObjOk && classEngineId != 0 }

structure Request where
  srcVa : UInt64
  dstVa : UInt64
  bytes : UInt32
  timeoutMs : UInt32
  deriving DecidableEq

/-- What a call does next: the writes up to the ring entry and then GP_PUT, the
doorbell, or a poll with so many left. -/
inductive Phase where
  | writing (todo : List (UInt64 × UInt32))
  | ringing
  | waiting (left : Nat)

/-- A call in progress; `own` is the number of its submission. -/
structure Call where
  req : Request
  setObj : UInt32
  payload : UInt32
  own : Nat
  phase : Phase

/-- A call that returned `rc`, when `upto` submissions had been made. -/
structure Return where
  req : Request
  own : Nat
  upto : Nat
  rc : Int
  deriving DecidableEq

/-- An entry as the GPU would read it when GP_PUT moved past it, and how many
copies were complete then. -/
structure Submission where
  launch : Option Launch
  completed : Nat

/-- A copy that the GPU executes, with the bytes moved. -/
structure Work where
  launch : Launch
  moved : List Nat

structure Gpu where
  get : UInt32
  rung : Bool
  work : Option Work

structure System where
  dev : Aperture
  ctx : NvGspGpuCtx
  gpu : Gpu
  call : Option Call
  submitted : List Submission
  completed : List Launch
  returns : List Return

def System.vram (s : System) : Mem := s.dev.io.vram

def System.setVram (s : System) (m : Mem) : System :=
  { s with dev := { s.dev with io := { s.dev.io with vram := m } } }

def gpPutWord (w : Wiring) (m : Mem) : UInt32 := ld32 m (w.userdPhys + nvUserdGpPutOff).toNat

section Gpu

variable (translate : Nat → Option Nat)

def gpuLd32 (m : Mem) (va : Nat) : Option UInt32 := (translate va).map (ld32 m)

/-- The copy that the ring entry `get` leads to. -/
def fetch (w : Wiring) (m : Mem) (get : UInt32) : Option Launch := do
  let entry := w.ringVa.toNat + 8 * get.toNat
  let e0 ← gpuLd32 translate m entry
  let e1 ← gpuLd32 translate m (entry + 4)
  let words ← (List.range (entryDwords e1)).mapM fun i =>
    gpuLd32 translate m (entryVa e0 e1 + 4 * i)
  decode words

end Gpu

/-! The host. -/

def pushbuffer (ctx : NvGspGpuCtx) (req : Request) (setObj payload : UInt32) : List UInt32 :=
  nvGspFifoBuildCeCopy setObj req.srcVa req.dstVa req.bytes ctx.semVa payload

/-- The semaphore, the pushbuffer and the ring entry, in the order of the writes. -/
def submission (ctx : NvGspGpuCtx) (req : Request) (setObj payload : UInt32) :
    List (UInt64 × UInt32) :=
  let pb := pushbuffer ctx req setObj payload
  let slot := ctx.gpPut % ctx.ringEntries
  let entry := nvGspFifoGpfifoEntry ctx.pbVa (UInt32.ofNat pb.length)
  (ctx.semPhys, 0) ::
    (pb.mapIdx fun i word => (ctx.pbPhys + (UInt32.ofNat i * 4).toUInt64, word)) ++
    [(ctx.ringPhys + (slot * 8).toUInt64, entry.1),
      (ctx.ringPhys + (slot * 8).toUInt64 + 4, entry.2)]

def finish (s : System) (req : Request) (own : Nat) (rc : Int) : System :=
  { s with call := none, returns := ⟨req, own, s.submitted.length, rc⟩ :: s.returns }

/-- The call up to its first write. -/
def start (s : System) (req : Request) : System :=
  if s.ctx.ok = false ∨ req.bytes = 0 then finish s req s.submitted.length (-1)
  else if s.ctx.ringEntries = 0 then finish s req s.submitted.length (-1)
  else
    let ctx := { s.ctx with seq := s.ctx.seq + 1 }
    let payload := 0xc0de0000 ||| (ctx.seq &&& 0xffff)
    let setObj := if ctx.objectBound then 0 else ctx.classEngineId
    let nd := (pushbuffer ctx req setObj payload).length
    if nd = 0 then finish { s with ctx } req s.submitted.length (-1)
    else
      { s with
        ctx
        call := some { req, setObj, payload, own := s.submitted.length
                       phase := .writing (submission ctx req setObj payload) } }

/-- GP_PUT moves, in the context and in USERD. -/
def publish (translate : Nat → Option Nat) (s : System) (call : Call) : System :=
  let slot := s.ctx.gpPut % s.ctx.ringEntries
  let ctx := { s.ctx with gpPut := (s.ctx.gpPut + 1) % s.ctx.ringEntries }
  { s with
    ctx
    dev := nvPraminWr32 s.dev (ctx.userdPhys + nvUserdGpPutOff) ctx.gpPut
    submitted := s.submitted ++ [⟨fetch translate ctx.toWiring s.vram slot, s.completed.length⟩]
    call := some { call with phase := .ringing } }

def ticks (req : Request) : UInt32 := (if req.timeoutMs ≠ 0 then req.timeoutMs else 2000) * 50

def ring (s : System) (call : Call) : System :=
  { s with
    dev := { s.dev with
      io := s.dev.io.wr nvVfnDoorbellAddr ((s.ctx.runlist <<< 16) ||| s.ctx.chid) }
    gpu := { s.gpu with rung := true }
    call := some { call with phase := .waiting (ticks call.req).toNat } }

def poll (s : System) (call : Call) (left : Nat) : System :=
  let read := nvPraminRd32 s.dev s.ctx.semPhys
  let s := { s with dev := read.2 }
  if read.1 = call.payload then
    finish { s with ctx := { s.ctx with objectBound := s.ctx.objectBound || call.setObj != 0 } }
      call.req call.own 0
  else { s with call := some { call with phase := .waiting left } }

/-- The semaphore is read once more for the log. -/
def giveUp (s : System) (call : Call) : System :=
  finish { s with dev := (nvPraminRd32 s.dev s.ctx.semPhys).2, ctx := { s.ctx with ok := false } }
    call.req call.own (-1)

def hostTurn (translate : Nat → Option Nat) (s : System) (call : Call) : System :=
  match call.phase with
  | .writing ((phys, val) :: todo) =>
      { s with
        dev := nvPraminWr32 s.dev phys val
        call := some { call with phase := .writing todo } }
  | .writing [] => publish translate s call
  | .ringing => ring s call
  | .waiting (left + 1) => poll s call left
  | .waiting 0 => giveUp s call

/-! The GPU. -/

def take (s : System) (launch : Launch) : System :=
  { s with gpu := { s.gpu with
      get := (s.gpu.get + 1) % s.ctx.ringEntries
      work := some ⟨launch, []⟩ } }

def move (s : System) (work : Work) (i source place : Nat) : System :=
  { s.setVram (put s.vram place (s.vram source)) with
    gpu := { s.gpu with work := some { work with moved := i :: work.moved } } }

def release (s : System) (work : Work) (place : Nat) : System :=
  { s.setVram (st32 s.vram place work.launch.payload) with
    gpu := { s.gpu with work := none }
    completed := s.completed ++ [work.launch] }

/-- After a doorbell the GPU takes an entry at any time at which GP_PUT has
moved past it, moves the bytes in any order, and then releases the semaphore. -/
inductive GpuStep (translate : Nat → Option Nat) : System → System → Prop
  | take (s : System) (launch : Launch) (free : s.gpu.work = none) (rung : s.gpu.rung = true)
      (more : s.gpu.get ≠ gpPutWord s.ctx.toWiring s.vram)
      (fetched : fetch translate s.ctx.toWiring s.vram s.gpu.get = some launch) :
      GpuStep translate s (take s launch)
  | move (s : System) (work : Work) (i source place : Nat) (busy : s.gpu.work = some work)
      (inside : i < work.launch.bytes.toNat) (fresh : i ∉ work.moved)
      (origin : translate (work.launch.src + i) = some source)
      (target : translate (work.launch.dst + i) = some place) :
      GpuStep translate s (move s work i source place)
  | release (s : System) (work : Work) (place : Nat) (busy : s.gpu.work = some work)
      (moved : ∀ i < work.launch.bytes.toNat, i ∈ work.moved)
      (target : translate work.launch.sem = some place) :
      GpuStep translate s (release s work place)

/-- A call begins, the host makes one access or the GPU acts. Each call brings
its own `win_base`. -/
inductive Step (translate : Nat → Option Nat) (admits : Request → Prop) : System → System → Prop
  | call (s : System) (req : Request) (winBase : UInt64) (idle : s.call = none)
      (admitted : admits req) (coherent : Coherent { s.dev with winBase := winBase }) :
      Step translate admits s (start { s with dev := { s.dev with winBase := winBase } } req)
  | host (s : System) (call : Call) (active : s.call = some call) :
      Step translate admits s (hostTurn translate s call)
  | gpu (s t : System) (acts : GpuStep translate s t) : Step translate admits s t

def Reaches (translate : Nat → Option Nat) (admits : Request → Prop) : System → System → Prop :=
  Relation.ReflTransGen (Step translate admits)

end GspDriver.GpuCopy
