import GspDriver.MilcorixFB
import GspDriver.Vram

/-!
The user client of MilcorixUserClient.cpp. The resource lock is held for a whole
method, so methods run one after another. A call brings its arguments and what
the kernel does for it: whether the client is active, whether `IOMalloc` and the
descriptor's `prepare` succeed, and which chunks the descriptor transfers. A
started client holds its owner and its lock until it is freed, so the null tests
of the dispatcher have no counterpart. `none` says that a loop ran out of fuel.
-/

namespace GspDriver.MilcorixUserClient

open Loop Vram MilcorixFB

def milcorixMaxXfer : UInt64 := 4 * 1024 * 1024
def milcorixStageChunk : UInt64 := 64 * 1024
def milcorixMemoryAbiVersion : UInt32 := 1
def milcorixMemoryReady : UInt32 := 1
def milcorixMemoryExternalVmm : UInt32 := 2
def milcorixMemoryGpuProbes : UInt32 := 4

def kMilcorixMethodGetInfo : UInt32 := 0
def kMilcorixMethodWrite : UInt32 := 1
def kMilcorixMethodRead : UInt32 := 2
def kMilcorixMethodCopy : UInt32 := 3
def kMilcorixMethodGetMemoryInfo : UInt32 := 4
def kMilcorixMethodAlloc : UInt32 := 5
def kMilcorixMethodFree : UInt32 := 6
def kMilcorixMethodWriteBuffer : UInt32 := 7
def kMilcorixMethodReadBuffer : UInt32 := 8
def kMilcorixMethodCopyBuffer : UInt32 := 9
def kMilcorixMethodCount : UInt32 := 10

structure MilcorixGpuInfo where
  ready : UInt32
  channel : UInt32
  copyEngine : UInt32
  scratchSize : UInt64
  deriving DecidableEq

structure MilcorixMemoryInfo where
  version : UInt32
  size : UInt32
  flags : UInt32
  pageSize : UInt32
  poolBytes : UInt64
  allocatedBytes : UInt64
  maxTransferBytes : UInt64
  deriving DecidableEq

/-- A descriptor of fixed length; `moves i` says that the chunk at byte `i` is
transferred whole. -/
structure IOMemoryDescriptor where
  length : UInt64
  prepares : Bool
  bytes : Nat → UInt8
  moves : Nat → Bool

structure IOExternalMethodArguments where
  scalarInput : Nat → UInt64
  scalarInputCount : UInt32
  structureInput : Option (Nat → UInt8)
  structureInputSize : UInt32
  structureInputDescriptor : Option IOMemoryDescriptor
  scalarOutputCount : UInt32
  structureOutput : Bool
  structureOutputSize : UInt32
  structureOutputDescriptor : Option IOMemoryDescriptor

structure ExternalCall where
  selector : UInt32
  args : IOExternalMethodArguments
  inactive : Bool
  inactiveLocked : Bool
  mallocs : Bool
  superReturn : IOReturn

inductive Output where
  | nothing
  | bytes (data : List UInt8)
  | gpuInfo (info : MilcorixGpuInfo)
  | memoryInfo (info : MilcorixMemoryInfo)
  deriving DecidableEq

structure Reply where
  rc : IOReturn
  scalarOutput : List UInt64
  output : Output
  deriving DecidableEq

variable {n : Nat}

structure Client (n : Nat) where
  owner : Owner
  fPool : NvVramPool n
  fManaged : Bool

def fail (rc : IOReturn) : Reply := ⟨rc, [], .nothing⟩

def start (owner : Owner) : Option (Client n) :=
  match owner.gpuClientOpen with
  | (false, _) => none
  | (true, owner) =>
    match nvVramPoolInit 0 owner.scratchVA owner.scratchSize with
    | (_, none) => none
    | (_, some pool) => some ⟨owner, pool, owner.gpuPoolVerified⟩

def methodGetInfo (c : Client n) (args : IOExternalMethodArguments) : Reply :=
  if ¬ args.structureOutput ∨ args.structureOutputSize < 24 then fail .badArgument
  else ⟨.success, [], .gpuInfo
    { ready := if c.owner.gpuReady then 1 else 0
      channel := c.owner.hChannel
      copyEngine := c.owner.hCe
      scratchSize := c.owner.scratchSize }⟩

def methodMemoryInfo (c : Client n) (args : IOExternalMethodArguments) : Reply :=
  if ¬ args.structureOutput ∨ args.structureOutputSize < 40 then fail .badArgument
  else ⟨.success, [], .memoryInfo
    { version := milcorixMemoryAbiVersion
      size := 40
      pageSize := 4096
      flags := if c.owner.gpuPoolVerified then
        milcorixMemoryReady ||| milcorixMemoryExternalVmm ||| milcorixMemoryGpuProbes else 0
      poolBytes := c.fPool.size
      allocatedBytes := c.fPool.used
      maxTransferBytes := milcorixMaxXfer }⟩

/-- The checks that Write and Read share: the offset to access, or BadArgument. -/
def transferOffset (c : Client n) (args : IOExternalMethodArguments) (resource : Bool)
    (totalBytes : UInt64) : Option UInt64 :=
  if args.scalarInputCount ≠ (if resource then 2 else 1) then none
  else if totalBytes = 0 ∨ totalBytes > milcorixMaxXfer then none
  else
    let resolved := nvVramResolve c.fPool (args.scalarInput 0) (args.scalarInput 1) totalBytes
    if resource ∧ resolved.1 ≠ 0 then none
    else
      let offset := if resource then resolved.2.1 else args.scalarInput 0
      if offset &&& 3 ≠ 0 then none else some offset

/-- A descriptor transfer under way. -/
structure Transfer where
  done : UInt64
  owner : Owner
  data : List UInt8

def chunkAt (total done : UInt64) : UInt32 :=
  let left := total - done
  (if left > milcorixStageChunk then milcorixStageChunk else left).toUInt32

def writeTurn (env : Outside) (md : IOMemoryDescriptor) (offset : UInt64) (t : Transfer) :
    Turn Transfer (IOReturn × Transfer) :=
  if t.done < md.length then
    let chunk := chunkAt md.length t.done
    if ¬ md.moves t.done.toNat then .stop (.vmError, t)
    else
      let wrote := t.owner.gpuWrite env (offset + t.done)
        (fun i => md.bytes (t.done.toNat + i)) chunk
      if wrote.1 ≠ .success then .stop (wrote.1, { t with owner := wrote.2 })
      else .again { t with owner := wrote.2, done := t.done + chunk.toUInt64 }
  else .stop (.success, t)

def readTurn (env : Outside) (md : IOMemoryDescriptor) (offset : UInt64) (t : Transfer) :
    Turn Transfer (IOReturn × Transfer) :=
  if t.done < md.length then
    let chunk := chunkAt md.length t.done
    let got := t.owner.gpuRead env (offset + t.done) chunk
    if got.1 ≠ .success then .stop (got.1, { t with owner := got.2.2 })
    else if ¬ md.moves t.done.toNat then .stop (.vmError, { t with owner := got.2.2 })
    else .again { done := t.done + chunk.toUInt64, owner := got.2.2, data := t.data ++ got.2.1 }
  else .stop (.success, t)

/-- The descriptor path of Write and Read, around the loop of `turn`. -/
def transfer (turn : Transfer → Turn Transfer (IOReturn × Transfer)) (c : Client n)
    (md : IOMemoryDescriptor) (mallocs : Bool) (output : List UInt8 → Output) :
    Option (Reply × Client n) :=
  if md.length = 0 ∨ md.length > milcorixMaxXfer then some (fail .badArgument, c)
  else if ¬ md.prepares then some (fail .vmError, c)
  else if ¬ mallocs then some (fail .noMemory, c)
  else (whileFuel turn (md.length.toNat + 1) ⟨0, c.owner, []⟩).map fun ended =>
    (⟨ended.1, [], output ended.2.data⟩, { c with owner := ended.2.owner })

def methodWrite (env : Outside) (c : Client n) (args : IOExternalMethodArguments) (mallocs : Bool)
    (resource : Bool) : Option (Reply × Client n) :=
  let totalBytes := match args.structureInput, args.structureInputDescriptor with
    | some _, _ => args.structureInputSize.toUInt64
    | none, some md => md.length
    | none, none => 0
  match transferOffset c args resource totalBytes with
  | none => some (fail .badArgument, c)
  | some offset =>
    match args.structureInput, args.structureInputDescriptor with
    | some data, _ =>
      let len := args.structureInputSize
      if len = 0 ∨ len.toUInt64 > milcorixMaxXfer then some (fail .badArgument, c)
      else
        let wrote := c.owner.gpuWrite env offset data len
        some (fail wrote.1, { c with owner := wrote.2 })
    | none, none => some (fail .badArgument, c)
    | none, some md => transfer (writeTurn env md offset) c md mallocs fun _ => .nothing

def methodRead (env : Outside) (c : Client n) (args : IOExternalMethodArguments) (mallocs : Bool)
    (resource : Bool) : Option (Reply × Client n) :=
  let totalBytes := match args.structureOutput, args.structureOutputDescriptor with
    | true, _ => args.structureOutputSize.toUInt64
    | false, some md => md.length
    | false, none => 0
  match transferOffset c args resource totalBytes with
  | none => some (fail .badArgument, c)
  | some offset =>
    match args.structureOutput, args.structureOutputDescriptor with
    | true, _ =>
      let len := args.structureOutputSize
      if len = 0 ∨ len.toUInt64 > milcorixMaxXfer then some (fail .badArgument, c)
      else
        let got := c.owner.gpuRead env offset len
        some (⟨got.1, [], .bytes got.2.1⟩, { c with owner := got.2.2 })
    | false, none => some (fail .badArgument, c)
    | false, some md => transfer (readTurn env md offset) c md mallocs .bytes

def methodCopy (env : Outside) (c : Client n) (args : IOExternalMethodArguments)
    (resource : Bool) : Reply × Client n :=
  if args.scalarInputCount ≠ (if resource then 5 else 3) ∨ args.scalarOutputCount < 1 then
    (fail .badArgument, c)
  else
    let bytes := args.scalarInput (if resource then 4 else 2)
    if bytes = 0 ∨ bytes > milcorixMaxXfer then (fail .badArgument, c)
    else
      let src := nvVramResolve c.fPool (args.scalarInput 0) (args.scalarInput 1) bytes
      let dst := nvVramResolve c.fPool (args.scalarInput 2) (args.scalarInput 3) bytes
      if resource ∧ (src.1 ≠ 0 ∨ dst.1 ≠ 0) then (fail .badArgument, c)
      else
        let srcOff := if resource then src.2.1 else args.scalarInput 0
        let dstOff := if resource then dst.2.1 else args.scalarInput 1
        let copied := c.owner.gpuCopy env srcOff dstOff bytes.toUInt32
        (⟨copied.1, [copied.2.1], .nothing⟩, { c with owner := copied.2.2 })

/-- The clear of a new resource under way. -/
structure Clearing where
  rc : IOReturn
  filled : UInt64
  owner : Owner

def clearChunk (bytes filled : UInt64) : UInt64 :=
  let chunk := bytes - filled
  let chunk := if chunk > filled then filled else chunk
  if chunk > milcorixMaxXfer then milcorixMaxXfer else chunk

def clearTurn (env : Outside) (offset bytes : UInt64) (s : Clearing) :
    Turn Clearing (IOReturn × Owner) :=
  if s.rc = .success ∧ s.filled < bytes then
    let chunk := clearChunk bytes s.filled
    let copied := s.owner.gpuCopy env offset (offset + s.filled) chunk.toUInt32
    .again { rc := copied.1, filled := s.filled + chunk, owner := copied.2.2 }
  else .stop (s.rc, s.owner)

/-- The first page is cleared by the processor, the rest by copies of what is
clear already. -/
def clearResource (env : Outside) (owner : Owner) (offset bytes : UInt64) (mallocs : Bool) :
    Option (IOReturn × Owner) :=
  if ¬ mallocs then some (.noMemory, owner)
  else
    let wrote := owner.gpuWrite env offset (fun _ => 0) 4096
    whileFuel (clearTurn env offset bytes) (bytes.toNat + 1)
      { rc := wrote.1, filled := 4096, owner := wrote.2 }

def methodAlloc (env : Outside) (c : Client n) (args : IOExternalMethodArguments)
    (mallocs : Bool) : Option (Reply × Client n) :=
  if args.scalarInputCount ≠ 2 ∨ args.scalarOutputCount < 2 then some (fail .badArgument, c)
  else if ¬ c.owner.gpuPoolVerified then some (fail .notReady, c)
  else match nvVramAlloc c.fPool (args.scalarInput 0) (args.scalarInput 1) with
    | none => none
    | some (err, handle, pool) =>
      if err ≠ 0 then
        some (⟨if err = -2 then .noMemory else .badArgument, [0, 0], .nothing⟩,
          { c with fPool := pool })
      else
        let bytes := (args.scalarInput 0 + 4095) &&& ~~~4095
        let offset := (nvVramResolve pool handle 0 bytes).2.1
        (clearResource env c.owner offset bytes mallocs).map fun cleared =>
          if cleared.1 ≠ .success then
            (⟨cleared.1, [0, 0], .nothing⟩,
              { c with owner := cleared.2, fPool := (nvVramFree pool handle).2 })
          else
            (⟨.success, [handle, bytes], .nothing⟩,
              { owner := cleared.2, fPool := pool, fManaged := true })

def methodFree (c : Client n) (args : IOExternalMethodArguments) : Reply × Client n :=
  if args.scalarInputCount ≠ 1 then (fail .badArgument, c)
  else
    let freed := nvVramFree c.fPool (args.scalarInput 0)
    (fail (if freed.1 ≠ 0 then .badArgument else .success), { c with fPool := freed.2 })

def dispatch (env : Outside) (c : Client n) (call : ExternalCall) : Option (Reply × Client n) :=
  match call.selector.toNat with
  | 0 => some (methodGetInfo c call.args, c)
  | 1 => methodWrite env c call.args call.mallocs false
  | 2 => methodRead env c call.args call.mallocs false
  | 3 => some (methodCopy env c call.args false)
  | 4 => some (methodMemoryInfo c call.args, c)
  | 5 => methodAlloc env c call.args call.mallocs
  | 6 => some (methodFree c call.args)
  | 7 => methodWrite env c call.args call.mallocs true
  | 8 => methodRead env c call.args call.mallocs true
  | 9 => some (methodCopy env c call.args true)
  | _ => some (fail .unsupported, c)

def externalMethod (env : Outside) (c : Client n) (call : ExternalCall) :
    Option (Reply × Client n) :=
  if call.inactive then some (fail .notAttached, c)
  else if call.selector ≥ kMilcorixMethodCount then some (fail call.superReturn, c)
  else
    let c := { c with owner := c.owner.tick env }
    if call.inactiveLocked then some (fail .notAttached, c)
    else if c.fManaged ∧ call.selector ≥ kMilcorixMethodWrite ∧
        call.selector ≤ kMilcorixMethodCopy then
      some (fail .unsupported, c)
    else dispatch env c call

end GspDriver.MilcorixUserClient
