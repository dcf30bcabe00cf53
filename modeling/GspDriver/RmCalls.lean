import GspDriver.GspRm

/-!
`nv_gsp_rm_alloc` and `nv_gsp_rm_control` of gsp_rm.c. Both build a request in
a static buffer, let the RPC copy the reply into a second one, and hand the
status and the params back from there. The buffers keep their contents from
call to call, so they are part of the state. An absent `params` is a null
pointer.
-/

namespace GspDriver.RmCalls

open Bytes LittleEndian Loop GspRpc GspRm

def nvVgpuMsgFunctionGspRmControl : UInt32 := 76
def nvVgpuMsgFunctionGspRmAlloc : UInt32 := 103
def nvRmAllocHdrSize : UInt32 := 32
def nvRmAllocStatusOff : Nat := 16
def nvRmCtrlHdrSize : UInt32 := 24
def nvRmCtrlStatusOff : Nat := 12
def rmTimeoutUs : UInt32 := 4000000

/-- The `NV_GSP_RM_ERR_*` codes. -/
inductive RmError where
  | arg
  | timeout
  | bounds
  deriving DecidableEq

/-- The static `req` and `rep` of one of the functions. -/
structure RmBuffers where
  req : Mem
  rep : Mem

/-- What the two functions do not share: the RPC, the header with its words in
the order of the stores, and the room for params behind it. -/
structure RmCall where
  function : UInt32
  hdrSize : UInt32
  statusOff : Nat
  capacity : UInt32
  fields : List (Nat × UInt32)
  status_within : statusOff + 4 ≤ hdrSize.toNat
  room : hdrSize.toNat + capacity.toNat ≤ 3608

/-- The bytes of a message as they lie in a buffer of zeros. -/
def bytesAt (bytes : List UInt8) : Mem := fun x => bytes.getD x 0

/-- What a call leaves behind. `status` is the word stored through the pointer,
`sent` the request that was handed to the RPC. -/
structure RmReturn where
  rc : Except RmError Unit
  status : Option UInt32
  params : Payload
  sent : Option (List UInt8)
  ch : NvGspRpcChan
  bufs : RmBuffers

def rmRequest (call : RmCall) (req : Mem) (params : Payload) (paramsLen : UInt32) : Mem :=
  let req := putBytes req 0 (call.hdrSize + paramsLen).toNat fun _ => 0
  let req := call.fields.foldl (fun req field => st32 req field.1 field.2) req
  putPayload req call.hdrSize.toNat params paramsLen

/-- The params after a reply of `rlen` bytes: as many as both sides have. -/
def rmParams (call : RmCall) (rep : Mem) (rlen : UInt32) (params : Payload) (paramsLen : UInt32) :
    Payload :=
  let avail := rlen - call.hdrSize
  let n := if paramsLen < avail then paramsLen else avail
  params.map fun bytes => putBytes bytes 0 n.toNat fun i => rep (call.hdrSize.toNat + i)

def rmCall (polls : Nat) (world : Nat → Mem → Mem) (ch : NvGspRpcChan) (bufs : RmBuffers)
    (call : RmCall) (params : Payload) (paramsLen : UInt32) : Option RmReturn :=
  if paramsLen > call.capacity then
    some { rc := .error .bounds, status := none, params, sent := none, ch, bufs }
  else
    let reqLen := call.hdrSize + paramsLen
    let req := rmRequest call bufs.req params paramsLen
    let sent := some ((List.range reqLen.toNat).map req)
    (nvGspRpcCall polls world ch call.function (some req) reqLen reqLen rmTimeoutUs).map
      fun returned =>
        match returned.1 with
        | .errTimeout =>
            { rc := .error .timeout, status := none, params, sent, ch := returned.2
              bufs := { bufs with req } }
        | .errBounds =>
            { rc := .error .bounds, status := none, params, sent, ch := returned.2
              bufs := { bufs with req } }
        | .ok reply rlen rres =>
            let rep := putBytes bufs.rep 0 reply.length (bytesAt reply)
            if rres ≠ 0 ∨ rlen < call.hdrSize then
              { rc := .error .bounds, status := none, params, sent, ch := returned.2
                bufs := { req, rep } }
            else
              { rc := .ok (), status := some (ld32 rep call.statusOff)
                params := rmParams call rep rlen params paramsLen, sent, ch := returned.2
                bufs := { req, rep } }

/-- The shape of `nv_gsp_rm_alloc`: a header of seven words, and room for 512 bytes. -/
def allocCall (hClient hParent hObject hClass paramsLen : UInt32) : RmCall :=
  { function := nvVgpuMsgFunctionGspRmAlloc
    hdrSize := nvRmAllocHdrSize
    statusOff := nvRmAllocStatusOff
    capacity := 512
    fields := [(0, hClient), (4, hParent), (8, hObject), (12, hClass), (nvRmAllocStatusOff, 0),
      (20, paramsLen), (24, 0)]
    status_within := by decide
    room := by decide }

def controlCall (hClient hObject cmd paramsLen : UInt32) : RmCall :=
  { function := nvVgpuMsgFunctionGspRmControl
    hdrSize := nvRmCtrlHdrSize
    statusOff := nvRmCtrlStatusOff
    capacity := 3584
    fields := [(0, hClient), (4, hObject), (8, cmd), (nvRmCtrlStatusOff, 0), (16, paramsLen),
      (20, 0)]
    status_within := by decide
    room := by decide }

def nvGspRmAlloc (polls : Nat) (world : Nat → Mem → Mem) (ch : NvGspRpcChan) (bufs : RmBuffers)
    (hClient hParent hObject hClass : UInt32) (params : Payload) (paramsLen : UInt32) :
    Option RmReturn :=
  rmCall polls world ch bufs (allocCall hClient hParent hObject hClass paramsLen) params paramsLen

def nvGspRmControl (polls : Nat) (world : Nat → Mem → Mem) (ch : NvGspRpcChan) (bufs : RmBuffers)
    (hClient hObject cmd : UInt32) (params : Payload) (paramsLen : UInt32) : Option RmReturn :=
  rmCall polls world ch bufs (controlCall hClient hObject cmd paramsLen) params paramsLen

/-! What the RPC takes of a request, and what it returns of a reply. -/

/-- The request that is sent, read off its first bytes alone. -/
def requestBytes (call : RmCall) (params : Payload) (paramsLen : UInt32) : Mem :=
  rmRequest call (fun _ => 0) params paramsLen

theorem putBytes_congr {m m' : Mem} {a n len : Nat} {byte : Nat → UInt8}
    (same : ∀ x < len, m x = m' x) :
    ∀ x < len, putBytes m a n byte x = putBytes m' a n byte x := by
  intro x inside
  rw [putBytes_apply, putBytes_apply, same x inside]

theorem fields_congr (fields : List (Nat × UInt32)) {m m' : Mem} {len : Nat}
    (same : ∀ x < len, m x = m' x) :
    ∀ x < len, fields.foldl (fun req field => st32 req field.1 field.2) m x =
      fields.foldl (fun req field => st32 req field.1 field.2) m' x := by
  induction fields generalizing m m' with
  | nil => exact same
  | cons field rest ih =>
      apply ih
      intro x inside
      show st32 m field.1 field.2 x = st32 m' field.1 field.2 x
      rw [st32_eq_store, st32_eq_store, store, store, same x inside]

/-- Every byte of a request is written by the call that sends it. -/
theorem request_fresh (call : RmCall) (req : Mem) (params : Payload) (paramsLen : UInt32) :
    ∀ x < (call.hdrSize + paramsLen).toNat,
      rmRequest call req params paramsLen x = requestBytes call params paramsLen x := by
  have zeroed : ∀ x < (call.hdrSize + paramsLen).toNat,
      putBytes req 0 (call.hdrSize + paramsLen).toNat (fun _ => 0) x =
        putBytes (fun _ => 0) 0 (call.hdrSize + paramsLen).toNat (fun _ => 0) x := by
    intro x inside
    rw [putBytes_apply, putBytes_apply, if_pos (by omega), if_pos (by omega)]
  have headed := fields_congr call.fields zeroed
  rw [requestBytes, rmRequest, rmRequest]
  cases params with
  | none => exact headed
  | some byte => exact putBytes_congr headed

theorem putBytes_source {m : Mem} {a n : Nat} {byte other : Nat → UInt8}
    (same : ∀ i < n, byte i = other i) : putBytes m a n byte = putBytes m a n other := by
  funext x
  rw [putBytes_apply, putBytes_apply]
  split
  · exact same _ (by omega)
  · rfl

theorem write_congr (m : Mem) (cmdq : Nat) (slot seq fn : UInt32) {byte other : Nat → UInt8}
    {len : UInt32} (same : ∀ i < len.toNat, byte i = other i) :
    nvGspCmdqWrite m cmdq slot seq fn (some byte) len =
      nvGspCmdqWrite m cmdq slot seq fn (some other) len := by
  have payload : ∀ (m : Mem) (a : Nat),
      putPayload m a (some byte) len = putPayload m a (some other) len :=
    fun m a => putBytes_source same
  simp only [nvGspCmdqWrite, payload]

/-- The RPC reads no more of a request than its length. -/
theorem call_congr (polls : Nat) (world : Nat → Mem → Mem) (ch : NvGspRpcChan) (fn : UInt32)
    {byte other : Nat → UInt8} {reqLen : UInt32} (replyCap timeoutUs : UInt32)
    (same : ∀ i < reqLen.toNat, byte i = other i) :
    nvGspRpcCall polls world ch fn (some byte) reqLen replyCap timeoutUs =
      nvGspRpcCall polls world ch fn (some other) reqLen replyCap timeoutUs := by
  simp only [nvGspRpcCall, rpcSend, write_congr _ _ _ _ _ same]

end GspDriver.RmCalls
