import GspDriver.GspRpc

/-!
`nv_gsp_rpc_call` of gsp_rm.c. The send half writes one element and publishes
the write pointer; the receive half polls the message queue. The doorbell and
delay callbacks return nothing: what the rest of the system has done to shared
memory by poll `j` is `world j`. A null `reply_out` is a capacity of 0. Fuel
bounds the number of polls, and the scan of one poll by the slots of the ring;
`none` says that it ran out.
-/

namespace GspDriver.GspRm

open Bytes LittleEndian Loop GspRpc

structure NvGspRpcChan where
  shm : Mem
  lay : NvGspShmLayout
  cmdqWptr : UInt32
  seq : UInt32
  msgqRptr : UInt32

/-- A pointer reduced by `while (p >= msg_count) p -= msg_count`. -/
def wrapSlot (lay : NvGspShmLayout) (p : UInt32) : UInt32 := p % lay.msgCount

def rpcSend (ch : NvGspRpcChan) (fn : UInt32) (req : Payload) (reqLen : UInt32) : NvGspRpcChan :=
  let written := nvGspCmdqWrite ch.shm ch.lay.cmdqOff.toNat ch.cmdqWptr ch.seq fn req reqLen
  let wptr := wrapSlot ch.lay (ch.cmdqWptr + written.1)
  { ch with
    shm := nvGspCmdqSetWriteptr written.2 ch.lay wptr
    cmdqWptr := wptr
    seq := ch.seq + 1 }

def msgqSetReadptr (m : Mem) (lay : NvGspShmLayout) (rptr : UInt32) : Mem :=
  st32 m (lay.msgqOff.toNat + nvGspMsgqRxhdroff) rptr

/-- Move past `mec` slots and publish the read pointer. -/
def consume (ch : NvGspRpcChan) (mec : UInt32) : NvGspRpcChan :=
  let rptr := wrapSlot ch.lay (ch.msgqRptr + mec)
  { ch with shm := msgqSetReadptr ch.shm ch.lay rptr, msgqRptr := rptr }

/-- How one poll of the message queue ends. -/
inductive Poll where
  | drained
  | bounds
  | ok (reply : List UInt8) (replyLen rpcResult : UInt32)
  deriving DecidableEq

def recvTurn (fn replyCap wptr : UInt32) (ch : NvGspRpcChan) :
    Turn NvGspRpcChan (Poll × NvGspRpcChan) :=
  if ch.msgqRptr = wptr then .stop (.drained, ch)
  else
    let e := entryAddr ch.lay.msgqOff.toNat ch.msgqRptr
    let mec := ld32 ch.shm (e + nvGspMsgElemcountOff)
    let mec := if mec = 0 ∨ mec > ch.lay.msgCount then 1 else mec
    let r := e + nvGspRpcHdrOff
    let mfn := ld32 ch.shm (r + nvGspRpcFFunction)
    let mlen := ld32 ch.shm (r + nvGspRpcFLength)
    let mres := ld32 ch.shm (r + 16)
    if mfn = fn then
      let plen := if mlen ≥ nvGspRpcHdrSize then mlen - nvGspRpcHdrSize else 0
      if ch.msgqRptr + mec > ch.lay.msgCount then .stop (.bounds, ch)
      else
        let n := if plen < replyCap then plen else replyCap
        let reply := (List.range n.toNat).map fun i => ch.shm (e + nvGspRpcPayloadOff + i)
        .stop (.ok reply plen mres, consume ch mec)
    else .again (consume ch mec)

def recvPoll (fn replyCap : UInt32) (ch : NvGspRpcChan) : Option (Poll × NvGspRpcChan) :=
  whileFuel (recvTurn fn replyCap (nvGspMsgqWriteptr ch.shm ch.lay))
    (ch.lay.msgCount.toNat + 1) ch

inductive RpcReturn where
  | ok (reply : List UInt8) (replyLen rpcResult : UInt32)
  | errTimeout
  | errBounds
  deriving DecidableEq

def pollStep : UInt32 := 1000

/-- The outer loop's state: the number of the poll, `waited`, the channel. -/
structure Waiting where
  poll : Nat
  waited : UInt32
  ch : NvGspRpcChan

def callTurn (world : Nat → Mem → Mem) (fn replyCap timeoutUs : UInt32) (w : Waiting) :
    Turn Waiting (Option (RpcReturn × NvGspRpcChan)) :=
  match recvPoll fn replyCap { w.ch with shm := world w.poll w.ch.shm } with
  | none => .stop none
  | some (.ok reply replyLen rpcResult, ch) => .stop (some (.ok reply replyLen rpcResult, ch))
  | some (.bounds, ch) => .stop (some (.errBounds, ch))
  | some (.drained, ch) =>
      if w.waited ≥ timeoutUs then .stop (some (.errTimeout, ch))
      else .again { poll := w.poll + 1, waited := w.waited + pollStep, ch := ch }

def nvGspRpcCall (polls : Nat) (world : Nat → Mem → Mem) (ch : NvGspRpcChan) (fn : UInt32)
    (req : Payload) (reqLen replyCap timeoutUs : UInt32) : Option (RpcReturn × NvGspRpcChan) :=
  let timeoutUs := if timeoutUs = 0 then 4000000 else timeoutUs
  (whileFuel (callTurn world fn replyCap timeoutUs) polls
    { poll := 0, waited := 0, ch := rpcSend ch fn req reqLen }).join

end GspDriver.GspRm
