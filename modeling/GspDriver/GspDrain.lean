import GspDriver.CpuSequencer
import GspDriver.MsgQueue

/-!
The first consumer of the message queue: the loop of `nv_gsp_bringup` that
drains it until GSP_INIT_DONE and runs the CPU sequencer for each message that
asks for it. `ran` records, for each sequencer call, the element it was made
for. A sequencer call that has not ended within `turns` and `spins` is left
with what it has done; the drain does not look at its return code.
-/

namespace GspDriver.GspDrain

open Bytes LittleEndian Loop RingQueue GspRpc GspRm MsgQueue Falcon CpuSequencer

def nvVgpuMsgEventGspInitDone : UInt32 := 0x1001
def nvVgpuMsgEventGspRunCpuSequencer : UInt32 := 0x1002

structure Drain where
  shm : Mem
  rptr : UInt32
  lastFn : UInt32
  msgs : UInt32
  got : Bool
  answers : Stream' UInt32
  ran : List Mem

section Turn

variable (turns spins : Nat) (c : SeqCtx) (lay : NvGspShmLayout)

/-- GSP_RUN_CPU_SEQUENCER: run the commands of the element at `e`. -/
def dispatch (e : Nat) (d : Drain) : Drain :=
  if d.lastFn = nvVgpuMsgEventGspRunCpuSequencer then
    let run := runSequencer turns spins c d.shm e d.answers
    { d with
      shm := run.2.2
      answers := run.2.1.answers
      ran := d.ran ++ [fun o => d.shm (e + o)] }
  else d

def drainConsume (ec : UInt32) (d : Drain) : Drain :=
  let rptr := wrapSlot lay (d.rptr + ec)
  { d with shm := msgqSetReadptr d.shm lay rptr, rptr := rptr }

def drainTurn (wptr : UInt32) (d : Drain) : Turn Drain Drain :=
  if d.rptr = wptr then .stop d
  else
    let e := entryAddr lay.msgqOff.toNat d.rptr
    let ec := ld32 d.shm (e + nvGspMsgElemcountOff)
    let ec := if ec = 0 ∨ ec > lay.msgCount then 1 else ec
    let lastFn := ld32 d.shm (e + nvGspRpcHdrOff + nvGspRpcFFunction)
    let d := dispatch turns spins c e { d with lastFn := lastFn, msgs := d.msgs + 1 }
    let d := drainConsume lay ec d
    if lastFn = nvVgpuMsgEventGspInitDone then .stop { d with got := true } else .again d

/-- One poll: the write pointer is read once, and the queue drained up to it. -/
def drainPoll (d : Drain) : Option Drain :=
  whileFuel (drainTurn turns spins c lay (nvGspMsgqWriteptr d.shm lay)) (lay.msgCount.toNat + 1) d

end Turn

/-- The channel that the calls after the drain use. -/
def handOver (lay : NvGspShmLayout) (d : Drain) : NvGspRpcChan :=
  let wptr := ld32 d.shm (lay.cmdqOff.toNat + nvMsgqTxWriteptrOff)
  { shm := d.shm, lay := lay, cmdqWptr := wptr, seq := wptr, msgqRptr := d.rptr }

/-! What a sequencer call writes: the eight saved registers of its element. -/

theorem saves_outside {m : Mem} {a x : Nat} {regSave : RegSave} (count : Nat)
    (outside : x < a ∨ a + 4 * count ≤ x) :
    (List.range count).foldl (fun m i => st32 m (a + 4 * i) (regSave i)) m x = m x := by
  induction count with
  | zero => rfl
  | succ count ih =>
      rw [List.range_succ, List.foldl_append, List.foldl_cons, List.foldl_nil,
        st32_outside _ _ _ _ (by omega), ih (by omega)]

theorem sequencer_outside {turns spins : Nat} {c : SeqCtx} {m : Mem} {e x : Nat}
    {answers : Stream' UInt32} (outside : x < e + 88 ∨ e + 120 ≤ x) :
    (runSequencer turns spins c m e answers).2.2 x = m x := by
  simp only [runSequencer, nvGspRpcPayloadOff]
  exact saves_outside 8 (by omega)

theorem dispatch_rptr {turns spins : Nat} {c : SeqCtx} {e : Nat} {d : Drain} :
    (dispatch turns spins c e d).rptr = d.rptr := by
  rw [dispatch]
  split
  · rfl
  · rfl

theorem dispatch_outside {turns spins : Nat} {c : SeqCtx} {e x : Nat} {d : Drain}
    (outside : x < e + 88 ∨ e + 120 ≤ x) : (dispatch turns spins c e d).shm x = d.shm x := by
  rw [dispatch]
  split
  · exact sequencer_outside outside
  · rfl

end GspDriver.GspDrain
