import GspDriver.Falcon
import GspDriver.GspRpc

/-!
The CPU sequencer of gsp_bringup.c: an interpreter of the command stream that a
GSP_RUN_CPU_SEQUENCER message carries. Every executed command is logged with
the dwords it fetched and the accesses it made; `turns` bounds the commands and
`spins` the rounds of one poll, and the return code `none` says that the run
has not ended within them.
-/

namespace GspDriver.CpuSequencer

open Bytes LittleEndian Loop GspRpc Falcon

inductive SeqOp where
  | regWrite
  | regModify
  | regPoll
  | delayUs
  | regStore
  | coreReset
  | coreStart
  | coreWaitHalt
  | coreResume
  deriving DecidableEq

def seqOpOf (word : UInt32) : Option SeqOp :=
  if word = 0 then some .regWrite
  else if word = 1 then some .regModify
  else if word = 2 then some .regPoll
  else if word = 3 then some .delayUs
  else if word = 4 then some .regStore
  else if word = 5 then some .coreReset
  else if word = 6 then some .coreStart
  else if word = 7 then some .coreWaitHalt
  else if word = 8 then some .coreResume
  else none

/-- The operand dwords of a command. -/
def SeqOp.operands : SeqOp → UInt32
  | .regWrite => 2
  | .regModify => 3
  | .regPoll => 5
  | .delayUs => 1
  | .regStore => 2
  | _ => 0

/-- The operands that are read: a poll leaves its last one, the error code, alone. -/
def SeqOp.fetches : SeqOp → Nat
  | .regPoll => 4
  | op => op.operands.toNat

structure SeqCtx where
  boot0 : UInt32
  libosIo : UInt64
  appVersion : UInt32

def timeoutUs : UInt32 := 2000000

/-- Eight saved registers, in the message's payload. -/
abbrev RegSave := Nat → UInt32

def seqPoll (spins : Nat) (io : Mmio) (addr mask val usec : UInt32) : Rc :=
  let usec := if usec = 0 then 4000000 else usec
  pollUntil (fun v => v &&& mask = val) addr 10 usec (-1) spins 0 io

def seqCoreResume (spins : Nat) (c : SeqCtx) (io : Mmio) : Rc :=
  (nvFalconGspResetRiscv spins io nvPgspFalconBase nvPgspFalcon2Base timeoutUs).andThen fun io =>
  let io := nvFalconWriteMailbox0 io nvPgspFalconBase c.libosIo.toUInt32
  let io := nvFalconWriteMailbox1 io nvPgspFalconBase (c.libosIo >>> 32).toUInt32
  let io := nvFalconStart io nvPsecFalconBase
  (seqPoll spins io 0x1180f8 0x04000000 0x04000000 2000000).andThen fun io =>
  let mb0 := nvFalconReadMailbox0 io nvPsecFalconBase
  if mb0.1 ≠ 0 then (some (-1), mb0.2)
  else
    let io := nvFalconWriteOsVersion mb0.2 nvPgspFalconBase c.appVersion
    let active := nvFalconRiscvActive io nvPgspFalcon2Base
    if active.1 then (some 0, active.2) else (some (-1), active.2)

/-- The reset of the core, and the two registers written after it. -/
def seqCoreReset (spins : Nat) (c : SeqCtx) (io : Mmio) : Rc :=
  (nvFalconResetGa102 spins io nvPgspFalconBase nvPgspFalcon2Base c.boot0 timeoutUs).andThen fun io =>
  let a := nvPgspFalconBase + fbifCtlOff
  let read := io.rd a
  let io := read.2.wr a ((read.1 &&& ~~~0x80) ||| 0x80)
  (some 0, io.wr (nvPgspFalconBase + 0x10c) 0)

/-- One command with operands `arg 0`, `arg 1`, …: its return code and the saved registers. -/
def seqCommand (spins : Nat) (c : SeqCtx) (op : SeqOp) (arg : UInt32 → UInt32) (regSave : RegSave)
    (io : Mmio) : Rc × RegSave :=
  match op with
  | .regWrite => ((some 0, io.wr (arg 0) (arg 1)), regSave)
  | .regModify =>
      let read := io.rd (arg 0)
      ((some 0, read.2.wr (arg 0) ((read.1 &&& ~~~(arg 1)) ||| arg 2)), regSave)
  | .regPoll => (seqPoll spins io (arg 0) (arg 1) (arg 2) (arg 3), regSave)
  | .delayUs => ((some 0, io.udelay (arg 0)), regSave)
  | .regStore =>
      if arg 1 < 8 then
        let read := io.rd (arg 0)
        ((some 0, read.2), fun i => if i = (arg 1).toNat then read.1 else regSave i)
      else ((some 0, io), regSave)
  | .coreReset => (seqCoreReset spins c io, regSave)
  | .coreStart => ((some 0, nvFalconStart io nvPgspFalconBase), regSave)
  | .coreWaitHalt => (nvFalconWaitHalted spins io nvPgspFalconBase timeoutUs, regSave)
  | .coreResume => (seqCoreResume spins c io, regSave)

/-- A command that was met: the dwords fetched, the end of its operands, its accesses. -/
structure Met where
  ptr : UInt32
  fetched : List UInt32
  ends : Nat
  accesses : List Access

structure SeqState where
  ptr : UInt32
  regSave : RegSave
  answers : Stream' UInt32
  log : List Met

/-- The dwords fetched for the command at `ptr`; the pointer is a 32-bit word. -/
def fetchedAt (ptr : UInt32) (count : Nat) : List UInt32 :=
  (List.range (count + 1)).map fun i => ptr + UInt32.ofNat i

/-- The state after a command. -/
def SeqState.after (s : SeqState) (op : SeqOp) (done : Rc × RegSave) : SeqState where
  ptr := s.ptr + 1 + op.operands
  regSave := done.2
  answers := done.1.2.answers
  log := s.log ++ [⟨s.ptr, fetchedAt s.ptr op.fetches, s.ptr.toNat + 1 + op.operands.toNat,
    done.1.2.trace⟩]

def seqTurn (spins : Nat) (c : SeqCtx) (cb : Nat → UInt32) (cmdIndex : UInt32) (s : SeqState) :
    Turn SeqState (Option Int × SeqState) :=
  if s.ptr < cmdIndex then
    match seqOpOf (cb s.ptr.toNat) with
    | none =>
        .stop (some (-1), { s with
          ptr := s.ptr + 1
          log := s.log ++ [⟨s.ptr, fetchedAt s.ptr 0, s.ptr.toNat + 1, []⟩] })
    | some op =>
        let done := seqCommand spins c op (fun i => cb (s.ptr + 1 + i).toNat) s.regSave
          { answers := s.answers, trace := [] }
        if done.1.1 = some 0 then .again (s.after op done) else .stop (done.1.1, s.after op done)
  else .stop (some 0, s)

def seqRun (spins : Nat) (c : SeqCtx) (cb : Nat → UInt32) (cmdIndex : UInt32) :
    Nat → SeqState → Option Int × SeqState
  | 0, s => (none, s)
  | turns + 1, s =>
      match seqTurn spins c cb cmdIndex s with
      | .again next => seqRun spins c cb cmdIndex turns next
      | .stop result => result

def execCpuSequencer (turns spins : Nat) (c : SeqCtx) (cb : Nat → UInt32) (cmdIndex : UInt32)
    (regSave : RegSave) (answers : Stream' UInt32) : Option Int × SeqState :=
  seqRun spins c cb cmdIndex turns ⟨0, regSave, answers, []⟩

/-! The dispatch: where a message in slot `rptr` keeps the stream. -/

def msgqEntry (lay : NvGspShmLayout) (rptr : UInt32) : Nat := entryAddr lay.msgqOff.toNat rptr

def seqCmdIndex (m : Mem) (e : Nat) : UInt32 := ld32 m (e + nvGspRpcPayloadOff + 4)
def seqRegSave (m : Mem) (e : Nat) : RegSave := fun i => ld32 m (e + nvGspRpcPayloadOff + 8 + 4 * i)
def seqBuffer (m : Mem) (e : Nat) : Nat → UInt32 :=
  fun i => ld32 m (e + nvGspRpcPayloadOff + 40 + 4 * i)

/-- The message's sequencer call; the saved registers are stored back into its payload. -/
def runSequencer (turns spins : Nat) (c : SeqCtx) (m : Mem) (e : Nat) (answers : Stream' UInt32) :
    Option Int × SeqState × Mem :=
  let run := execCpuSequencer turns spins c (seqBuffer m e) (seqCmdIndex m e) (seqRegSave m e) answers
  (run.1, run.2, (List.range 8).foldl
    (fun m i => st32 m (e + nvGspRpcPayloadOff + 8 + 4 * i) (run.2.regSave i)) m)

/-! What a single command needs to succeed. -/

/-- A poll can succeed only if its mask keeps the awaited value. -/
def Passable (op : SeqOp) (arg : UInt32 → UInt32) : Prop :=
  op = .regPoll → arg 2 &&& arg 1 = arg 2

theorem passable_of_success {spins : Nat} {c : SeqCtx} {op : SeqOp} {arg : UInt32 → UInt32}
    {regSave : RegSave} {io : Mmio}
    (success : (seqCommand spins c op arg regSave io).1.1 = some 0) : Passable op arg := by
  intro poll
  subst poll
  obtain ⟨v, hit⟩ := poll_succeeds (by decide) success
  have same : v &&& arg 1 = arg 2 := of_decide_eq_true hit
  rw [← same, UInt32.and_assoc, UInt32.and_self]

/-- Answers with which a command succeeds: one suffices for each poll. -/
def favourable (op : SeqOp) (arg : UInt32 → UInt32) : List UInt32 :=
  match op with
  | .regWrite => []
  | .regModify => [0]
  | .regPoll => [arg 2]
  | .delayUs => []
  | .regStore => if arg 1 < 8 then [0] else []
  | .coreReset => [0, hwcfg2ResetReady, 0, 0, 0, 0, 0, 0]
  | .coreStart => [0]
  | .coreWaitHalt => [cpuctlHalted]
  | .coreResume => [0, 0, 0, 0, 0, 0x04000000, 0, 0x80]

theorem core_reset_succeeds {spins : Nat} {c : SeqCtx} :
    Succeeds [0, hwcfg2ResetReady, 0, 0, 0, 0, 0, 0] (seqCoreReset (spins + 1) c) :=
  reset_ga102_succeeds.andThen fun _ _ => ⟨rfl, rfl⟩

theorem core_resume_succeeds {spins : Nat} {c : SeqCtx} :
    Succeeds [0, 0, 0, 0, 0, 0x04000000, 0, 0x80] (seqCoreResume (spins + 1) c) := by
  have poll : Succeeds [0x04000000]
      (seqPoll (spins + 1) · 0x1180f8 0x04000000 0x04000000 2000000) := poll_answered (by decide)
  have restart : Takes [0] fun io => nvFalconStart (nvFalconWriteMailbox1
      (nvFalconWriteMailbox0 io nvPgspFalconBase c.libosIo.toUInt32) nvPgspFalconBase
      (c.libosIo >>> 32).toUInt32) nvPsecFalconBase :=
    fun rest trace => start_takes rest (trace ++ [_] ++ [_])
  refine gsp_reset_riscv_succeeds.andThen (restart.then (poll.andThen ?_))
  intro rest trace
  -- an empty mailbox, and then an active core
  have clear :
      ¬ (nvFalconReadMailbox0 (answering [0, 0x80] rest trace) nvPsecFalconBase).1 ≠ 0 := by
    show ¬ (0 : UInt32) ≠ 0
    decide
  have active : ∀ io : Mmio, io.answers = Stream'.cons 0x80 rest →
      (nvFalconRiscvActive io nvPgspFalcon2Base).1 = true := by
    intro io next
    simp only [nvFalconRiscvActive, Mmio.rd, next]
    show decide ((0x80 : UInt32) &&& 0x80 ≠ 0) = true
    decide
  simp only [if_neg clear]
  rw [if_pos (active _ rfl)]
  exact ⟨rfl, rfl⟩

theorem favourable_succeeds {spins : Nat} {c : SeqCtx} {op : SeqOp} {arg : UInt32 → UInt32}
    (passable : Passable op arg) (regSave : RegSave) :
    Succeeds (favourable op arg) fun io => (seqCommand (spins + 1) c op arg regSave io).1 := by
  cases op with
  | regWrite => exact fun _ _ => ⟨rfl, rfl⟩
  | regModify => exact fun _ _ => ⟨rfl, rfl⟩
  | regPoll => exact poll_answered (decide_eq_true (passable rfl))
  | delayUs => exact fun _ _ => ⟨rfl, rfl⟩
  | regStore =>
      by_cases slot : arg 1 < 8
      · simp only [seqCommand, favourable, if_pos slot]
        exact fun _ _ => ⟨rfl, rfl⟩
      · simp only [seqCommand, favourable, if_neg slot]
        exact fun _ _ => ⟨rfl, rfl⟩
  | coreReset => exact core_reset_succeeds
  | coreStart => exact start_takes.returns
  | coreWaitHalt => exact halted_succeeds
  | coreResume => exact core_resume_succeeds

end GspDriver.CpuSequencer
