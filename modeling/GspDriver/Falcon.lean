import GspDriver.Base.Loop

/-!
The register primitives of falcon.c. `Mmio` is the card as the driver meets it:
the values that its reads will return, in order, and the accesses made so far.
Nothing is assumed about the values. `spins` bounds the rounds of one poll
loop; the return code `none` says that a loop is still polling then.
-/

namespace GspDriver.Falcon

inductive Access where
  | rd (addr : UInt32)
  | wr (addr val : UInt32)
  | udelay (usec : UInt32)
  deriving DecidableEq

/-- A delay reaches no register. -/
def Access.IsRegister : Access → Prop
  | .rd _ => True
  | .wr _ _ => True
  | .udelay _ => False

structure Mmio where
  answers : Stream' UInt32
  trace : List Access

def Mmio.rd (io : Mmio) (addr : UInt32) : UInt32 × Mmio :=
  (io.answers.head, { answers := io.answers.tail, trace := io.trace ++ [.rd addr] })

def Mmio.wr (io : Mmio) (addr val : UInt32) : Mmio :=
  { io with trace := io.trace ++ [.wr addr val] }

def Mmio.udelay (io : Mmio) (usec : UInt32) : Mmio :=
  { io with trace := io.trace ++ [.udelay usec] }

/-- A return code and the card after the call. -/
abbrev Rc := Option Int × Mmio

/-- Go on after a call that returned 0, else return its code. -/
def Rc.andThen (rc : Rc) (next : Mmio → Rc) : Rc :=
  if rc.1 = some 0 then next rc.2 else rc

def nvOk : Int := 0
def nvErrTimeout : Int := -1
def nvErrState : Int := -2

def nvPgspFalconBase : UInt32 := 0x00110000
def nvPgspFalcon2Base : UInt32 := 0x00111000
def nvPsecFalconBase : UInt32 := 0x00840000
def falconMailbox0Off : UInt32 := 0x40
def falconMailbox1Off : UInt32 := 0x44
def falconOsOff : UInt32 := 0x80
def falconRmOff : UInt32 := 0x84
def falconHwcfg2Off : UInt32 := 0xf4
def falconCpuctlOff : UInt32 := 0x100
def falconCpuctlAliasOff : UInt32 := 0x130
def falconEngineOff : UInt32 := 0x3c0
def fbifCtlOff : UInt32 := 0x624
def riscvCpuctlOff : UInt32 := 0x388
def riscvBcrCtrlOff : UInt32 := 0x668
def engineReset : UInt32 := 1
def hwcfg2MemScrubbing : UInt32 := 0x1000
def hwcfg2ResetReady : UInt32 := 0x80000000
def cpuctlStartcpu : UInt32 := 2
def cpuctlHalted : UInt32 := 0x10
def cpuctlAliasEn : UInt32 := 0x40
def nvFuseOptFpfSize : UInt8 := 16
def nvFuseOptFpfNvdecUcode1Version : UInt32 := 0x00824100
def nvFuseOptFpfSec2Ucode1Version : UInt32 := 0x00824140
def nvFuseOptFpfGspUcode1Version : UInt32 := 0x008241c0
def nvFalconEngineIdSec2 : UInt16 := 0x0001
def nvFalconEngineIdNvdec : UInt16 := 0x0004
def nvFalconEngineIdGsp : UInt16 := 0x0400
def nvPgc6AonSecureScratchGroup050GfwBoot : UInt32 := 0x00118234
def nvGfwBootProgressCompleted : UInt32 := 0xff
def nvPollStepUs : UInt32 := 10

/-- The loop all polls share: read, leave when `ready`, else give up with
`late` once `waited` has reached the timeout, else wait one step. -/
def pollUntil (ready : UInt32 → Bool) (addr step timeoutUs : UInt32) (late : Int) :
    Nat → UInt32 → Mmio → Rc
  | 0, _, io => (none, io)
  | spins + 1, waited, io =>
      let read := io.rd addr
      if ready read.1 then (some nvOk, read.2)
      else if waited ≥ timeoutUs then (some late, read.2)
      else pollUntil ready addr step timeoutUs late spins (waited + step) (read.2.udelay step)

def nvFalconResetEngine (io : Mmio) (base : UInt32) : Mmio :=
  let eng := base + falconEngineOff
  let first := io.rd eng
  let io := (first.2.wr eng (first.1 ||| engineReset)).udelay 10
  let second := io.rd eng
  (second.2.wr eng (second.1 &&& ~~~engineReset)).udelay 10

def nvFalconWaitMemScrubbing (spins : Nat) (io : Mmio) (base timeoutUs : UInt32) : Rc :=
  pollUntil (fun v => v &&& hwcfg2MemScrubbing = 0) (base + falconHwcfg2Off) nvPollStepUs timeoutUs
    nvErrTimeout spins 0 io

def nvFalconStart (io : Mmio) (base : UInt32) : Mmio :=
  let cpuctl := base + falconCpuctlOff
  let read := io.rd cpuctl
  if read.1 &&& cpuctlAliasEn ≠ 0 then read.2.wr (base + falconCpuctlAliasOff) cpuctlStartcpu
  else read.2.wr cpuctl cpuctlStartcpu

def nvFalconWaitHalted (spins : Nat) (io : Mmio) (base timeoutUs : UInt32) : Rc :=
  pollUntil (fun v => v &&& cpuctlHalted ≠ 0) (base + falconCpuctlOff) nvPollStepUs timeoutUs
    nvErrTimeout spins 0 io

def nvFalconWriteMailbox0 (io : Mmio) (base v : UInt32) : Mmio := io.wr (base + falconMailbox0Off) v
def nvFalconWriteMailbox1 (io : Mmio) (base v : UInt32) : Mmio := io.wr (base + falconMailbox1Off) v
def nvFalconReadMailbox0 (io : Mmio) (base : UInt32) : UInt32 × Mmio :=
  io.rd (base + falconMailbox0Off)

def nvFalconSelectCoreGa102 (spins : Nat) (io : Mmio) (falcon2Base timeoutUs : UInt32) : Rc :=
  let bcr := falcon2Base + riscvBcrCtrlOff
  let read := io.rd bcr
  if read.1 &&& 0x10 ≠ 0 then
    pollUntil (fun v => v &&& 1 ≠ 0) bcr nvPollStepUs timeoutUs nvErrTimeout spins 0 (read.2.wr bcr 0)
  else (some nvOk, read.2)

/-- The 1-based place of the highest bit among the lowest `bits`, 0 when they are clear. -/
def topBit (reg : UInt32) : Nat → UInt32
  | 0 => 0
  | bits + 1 =>
      if reg &&& (1 <<< UInt32.ofNat bits) ≠ 0 then UInt32.ofNat bits + 1 else topBit reg bits

def fuseRegBase (engineIdMask : UInt16) : Option UInt32 :=
  if engineIdMask &&& nvFalconEngineIdSec2 ≠ 0 then some nvFuseOptFpfSec2Ucode1Version
  else if engineIdMask &&& nvFalconEngineIdNvdec ≠ 0 then some nvFuseOptFpfNvdecUcode1Version
  else if engineIdMask &&& nvFalconEngineIdGsp ≠ 0 then some nvFuseOptFpfGspUcode1Version
  else none

/-- The version, or nothing where the call returns `NV_ERR_STATE`. -/
def nvFalconSignatureFuseVersionGa102 (io : Mmio) (engineIdMask : UInt16) (ucodeId : UInt8) :
    Option UInt32 × Mmio :=
  if ucodeId < 1 ∨ ucodeId > nvFuseOptFpfSize then (none, io)
  else
    match fuseRegBase engineIdMask with
    | none => (none, io)
    | some regBase =>
        let read := io.rd (regBase + (ucodeId.toUInt32 - 1) * 4)
        (some (topBit (read.1 &&& 0xffff) 16), read.2)

/-- The wait for the ready bit is optional: running out of time is no error. -/
def nvFalconResetGa102 (spins : Nat) (io : Mmio) (base falcon2Base boot0 timeoutUs : UInt32) : Rc :=
  let hwcfg2 := base + falconHwcfg2Off
  let io := (io.rd hwcfg2).2
  (pollUntil (fun v => v &&& hwcfg2ResetReady ≠ 0) hwcfg2 10 150 nvOk spins 0 io).andThen fun io =>
  (nvFalconWaitMemScrubbing spins (nvFalconResetEngine io base) base timeoutUs).andThen fun io =>
  (nvFalconSelectCoreGa102 spins io falcon2Base timeoutUs).andThen fun io =>
  (nvFalconWaitMemScrubbing spins io base timeoutUs).andThen fun io =>
  (some nvOk, io.wr (base + falconRmOff) boot0)

def nvFalconGspResetRiscv (spins : Nat) (io : Mmio) (base falcon2Base timeoutUs : UInt32) : Rc :=
  (nvFalconWaitMemScrubbing spins (nvFalconResetEngine io base) base timeoutUs).andThen fun io =>
  let bcr := falcon2Base + riscvBcrCtrlOff
  let read := io.rd bcr
  (some nvOk, read.2.wr bcr ((read.1 &&& ~~~0x111) ||| 0x111))

def nvFalconRiscvActive (io : Mmio) (falcon2Base : UInt32) : Bool × Mmio :=
  let read := io.rd (falcon2Base + riscvCpuctlOff)
  (read.1 &&& 0x80 ≠ 0, read.2)

def nvFalconWriteOsVersion (io : Mmio) (base appVersion : UInt32) : Mmio :=
  io.wr (base + falconOsOff) appVersion

def nvWaitGfwBootCompleted (spins : Nat) (io : Mmio) (timeoutUs : UInt32) : Rc :=
  pollUntil (fun v => v &&& 0xff = nvGfwBootProgressCompleted)
    nvPgc6AonSecureScratchGroup050GfwBoot 1000 timeoutUs nvErrTimeout spins 0 io

/-! Which answers let a call succeed. A card that answers `given` and then
`rest` is left with `rest` by a call that reads as often as `given` is long. -/

/-- The card that answers `given` first. -/
def answering (given : List UInt32) (rest : Stream' UInt32) (trace : List Access) : Mmio :=
  ⟨Stream'.appendStream' given rest, trace⟩

def Takes (given : List UInt32) (act : Mmio → Mmio) : Prop :=
  ∀ rest trace, (act (answering given rest trace)).answers = rest

def Succeeds (given : List UInt32) (call : Mmio → Rc) : Prop :=
  ∀ rest trace, (call (answering given rest trace)).1 = some nvOk ∧
    (call (answering given rest trace)).2.answers = rest

section Succeeding

variable {given more : List UInt32} {act : Mmio → Mmio} {call next : Mmio → Rc}

theorem answering_append (rest : Stream' UInt32) (trace : List Access) :
    answering (given ++ more) rest trace =
      answering given (Stream'.appendStream' more rest) trace := by
  rw [answering, answering, Stream'.append_append_stream]

theorem answering_of_left {io : Mmio} {rest : Stream' UInt32}
    (left : io.answers = Stream'.appendStream' more rest) : io = answering more rest io.trace := by
  cases io
  exact congrArg (Mmio.mk · _) left

theorem Takes.then (first : Takes given act) (second : Succeeds more next) :
    Succeeds (given ++ more) (fun io => next (act io)) := by
  intro rest trace
  have left := answering_of_left (first (Stream'.appendStream' more rest) trace)
  rw [answering_append]
  simp only
  rw [left]
  exact second rest _

theorem Succeeds.andThen (first : Succeeds given call) (second : Succeeds more next) :
    Succeeds (given ++ more) (fun io => (call io).andThen next) := by
  intro rest trace
  obtain ⟨ok, after⟩ := first (Stream'.appendStream' more rest) trace
  have left := answering_of_left after
  have go : ((call (answering given (Stream'.appendStream' more rest) trace)).andThen next) =
      next (call (answering given (Stream'.appendStream' more rest) trace)).2 := if_pos ok
  rw [answering_append]
  simp only
  rw [go, left]
  exact second rest _

theorem Takes.returns (first : Takes given act) :
    Succeeds given (fun io => (some nvOk, act io)) :=
  fun rest trace => ⟨rfl, first rest trace⟩

theorem takes_rd (addr v : UInt32) : Takes [v] fun io => (io.rd addr).2 := fun _ _ => rfl
theorem takes_wr (addr v : UInt32) : Takes [] fun io => io.wr addr v := fun _ _ => rfl

end Succeeding

section Polls

variable {ready : UInt32 → Bool} {addr step timeoutUs waited v : UInt32} {late : Int} {spins : Nat}

/-- A poll that is answered at once reads once. -/
theorem poll_answered (hit : ready v = true) :
    Succeeds [v] (pollUntil ready addr step timeoutUs late (spins + 1) waited) := by
  intro rest trace
  have first : ((answering [v] rest trace).rd addr).1 = v := rfl
  rw [pollUntil]
  simp only [first, if_pos hit, true_and]
  rfl

/-- A poll that succeeds has met an answer that is ready. -/
theorem poll_succeeds (failing : late ≠ nvOk) {io : Mmio}
    (success : (pollUntil ready addr step timeoutUs late spins waited io).1 = some nvOk) :
    ∃ v, ready v = true := by
  induction spins generalizing waited io with
  | zero => cases success
  | succ spins ih =>
      rw [pollUntil] at success
      by_cases hit : ready (io.rd addr).1 = true
      · exact ⟨_, hit⟩
      · simp only [if_neg hit] at success
        split at success
        · exact absurd (Option.some.inj success) failing
        · exact ih success

theorem poll_keeps {access : Access} {io : Mmio} (made : access ∈ io.trace) :
    access ∈ (pollUntil ready addr step timeoutUs late spins waited io).2.trace := by
  induction spins generalizing waited io with
  | zero => exact made
  | succ spins ih =>
      have read : access ∈ (io.rd addr).2.trace := List.mem_append_left _ made
      rw [pollUntil]
      split
      · exact read
      split
      · exact read
      · exact ih (List.mem_append_left _ read)

theorem poll_reads {io : Mmio} :
    .rd addr ∈ (pollUntil ready addr step timeoutUs late (spins + 1) waited io).2.trace := by
  have read : .rd addr ∈ (io.rd addr).2.trace :=
    List.mem_append_right _ (List.mem_singleton.mpr rfl)
  rw [pollUntil]
  split
  · exact read
  split
  · exact read
  · exact poll_keeps (List.mem_append_left _ read)

end Polls

section Primitives

variable {spins : Nat} {base falcon2Base boot0 usec : UInt32}

theorem reset_engine_takes : Takes [0, 0] (nvFalconResetEngine · base) := fun _ _ => rfl

theorem start_takes : Takes [0] (nvFalconStart · base) := by
  intro rest trace
  simp only [nvFalconStart]
  split
  · rfl
  · rfl

theorem scrubbing_succeeds : Succeeds [0] (nvFalconWaitMemScrubbing (spins + 1) · base usec) :=
  poll_answered (by decide)

theorem halted_succeeds : Succeeds [cpuctlHalted] (nvFalconWaitHalted (spins + 1) · base usec) :=
  poll_answered (by decide)

/-- A core that is already selected is not polled. -/
theorem select_core_succeeds : Succeeds [0] (nvFalconSelectCoreGa102 spins · falcon2Base usec) := by
  intro rest trace
  have selected :
      ¬ ((answering [0] rest trace).rd (falcon2Base + riscvBcrCtrlOff)).1 &&& 0x10 ≠ 0 := by
    show ¬ (0 : UInt32) &&& 0x10 ≠ 0
    decide
  simp only [nvFalconSelectCoreGa102, if_neg selected, true_and]
  rfl

theorem reset_ga102_succeeds : Succeeds [0, hwcfg2ResetReady, 0, 0, 0, 0, 0]
    (nvFalconResetGa102 (spins + 1) · base falcon2Base boot0 usec) :=
  (takes_rd _ 0).then <| (poll_answered (by decide)).andThen <|
    (reset_engine_takes.then scrubbing_succeeds).andThen <| select_core_succeeds.andThen <|
    scrubbing_succeeds.andThen (takes_wr _ _).returns

theorem gsp_reset_riscv_succeeds : Succeeds [0, 0, 0, 0]
    (nvFalconGspResetRiscv (spins + 1) · base falcon2Base usec) :=
  (reset_engine_takes.then scrubbing_succeeds).andThen fun _ _ => ⟨rfl, rfl⟩

end Primitives

end GspDriver.Falcon
