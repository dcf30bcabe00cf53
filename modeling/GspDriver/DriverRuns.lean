import GspDriver.Base.Trace
import GspDriver.DriverMemory
import GspDriver.MilcorixUserClient

/-!
The driver and its user clients from `start` to `free`, in any order of their
calls. One action is one critical section under the driver's lock, so a user
method of several transfers may meet `stop` between any two of them. What IOKit
guarantees is `Allowed`: `stop` once and only after a `start` that succeeded,
`free` when no client refers to the driver any more, nothing afterwards.
-/

namespace GspDriver.DriverRuns

open Trace Bytes GspDisp Pramin FlatVram MilcorixFB Scanout DriverStart DriverMemory Vram

def milcorixConnectType : UInt32 := 0x4d4c4358
def kIOFBSystemAperture : UInt32 := 0

structure System where
  driver : Driver
  /-- `start` succeeded and `stop` has not run. -/
  up : Bool
  freed : Bool
  /-- The user clients that exist; each refers to the driver. -/
  clients : List Nat
  /-- The aperture ranges given to the system. -/
  handed : List (UInt64 × UInt64)

inductive Action where
  /-- `made`: the object is allocated, initialised, attached and its base class started. -/
  | newUserClient (client : Nat) (type : UInt32) (made : Bool)
  | freeClient (client : Nat)
  | write (client : Nat) (offset : UInt64) (data : Nat → UInt8) (len : UInt32)
  | read (client : Nat) (offset : UInt64) (len : UInt32)
  | copy (client : Nat) (srcOffset dstOffset : UInt64) (bytes : UInt32) (outcome : Submission)
  | getApertureRange (aperture : UInt32) (made : Bool)
  | stop
  | free

def gpuClientClose (o : Owner) : Owner :=
  if o.fGpuLock ∧ o.fGpuClients ≠ 0 then { o with fGpuClients := o.fGpuClients - 1 } else o

/-- The client's `start`; a client that fails after it was counted is freed at once. -/
def userClientStart (o : Owner) : Bool × Owner :=
  let opened := o.gpuClientOpen
  if !opened.1 then (false, opened.2)
  else if (@nvVramPoolInit nvVramMaxAllocs 0 o.scratchVA o.scratchSize).1 ≠ 0 then
    (false, gpuClientClose opened.2)
  else (true, opened.2)

/-- A transfer: whether it came as far as the card, and the driver afterwards. -/
def Driver.transfer (s : Driver) (done : IOReturn × Owner) : Driver :=
  { s.touch (done.1 = .success ∨ done.1 = .ioError) with owner := done.2 }

/-- No teardown happens inside a critical section. -/
def within (outcome : Submission) : Outside where
  torn _ := false
  submission _ := outcome
  nanos _ := 0

def gpuWrite (s : Driver) (offset : UInt64) (data : Nat → UInt8) (len : UInt32) : Driver :=
  Driver.transfer s (s.owner.gpuWrite (within (.timeout s.owner.card)) offset data len)

def gpuRead (s : Driver) (offset : UInt64) (len : UInt32) : Driver :=
  let done := s.owner.gpuRead (within (.timeout s.owner.card)) offset len
  Driver.transfer s (done.1, done.2.2)

def gpuCopy (s : Driver) (srcOffset dstOffset : UInt64) (bytes : UInt32) (outcome : Submission) :
    Driver :=
  let done := s.owner.gpuCopy (within outcome) srcOffset dstOffset bytes
  Driver.transfer s (done.1, done.2.2)

def apertureLen (s : Driver) : UInt64 :=
  let len := s.fPitch.toUInt64 * s.fHeight.toUInt64 + 128
  if len > s.fApertureLen then s.fApertureLen else len

/-- The range handed out, and the driver, which keeps it for later calls. -/
def getApertureRange (s : Driver) (aperture : UInt32) (made : Bool) :
    Option (UInt64 × UInt64) × Driver :=
  if aperture ≠ kIOFBSystemAperture then (none, s)
  else if s.fApertureCpuPhys = 0 ∨ s.fApertureLen = 0 then (none, s)
  else match s.fFbMem with
    | some range => (some range, s)
    | none =>
      if made then
        let range := (s.fApertureCpuPhys, apertureLen s)
        (some range, { s with fFbMem := some range })
      else (none, s)

def stop (s : Driver) : Driver := { teardown s with journal := false }

def free (s : Driver) : Driver := { s with owner := { s.owner with fGpuLock := false } }

/-- A call of a client that does not exist is none. -/
def Action.client : Action → Option Nat
  | .write client .. | .read client .. | .copy client .. | .freeClient client => some client
  | _ => none

def step (s : System) (action : Action) : System :=
  if (∃ client, action.client = some client ∧ client ∉ s.clients) then s
  else match action with
    | .newUserClient client type made =>
      if type ≠ milcorixConnectType ∨ !made then s
      else
        let started := userClientStart s.driver.owner
        { s with
          driver := { s.driver with owner := started.2 }
          clients := if started.1 then client :: s.clients else s.clients }
    | .freeClient client =>
      { s with
        driver := { s.driver with owner := gpuClientClose s.driver.owner }
        clients := s.clients.erase client }
    | .write _ offset data len => { s with driver := gpuWrite s.driver offset data len }
    | .read _ offset len => { s with driver := gpuRead s.driver offset len }
    | .copy _ srcOffset dstOffset bytes outcome =>
      { s with driver := gpuCopy s.driver srcOffset dstOffset bytes outcome }
    | .getApertureRange aperture made =>
      let range := getApertureRange s.driver aperture made
      { s with driver := range.2, handed := range.1.toList ++ s.handed }
    | .stop => { s with driver := stop s.driver, up := false }
    | .free => { s with driver := free s.driver, freed := true }

instance (s : System) (action : Action) :
    Decidable (∃ client, action.client = some client ∧ client ∉ s.clients) :=
  match action.client with
  | some client => decidable_of_iff (client ∉ s.clients) (by simp)
  | none => .isFalse (by simp)

def Allowed (s : System) (action : Action) : Prop :=
  s.freed = false ∧ match action with
    | .newUserClient client _ _ => client ∉ s.clients
    | .stop => s.up = true
    | .free => s.up = false ∧ s.clients = []
    | _ => True

/-- The system once `start` has returned. -/
def launched (env : Boot) (card : Mmio) : System where
  driver := (start env card).2
  up := (start env card).1
  freed := false
  clients := []
  handed := []

/-! Host memory in every run. -/

section Memory

variable {s : System}

theorem transfer_same (d : Driver) (done : IOReturn × Owner) :
    SameBuffers d (Driver.transfer d done) := ⟨rfl, rfl, rfl, rfl, rfl⟩

theorem getApertureRange_same (d : Driver) (aperture : UInt32) (made : Bool) :
    SameBuffers d (getApertureRange d aperture made).2 := by
  unfold getApertureRange
  split
  · exact ⟨rfl, rfl, rfl, rfl, rfl⟩
  split
  · exact ⟨rfl, rfl, rfl, rfl, rfl⟩
  split
  · exact ⟨rfl, rfl, rfl, rfl, rfl⟩
  · split <;> exact ⟨rfl, rfl, rfl, rfl, rfl⟩

/-- An action other than `stop` leaves the buffers alone. -/
theorem step_same {action : Action} (other : action ≠ .stop) :
    SameBuffers s.driver (step s action).driver ∧ (step s action).up = s.up := by
  unfold step
  split
  · exact ⟨⟨rfl, rfl, rfl, rfl, rfl⟩, rfl⟩
  cases action with
  | newUserClient client type made =>
    simp only
    split
    · exact ⟨⟨rfl, rfl, rfl, rfl, rfl⟩, rfl⟩
    · exact ⟨⟨rfl, rfl, rfl, rfl, rfl⟩, rfl⟩
  | freeClient client => exact ⟨⟨rfl, rfl, rfl, rfl, rfl⟩, rfl⟩
  | write client offset data len => exact ⟨transfer_same _ _, rfl⟩
  | read client offset len => exact ⟨transfer_same _ _, rfl⟩
  | copy client srcOffset dstOffset bytes outcome => exact ⟨transfer_same _ _, rfl⟩
  | getApertureRange aperture made => exact ⟨getApertureRange_same _ _ _, rfl⟩
  | stop => exact absurd rfl other
  | free => exact ⟨⟨rfl, rfl, rfl, rfl, rfl⟩, rfl⟩

variable {told : Bool}

/-- Without a framebuffer, every page is back that the card does not know, save a spared arena. -/
structure Housed (told : Bool) (s : System) : Prop where
  kept : Kept told s.driver
  settled : s.up = false → Settled told s.driver

theorem settled_congr {s t : Driver} (settled : Settled told s) (same : SameBuffers s t) :
    Settled told t := by
  refine ⟨kept_congr settled.kept same, ?_⟩
  unfold Spared
  rw [same.pages, same.running, same.dma]
  exact settled.rest

theorem step_housed (housed : Housed told s) (action : Action) :
    Housed told (step s action) := by
  by_cases stops : action = .stop
  · subst stops
    have stopped : Settled told (step s .stop).driver := by
      have down : Settled told (stop s.driver) :=
        settled_congr (teardown_settled housed.kept) ⟨rfl, rfl, rfl, rfl, rfl⟩
      have here : step s .stop = { s with driver := stop s.driver, up := false } := by
        unfold step
        exact if_neg (by simp [Action.client])
      rw [here]
      exact down
    exact ⟨stopped.kept, fun _ => stopped⟩
  · obtain ⟨same, up⟩ := @step_same s _ stops
    exact ⟨kept_congr housed.kept same, fun down =>
      settled_congr (housed.settled (up ▸ down)) same⟩

/-- In every state of every run: no page goes back twice and none that the card
was told about goes back at all. Once the bring-up was tried the driver holds
its arena, and the card knows the arena if the bring-up came as far as telling
it. Without a framebuffer all the other pages are back. -/
theorem told_pages_stay (env : Boot) (card : Mmio) (actions : List Action) :
    let s := run step (launched env card) actions
    s.driver.pages.returned.Nodup ∧
      (∀ page ∈ s.driver.pages.lent, page ∉ s.driver.pages.returned) ∧
      (s.driver.fGspRunning = true → ∃ arena, s.driver.fDmaBuf = some arena ∧
        arena ∉ s.driver.pages.returned ∧
        (arena ∈ s.driver.pages.lent ↔ env.bringup.arenaTold = true)) ∧
      (s.up = false → ∀ page < s.driver.pages.next, page ∈ s.driver.pages.returned ↔
        page ∉ s.driver.pages.lent ∧
          ¬ (s.driver.fGspRunning = true ∧ s.driver.fDmaBuf = some page)) := by
  intro s
  have begun : Housed env.bringup.arenaTold (launched env card) :=
    ⟨(start_kept env card).1, (start_kept env card).2⟩
  have housed : Housed env.bringup.arenaTold s :=
    @run_kept _ _ step _ (Housed env.bringup.arenaTold)
      (fun _ action here => step_housed here action) actions begun
  refine ⟨housed.kept.sound.once, fun page lent => (housed.kept.sound.lentKept page lent).2,
    fun running => ?_, fun down => (housed.settled down).rest⟩
  obtain ⟨arena, buffer⟩ := Option.isSome_iff_exists.mp (housed.kept.running running)
  have known := housed.kept.arena arena buffer
  exact ⟨arena, buffer, (housed.kept.sound.heldKept arena (.inl buffer)).2,
    known.trans (and_iff_right running)⟩

end Memory

end GspDriver.DriverRuns
