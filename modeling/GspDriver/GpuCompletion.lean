import GspDriver.BringupVram
import GspDriver.GpuProgress

/-!
When a copy is complete. At most one entry is on its way at any time: a call
begins only while the context is good, and then the GPU has gone through every
entry. The semaphore is cleared before the entry is published, so the payload
appears in it only when the GPU releases it for that entry, unless the copy
itself reaches the semaphore.
-/

namespace GspDriver.GpuCompletion

open Bytes LittleEndian Words Pramin GspFifo GpuCopy GpuSubmission GpuProgress BringupVram

def InPhase (translate : Nat → Option Nat) (s : System) (call : Call) : Prop :=
  match call.phase with
  | .writing todo => Preparing s call todo
  | .ringing => Published translate s call
  | .waiting _ => Published translate s call

structure Calling (translate : Nat → Option Nat) (s : System) (call : Call) : Prop where
  ok : s.ctx.ok = true
  object : call.setObj = if s.ctx.objectBound then 0 else s.ctx.classEngineId
  payload : call.payload ≠ 0
  spares : SparesSemaphore translate s.ctx.toWiring call.req
  phase : InPhase translate s call

/-- The copy of this very call is complete. -/
def Performed (s : System) (r : Return) : Prop :=
  ∃ launch sub, s.completed[r.own]? = some launch ∧ s.submitted[r.own]? = some sub ∧
    sub.launch = some launch ∧ launch.src = r.req.srcVa.toNat % 2 ^ 49 ∧
    launch.dst = r.req.dstVa.toNat % 2 ^ 49 ∧ launch.bytes = r.req.bytes

def TimedOut (r : Return) : Prop := r.rc ≠ 0 ∧ r.own < r.upto

structure Standing (w : Wiring) (s : System) : Prop where
  wiring : s.ctx.toWiring = w
  coherent : Coherent s.dev
  gpPut : s.ctx.gpPut.toNat < w.ringEntries.toNat
  bound : s.ctx.objectBound = true → s.completed ≠ []
  named : s.ctx.ok = true → w.classEngineId ≠ 0
  objects : ∀ sub ∈ s.submitted, sub.completed = 0 →
    ∃ launch, sub.launch = some launch ∧ launch.object = some w.classEngineId
  few : s.submitted.length ≤ s.completed.length + 1

structure SystemInv (translate : Nat → Option Nat) (w : Wiring) (s : System) : Prop
    extends Standing w s where
  returned : ∀ r ∈ s.returns, r.rc = 0 → Performed s r
  lost : ∀ r ∈ s.returns, TimedOut r →
    s.ctx.ok = false ∧ s.call = none ∧ s.submitted.length = r.upto
  resting : s.call = none → s.ctx.ok = true → Idle s
  calling : ∀ call, s.call = some call → Calling translate s call

section Gpu

variable {translate : Nat → Option Nat} {s t : System}

/-- What the GPU leaves alone. -/
theorem gpu_keeps (acts : GpuStep translate s t) :
    t.ctx = s.ctx ∧ t.call = s.call ∧ t.submitted = s.submitted ∧ t.returns = s.returns ∧
      (∃ more, t.completed = s.completed ++ more) ∧ (Coherent s.dev → Coherent t.dev) := by
  cases acts with
  | take launch => exact ⟨rfl, rfl, rfl, rfl, ⟨[], (List.append_nil _).symm⟩, id⟩
  | move work i source place =>
      exact ⟨rfl, rfl, rfl, rfl, ⟨[], (List.append_nil _).symm⟩, id⟩
  | release work place => exact ⟨rfl, rfl, rfl, rfl, ⟨[work.launch], rfl⟩, id⟩

theorem performed_grows {r : Return} {more : List Launch} (performed : Performed s r)
    (grows : t.completed = s.completed ++ more) (same : t.submitted = s.submitted) :
    Performed t r := by
  obtain ⟨launch, sub, finished, rest⟩ := performed
  refine ⟨launch, sub, ?_, by rw [same]; exact rest⟩
  rw [grows]
  exact List.getElem?_append_left (List.getElem?_eq_some_iff.mp finished).1 ▸ finished

theorem gpu_inv {w : Wiring} (wired : Wired translate w) (inv : SystemInv translate w s)
    (acts : GpuStep translate s t) : SystemInv translate w t := by
  obtain ⟨ctx, call, submitted, returns, ⟨more, completed⟩, coherent⟩ := gpu_keeps acts
  have here : Wired translate s.ctx.toWiring := inv.wiring.symm ▸ wired
  refine ⟨⟨ctx ▸ inv.wiring, coherent inv.coherent, ctx ▸ inv.gpPut, ?_, ctx ▸ inv.named,
    submitted ▸ inv.objects, ?_⟩, ?_, ?_, ?_, ?_⟩
  · intro bound
    have some := inv.bound (ctx ▸ bound)
    rw [completed]
    exact List.append_ne_nil_of_left_ne_nil some more
  · have few := inv.few
    rw [submitted, completed, List.length_append]
    omega
  · intro r member passed
    exact performed_grows (inv.returned r (returns ▸ member) passed) completed submitted
  · intro r member lost
    have last := inv.lost r (returns ▸ member) lost
    rw [ctx, call, submitted]
    exact last
  -- Between calls the GPU has caught up and cannot act.
  · intro rest ok
    exact absurd acts (idle_still (inv.resting (call ▸ rest) (ctx ▸ ok)))
  · intro c active
    obtain ⟨ok, object, payload, spares, phase⟩ := inv.calling c (call ▸ active)
    refine ⟨ctx ▸ ok, ctx ▸ object, payload, ctx ▸ spares, ?_⟩
    rw [InPhase] at phase ⊢
    split at phase
    · exact absurd acts (idle_still phase.idle)
    · exact published_gpu here spares phase acts
    · exact published_gpu here spares phase acts

end Gpu

section Host

variable {translate : Nat → Option Nat} {w : Wiring} {s : System}

theorem finish_inv (standing : Standing w s) {req : Request} {own : Nat} {rc : Int}
    (resting : s.ctx.ok = true → Idle s)
    (returned : ∀ r ∈ s.returns, r.rc = 0 → Performed s r)
    (lost : ∀ r ∈ s.returns, TimedOut r → s.ctx.ok = false ∧ s.submitted.length = r.upto)
    (performed : rc = 0 → Performed s ⟨req, own, s.submitted.length, rc⟩)
    (failed : rc ≠ 0 → own < s.submitted.length → s.ctx.ok = false) :
    SystemInv translate w (finish s req own rc) := by
  refine ⟨⟨standing.wiring, standing.coherent, standing.gpPut, standing.bound, standing.named,
    standing.objects, standing.few⟩, ?_, ?_, ?_, ?_⟩
  · intro r member passed
    rcases List.mem_cons.mp member with rfl | older
    · exact performed passed
    · exact returned r older passed
  · intro r member out
    rcases List.mem_cons.mp member with rfl | older
    · exact ⟨failed out.1 out.2, rfl, rfl⟩
    · exact ⟨(lost r older out).1, rfl, (lost r older out).2⟩
  · intro _ ok
    have idle := resting ok
    exact ⟨idle.free, idle.caught, idle.word, idle.even⟩
  · intro call active
    cases active

/-- While a call is in progress no earlier call has timed out. -/
theorem none_lost (inv : SystemInv translate w s) {call : Call} (active : s.call = some call)
    {r : Return} (member : r ∈ s.returns) : ¬ TimedOut r := by
  intro out
  have idle := (inv.lost r member out).2.1
  rw [active] at idle
  cases idle

theorem payload_nonzero (seq : UInt32) : (0xc0de0000 ||| (seq &&& 0xffff) : UInt32) ≠ 0 := by
  intro zero
  have both := UInt32.toNat_inj.mpr zero
  rw [UInt32.toNat_or] at both
  have part := Nat.left_le_or (m := (seq &&& 0xffff).toNat) (n := (0xc0de0000 : UInt32).toNat)
  rw [both] at part
  exact absurd part (by decide)

theorem refuse_inv (inv : SystemInv translate w s) (idle : s.call = none) (req : Request) :
    SystemInv translate w (finish s req s.submitted.length (-1)) := by
  apply finish_inv inv.toStanding (inv.resting idle) inv.returned
  · intro r member out
    have lost := inv.lost r member out
    exact ⟨lost.1, lost.2.2⟩
  · intro passed
    exact absurd passed (by decide)
  · intro _ below
    exact absurd below (Nat.lt_irrefl _)

theorem start_inv (inv : SystemInv translate w s) (idle : s.call = none) (req : Request)
    (spares : SparesSemaphore translate w req) : SystemInv translate w (start s req) := by
  by_cases refused : s.ctx.ok = false ∨ req.bytes = 0
  · rw [start, if_pos refused]
    exact refuse_inv inv idle req
  by_cases empty : s.ctx.ringEntries = 0
  · rw [start, if_neg refused, if_pos empty]
    exact refuse_inv inv idle req
  · rw [not_or, Bool.not_eq_false] at refused
    obtain ⟨ok, some⟩ := refused
    have quiet := inv.resting idle ok
    rw [start_begins ok some empty]
    refine ⟨⟨inv.wiring, inv.coherent, inv.gpPut, inv.bound, inv.named, inv.objects, inv.few⟩,
      inv.returned, ?_, ?_, ?_⟩
    · intro r member out
      have lost := (inv.lost r member out).1
      rw [ok] at lost
      cases lost
    · intro rest
      cases rest
    · intro call active
      obtain rfl := Option.some.inj active
      refine ⟨ok, rfl, payload_nonzero _, ?_, rfl, ?_, [], rfl, ?_⟩
      · change SparesSemaphore translate s.ctx.toWiring req
        rw [inv.wiring]
        exact spares
      · exact ⟨quiet.free, quiet.caught, quiet.word, quiet.even⟩
      · intro write member
        cases member

/-- A turn of the host that leaves the call in progress. -/
theorem turn_inv {t : System} (inv : SystemInv translate w s) {call next : Call}
    (active : s.call = some call) (standing : Standing w t) (returns : t.returns = s.returns)
    (performed : ∀ r ∈ s.returns, r.rc = 0 → Performed t r) (now : t.call = some next)
    (calling : Calling translate t next) : SystemInv translate w t := by
  refine ⟨standing, ?_, ?_, ?_, ?_⟩
  · rw [returns]
    exact performed
  · rw [returns]
    intro r member out
    exact absurd out (none_lost inv active member)
  · intro rest
    rw [now] at rest
    cases rest
  · intro other there
    obtain rfl := Option.some.inj (now.symm.trans there)
    exact calling

theorem write_inv (wired : Wired translate w) (inv : SystemInv translate w s) {call : Call}
    (active : s.call = some call) {phys : UInt64} {val : UInt32}
    {todo : List (UInt64 × UInt32)} (phase : call.phase = .writing ((phys, val) :: todo)) :
    SystemInv translate w { s with
      dev := nvPraminWr32 s.dev phys val
      call := some { call with phase := .writing todo } } := by
  have here : Wired translate s.ctx.toWiring := inv.wiring.symm ▸ wired
  obtain ⟨ok, object, payload, spares, stage⟩ := inv.calling call active
  rw [InPhase, phase] at stage
  obtain ⟨coherent, preparing⟩ := preparing_write here inv.coherent stage
  exact turn_inv inv active
    ⟨inv.wiring, coherent, inv.gpPut, inv.bound, inv.named, inv.objects, inv.few⟩ rfl
    inv.returned rfl ⟨ok, object, payload, spares, preparing⟩

theorem publish_inv (wired : Wired translate w) (inv : SystemInv translate w s) {call : Call}
    (active : s.call = some call) (phase : call.phase = .writing []) :
    SystemInv translate w (publish translate s call) := by
  have here : Wired translate s.ctx.toWiring := inv.wiring.symm ▸ wired
  have low : s.ctx.gpPut.toNat < s.ctx.ringEntries.toNat := inv.wiring.symm ▸ inv.gpPut
  obtain ⟨ok, object, payload, spares, stage⟩ := inv.calling call active
  rw [InPhase, phase] at stage
  have even := stage.idle.even
  obtain ⟨coherent, first, _, published⟩ := preparing_publish here inv.coherent low stage
  refine turn_inv inv active ⟨inv.wiring, coherent, ?_, inv.bound, inv.named, ?_, ?_⟩ rfl ?_ rfl
    ⟨ok, object, payload, spares, published⟩
  · rw [publish_gpPut, UInt32.toNat_mod, inv.wiring]
    exact Nat.mod_lt _ wired.entries.1
  · intro sub member none
    rw [publish_submitted] at member
    rcases List.mem_append.mp member with older | new
    · exact inv.objects sub older none
    · -- nothing is complete, so no object was bound before
      obtain rfl := List.mem_singleton.mp new
      have unbound : s.ctx.objectBound = false := by
        rw [← Bool.not_eq_true]
        intro bound
        exact inv.bound bound (List.eq_nil_of_length_eq_zero none)
      have named := inv.named ok
      have same : s.ctx.classEngineId = w.classEngineId := by rw [inv.wiring]
      refine ⟨launchFor s.ctx.toWiring call, first, ?_⟩
      rw [launchFor, object, unbound, same]
      exact if_pos named
  · rw [publish_submitted, publish_completed, List.length_append, List.length_singleton, even]
  · intro r member passed
    obtain ⟨launch, sub, finished, entry, rest⟩ := inv.returned r member passed
    refine ⟨launch, sub, finished, ?_, rest⟩
    rw [publish_submitted]
    exact List.getElem?_append_left (List.getElem?_eq_some_iff.mp entry).1 ▸ entry

theorem ring_inv (inv : SystemInv translate w s) {call : Call} (active : s.call = some call)
    (phase : call.phase = .ringing) : SystemInv translate w (ring s call) := by
  obtain ⟨ok, object, payload, spares, stage⟩ := inv.calling call active
  rw [InPhase, phase] at stage
  have coherent : Coherent (ring s call).dev := by
    rw [ring, doorbell_rings]
    exact inv.coherent
  exact turn_inv inv active
    ⟨inv.wiring, coherent, inv.gpPut, inv.bound, inv.named, inv.objects, inv.few⟩ rfl
    inv.returned rfl ⟨ok, object, payload, spares, published_ring stage⟩

theorem poll_inv (wired : Wired translate w) (inv : SystemInv translate w s) {call : Call}
    (active : s.call = some call) {left : Nat} (phase : call.phase = .waiting (left + 1)) :
    SystemInv translate w (poll s call left) := by
  have here : Wired translate s.ctx.toWiring := inv.wiring.symm ▸ wired
  obtain ⟨ok, object, payload, spares, stage⟩ := inv.calling call active
  rw [InPhase, phase] at stage
  obtain ⟨value, vram, coherent⟩ := read_word inv.coherent (sem_reached here)
  rw [poll, value]
  by_cases hit : ld32 s.dev.io.vram s.ctx.semPhys.toNat = call.payload
  · rw [if_pos hit]
    obtain ⟨own, word, ⟨sub, entry, ours⟩, underway⟩ := stage
    -- The semaphore was cleared for this call, and only its release holds the payload.
    cases underway with
    | pending free next fetched cleared behind =>
        exact absurd (hit.symm.trans cleared) payload
    | running moved busy caught cleared behind =>
        exact absurd (hit.symm.trans cleared) payload
    | finished earlier free caught done even =>
        have last : s.completed[call.own]? = some (launchFor s.ctx.toWiring call) := by
          have count : call.own = earlier.length := by
            rw [done, List.length_append, List.length_singleton, own] at even
            omega
          rw [done, count]
          exact List.getElem?_concat_length
        apply finish_inv
        · refine ⟨inv.wiring, coherent, inv.gpPut, ?_, inv.named, inv.objects, inv.few⟩
          intro _
          rw [done]
          exact List.append_ne_nil_of_right_ne_nil _ (List.cons_ne_nil _ _)
        · intro _
          refine ⟨free, caught, ?_, even⟩
          change ld32 (nvPraminRd32 s.dev s.ctx.semPhys).2.io.vram _ = _
          rw [vram]
          exact word
        · exact inv.returned
        · intro r member out
          exact absurd out (none_lost inv active member)
        · intro _
          exact ⟨_, sub, last, entry, ours, rfl, rfl, rfl⟩
        · intro failed
          exact absurd rfl failed
  · rw [if_neg hit]
    exact turn_inv inv active
      ⟨inv.wiring, coherent, inv.gpPut, inv.bound, inv.named, inv.objects, inv.few⟩ rfl
      inv.returned rfl ⟨ok, object, payload, spares,
        published_congr stage vram rfl rfl rfl rfl rfl rfl rfl⟩

theorem giveUp_inv (wired : Wired translate w) (inv : SystemInv translate w s) {call : Call}
    (active : s.call = some call) : SystemInv translate w (giveUp s call) := by
  have here : Wired translate s.ctx.toWiring := inv.wiring.symm ▸ wired
  obtain ⟨_, vram, coherent⟩ := read_word inv.coherent (sem_reached here)
  -- The context is no longer ok, so what is asked of one that rests is vacuous.
  apply finish_inv
  · refine ⟨inv.wiring, coherent, inv.gpPut, inv.bound, ?_, inv.objects, inv.few⟩
    intro ok
    cases ok
  · intro ok
    cases ok
  · exact inv.returned
  · intro r member out
    exact absurd out (none_lost inv active member)
  · intro passed
    exact absurd passed (by decide)
  · intro _ _
    rfl

theorem aim_inv (inv : SystemInv translate w s) (idle : s.call = none) {winBase : UInt64}
    (coherent : Coherent { s.dev with winBase := winBase }) :
    SystemInv translate w { s with dev := { s.dev with winBase := winBase } } := by
  refine ⟨⟨inv.wiring, coherent, inv.gpPut, inv.bound, inv.named, inv.objects, inv.few⟩,
    inv.returned, inv.lost, ?_, ?_⟩
  · intro rest ok
    have quiet := inv.resting rest ok
    exact ⟨quiet.free, quiet.caught, quiet.word, quiet.even⟩
  · intro call active
    rw [show s.call = some call from active] at idle
    cases idle

theorem host_inv (wired : Wired translate w) (inv : SystemInv translate w s) {call : Call}
    (active : s.call = some call) : SystemInv translate w (hostTurn translate s call) := by
  rw [hostTurn]
  split
  · rename_i phys val todo phase
    exact write_inv wired inv active phase
  · rename_i phase
    exact publish_inv wired inv active phase
  · rename_i phase
    exact ring_inv inv active phase
  · rename_i left phase
    exact poll_inv wired inv active phase
  · exact giveUp_inv wired inv active

end Host

section Runs

variable {translate : Nat → Option Nat} {w : Wiring} {s t : System}

theorem step_inv (wired : Wired translate w) (inv : SystemInv translate w s)
    (step : Step translate (SparesSemaphore translate w) s t) : SystemInv translate w t := by
  cases step with
  | call req winBase idle admitted coherent =>
      exact start_inv (aim_inv inv idle coherent) idle req admitted
  | host call active => exact host_inv wired inv active
  | gpu _ acts => exact gpu_inv wired inv acts

theorem reaches_inv (wired : Wired translate w) (inv : SystemInv translate w s)
    (reaches : Reaches translate (SparesSemaphore translate w) s t) :
    SystemInv translate w t := by
  induction reaches with
  | refl => exact inv
  | tail _ step ih => exact step_inv wired ih step

/-- Where the bring-up puts the region of the context and USERD, and what its
page tables map. -/
structure Placed (translate : Nat → Option Nat) (vphys userdPhys : UInt64) : Prop where
  inside : vphys.toNat + 0x3000 ≤ reach
  userd : userdPhys.toNat + 0x90 ≤ reach
  apart : userdPhys.toNat + 0x90 ≤ vphys.toNat ∨ vphys.toNat + 0x3000 ≤ userdPhys.toNat + 0x8c
  mapped : ∀ off < 0x3000, translate (0x20000000 + off) = some (vphys.toNat + off)
  hidden : ∀ va place, translate va = some place →
    place < userdPhys.toNat + 0x8c ∨ userdPhys.toNat + 0x90 ≤ place

/-- The bring-up is over. A good context comes with a GPU that has gone through
the one entry of the bring-up. -/
structure HandedOver (translate : Nat → Option Nat) (s : System) : Prop where
  context : ∃ vphys userdPhys chid runlist classEngineId execOk ceObjOk,
    Placed translate vphys userdPhys ∧
      s.ctx = handOver vphys userdPhys chid runlist classEngineId execOk ceObjOk
  idle : s.ctx.ok = true → s.gpu.work = none ∧ s.gpu.get = s.ctx.gpPut ∧
    gpPutWord s.ctx.toWiring s.vram = s.ctx.gpPut
  coherent : Coherent s.dev
  call : s.call = none
  submitted : s.submitted = []
  completed : s.completed = []
  returns : s.returns = []

theorem handOver_wired {vphys userdPhys : UInt64} (placed : Placed translate vphys userdPhys)
    (chid runlist classEngineId : UInt32) (execOk ceObjOk : Bool) :
    Wired translate
      (handOver vphys userdPhys chid runlist classEngineId execOk ceObjOk).toWiring where
  entries := show 0 < gpfifoEntries.toNat ∧ gpfifoEntries.toNat ≤ 0x200 by decide
  near := show nv90f1CopyPdesPagesizeDefault.toNat + 0x3000 ≤ 2 ^ 40 by decide
  aligned := show 4 ∣ nv90f1CopyPdesPagesizeDefault.toNat by decide
  pbVa := show (nv90f1CopyPdesPagesizeDefault + 0x1000).toNat =
    nv90f1CopyPdesPagesizeDefault.toNat + 0x1000 by decide
  semVa := show (nv90f1CopyPdesPagesizeDefault + 0x2000).toNat =
    nv90f1CopyPdesPagesizeDefault.toNat + 0x2000 by decide
  inside := placed.inside
  pbPhys := by
    have room := placed.inside
    simp only [reach] at room
    exact add_toNat (by simp only [UInt64.reduceToNat]; omega)
  semPhys := by
    have room := placed.inside
    simp only [reach] at room
    exact add_toNat (by simp only [UInt64.reduceToNat]; omega)
  userd := placed.userd
  apart := placed.apart
  mapped := placed.mapped
  hidden := placed.hidden

theorem handed_wired (handed : HandedOver translate s) : Wired translate s.ctx.toWiring := by
  obtain ⟨vphys, userdPhys, chid, runlist, classEngineId, execOk, ceObjOk, placed, context⟩ :=
    handed.context
  rw [context]
  exact handOver_wired placed chid runlist classEngineId execOk ceObjOk

theorem handed_inv (handed : HandedOver translate s) :
    SystemInv translate s.ctx.toWiring s := by
  obtain ⟨vphys, userdPhys, chid, runlist, classEngineId, execOk, ceObjOk, placed, context⟩ :=
    handed.context
  refine ⟨⟨rfl, handed.coherent, ?_, ?_, ?_, ?_, ?_⟩, ?_, ?_, ?_, ?_⟩
  · rw [context]
    exact show (1 % gpfifoEntries).toNat < gpfifoEntries.toNat by decide
  · rw [context]
    intro bound
    cases bound
  · rw [context]
    intro ok
    have parts : (execOk && ceObjOk && classEngineId != 0) = true := ok
    rw [Bool.and_eq_true, bne_iff_ne] at parts
    exact parts.2
  · rw [handed.submitted]
    intro sub member
    cases member
  · rw [handed.submitted]
    exact Nat.zero_le _
  · rw [handed.returns]
    intro r member
    cases member
  · rw [handed.returns]
    intro r member
    cases member
  · intro _ ok
    obtain ⟨free, caught, word⟩ := handed.idle ok
    exact ⟨free, caught, word, by rw [handed.submitted, handed.completed]; rfl⟩
  · intro call active
    rw [handed.call] at active
    cases active

/-- What a caller may rely on. `Performed` says that the copy of that very call
is complete; a wait ends only after the last submission is; after a timeout
nothing is submitted; and the object is named until a copy is complete. -/
structure Sound (s : System) : Prop where
  performed : ∀ r ∈ s.returns, r.rc = 0 → Performed s r
  waited : ∀ call left, s.call = some call → call.phase = .waiting left →
    semWord s.ctx.toWiring s.vram = call.payload → s.completed.length = call.own + 1
  lost : ∀ r ∈ s.returns, TimedOut r → s.submitted.length = r.upto
  single : s.submitted.length ≤ s.completed.length + 1
  slot : s.ctx.gpPut.toNat < s.ctx.ringEntries.toNat
  object : ∀ sub ∈ s.submitted, sub.completed = 0 →
    ∃ launch, sub.launch = some launch ∧ launch.object = some s.ctx.classEngineId

theorem waited_own {call : Call} (payload : call.payload ≠ 0)
    (published : Published translate s call)
    (hit : semWord s.ctx.toWiring s.vram = call.payload) :
    s.completed.length = call.own + 1 := by
  obtain ⟨own, word, entry, underway⟩ := published
  cases underway with
  | pending free next fetched cleared behind => exact absurd (hit.symm.trans cleared) payload
  | running moved busy caught cleared behind => exact absurd (hit.symm.trans cleared) payload
  | finished earlier free caught done even => rw [even, own]

/-- Unless a copy is sent over the semaphore itself, every run keeps all of it. -/
theorem copies_sound (handed : HandedOver translate s)
    (run : Reaches translate (SparesSemaphore translate s.ctx.toWiring) s t) : Sound t := by
  have inv := reaches_inv (handed_wired handed) (handed_inv handed) run
  refine ⟨inv.returned, ?_, ?_, inv.few, ?_, ?_⟩
  · intro call left active phase hit
    obtain ⟨_, _, payload, _, stage⟩ := inv.calling call active
    rw [InPhase, phase] at stage
    exact waited_own payload stage hit
  · intro r member out
    exact (inv.lost r member out).2.2
  · rw [inv.wiring]
    exact inv.gpPut
  · rw [inv.wiring]
    exact inv.objects

end Runs

/-! The bring-up without an external address space maps its one MiB from
512 MiB on. -/

def regionAt (vphys va : Nat) : Option Nat :=
  if 0x20000000 ≤ va ∧ va < 0x20100000 then some (vphys + (va - 0x20000000)) else none

theorem region_maps (vphys va off : Nat) (here : va = 0x20000000 + off)
    (inside : off < 0x100000) : regionAt vphys va = some (vphys + off) := by
  rw [regionAt, if_pos (by omega), here, Nat.add_sub_cancel_left]

/-- USERD is the eighth of the areas that the bring-up lays out. -/
theorem userd_place {vphys userdPhys : UInt64} (aligned : 2 ^ 20 ∣ vphys.toNat)
    (inside : vphys.toNat + 0x117000 ≤ reach)
    (userd : (memoryAreas vphys)[7]? = some ⟨userdPhys, 0x200⟩) :
    userdPhys.toNat = vphys.toNat + 0x111000 := by
  have spans := congrArg (fun spans => spans[7]?) (memory_spans aligned)
  rw [List.getElem?_map, userd] at spans
  have first : userdPhys.toNat = (vphys.toNat + 0x111000) % 2 ^ 64 :=
    congrArg Prod.fst (Option.some.inj spans)
  simp only [reach] at inside
  omega

/-- The layout of the bring-up keeps USERD away from what the GPU can address. -/
theorem bringup_placed {vphys userdPhys : UInt64} (aligned : 2 ^ 20 ∣ vphys.toNat)
    (inside : vphys.toNat + 0x117000 ≤ reach)
    (userd : (memoryAreas vphys)[7]? = some ⟨userdPhys, 0x200⟩) :
    Placed (regionAt vphys.toNat) vphys userdPhys := by
  have place := userd_place aligned inside userd
  refine ⟨by omega, by omega, by omega, ?_, ?_⟩
  · intro off low
    exact region_maps _ _ off rfl (by omega)
  · intro va here leads
    rw [regionAt] at leads
    split at leads
    · have same := Option.some.inj leads
      omega
    · cases leads

/-! A bring-up that chose 256 MiB, and copies of eight bytes. -/

def regionAt256 : Nat → Option Nat := regionAt 0x10000000

def broughtUp : System where
  dev := { io := { window := 0, regs := fun _ => 0, vram := st32 (fun _ => 0) 0x1011108c 1
                   accesses := [] }
           winBase := ~~~0 }
  ctx := handOver 0x10000000 0x10111000 1 2 0xc7b5 true true
  gpu := { get := 1, rung := false, work := none }
  call := none
  submitted := []
  completed := []
  returns := []

theorem userd_listed (vphys : UInt64) : (memoryAreas vphys)[7]? =
    some ⟨((vphys + vsize + 0xfff) &&& ~~~0xfff) + 0x10000 + 0x1000, 0x200⟩ := rfl

theorem region_placed : Placed regionAt256 0x10000000 0x10111000 := by
  have base : (((0x10000000 + vsize + 0xfff) &&& ~~~0xfff) + 0x10000 + 0x1000 : UInt64) =
      0x10111000 := by decide
  have value : (0x10000000 : UInt64).toNat = 0x10000000 := by decide
  have placed := bringup_placed (by decide) (by decide) (userd_listed 0x10000000)
  rw [base, value] at placed
  exact placed

theorem brought_up : HandedOver regionAt256 broughtUp where
  context := ⟨_, _, _, _, _, _, _, region_placed, rfl⟩
  idle := by
    intro _
    refine ⟨rfl, rfl, ?_⟩
    exact ld32_st32 _ _ _
  coherent := Or.inl rfl
  call := rfl
  submitted := rfl
  completed := rfl
  returns := rfl

/-- The GPU has taken an eight-byte copy between two places of the region, and
moved `count` bytes of it. -/
theorem copy_partly (admits : Request → Prop) (srcVa dstVa : UInt64) (timeoutMs : UInt32)
    (source place count : Nat) (src : srcVa.toNat = 0x20000000 + source)
    (dst : dstVa.toNat = 0x20000000 + place) (near : source + 8 ≤ 0x100000 ∧ place + 8 ≤ 0x100000)
    (admitted : admits ⟨srcVa, dstVa, 8, timeoutMs⟩) (few : count ≤ 8)
    (apart : source + count ≤ place ∨ place + count ≤ source) :
    ∃ t, Reaches regionAt256 admits broughtUp
        (partly t (launchFor broughtUp.ctx.toWiring (begun broughtUp ⟨srcVa, dstVa, 8, timeoutMs⟩))
          (0x10000000 + source) (0x10000000 + place) count) ∧
      Taken broughtUp t ⟨srcVa, dstVa, 8, timeoutMs⟩ := by
  have wired := handed_wired brought_up
  have idle : Idle broughtUp := ⟨rfl, rfl, ld32_st32 _ _ _, rfl⟩
  have several : 2 ≤ gpfifoEntries.toNat := by decide
  have low : (1 % gpfifoEntries).toNat < gpfifoEntries.toNat := by decide
  have bytes : (8 : UInt32) ≠ 0 := by decide
  obtain ⟨t, begins, taken⟩ : ∃ t, Reaches regionAt256 admits broughtUp t ∧
      Taken broughtUp t ⟨srcVa, dstVa, 8, timeoutMs⟩ :=
    copy_begins admits wired (Or.inl rfl) several low rfl rfl idle bytes admitted
  refine ⟨t, begins.trans (moves_reach admits taken.busy count few ?_ ?_ (by omega)), taken⟩
  -- Both places lie in the mapped region, at the same offsets as their addresses.
  · intro i below
    have low : srcVa.toNat % 2 ^ 49 = 0x20000000 + source := by omega
    have maps := region_maps 0x10000000 (srcVa.toNat % 2 ^ 49 + i) (source + i) (by omega)
      (by omega)
    rw [← Nat.add_assoc] at maps
    exact maps
  · intro i below
    have low : dstVa.toNat % 2 ^ 49 = 0x20000000 + place := by omega
    have maps := region_maps 0x10000000 (dstVa.toNat % 2 ^ 49 + i) (place + i) (by omega)
      (by omega)
    rw [← Nat.add_assoc] at maps
    exact maps

/-- The fourth byte on is the payload that the copy will release. -/
def payloadCopy : Request := ⟨0x20001014, 0x20002000, 8, 1⟩

def dataCopy : Request := ⟨0x20003000, 0x20004000, 8, 1⟩

theorem payload_word {t : System} (taken : Taken broughtUp t payloadCopy) :
    ld32 t.vram 0x10001014 = (begun broughtUp payloadCopy).payload := by
  have place : (broughtUp.ctx.pbPhys + (UInt32.ofNat 5 * 4).toUInt64).toNat = 0x10001014 := by
    decide
  have word := taken.held _ (mem_submission.mpr (Or.inr (Or.inl ⟨5, by decide, rfl⟩)))
  rw [place] at word
  exact word

/-- The copy moves the payload out of its own pushbuffer into the semaphore,
and the call returns before the GPU is done. -/
theorem copy_over_semaphore : HandedOver regionAt256 broughtUp ∧
    ∃ s, Reaches regionAt256 (fun _ => True) broughtUp s ∧ s.completed = [] ∧
      ∃ r ∈ s.returns, r.rc = 0 := by
  refine ⟨brought_up, ?_⟩
  obtain ⟨t, reaches, taken⟩ := copy_partly (fun _ => True) 0x20001014 0x20002000 1 0x1014
    0x2000 4 (by decide) (by decide) (by omega) trivial (by omega) (by omega)
  have wired := handed_wired brought_up
  rw [← taken.wiring] at wired
  have place : t.ctx.semPhys.toNat = 0x10002000 := by
    rw [taken.wiring]
    decide
  have hit : semWord t.ctx.toWiring (partly t (launchFor broughtUp.ctx.toWiring
      (begun broughtUp payloadCopy)) 0x10001014 0x10002000 4).vram =
        (begun broughtUp payloadCopy).payload := by
    rw [semWord, place, partly_word]
    exact payload_word taken
  have polls : (ticks payloadCopy).toNat = 49 + 1 := by decide
  obtain ⟨s, step, completed, returns⟩ := poll_hits (fun _ => True)
    (s := partly t (launchFor broughtUp.ctx.toWiring (begun broughtUp payloadCopy)) 0x10001014
      0x10002000 4) wired taken.coherent taken.active (congrArg Phase.waiting polls) hit
  refine ⟨s, reaches.tail step, completed.trans taken.completed, ?_⟩
  rw [returns]
  exact ⟨_, List.mem_cons_self, rfl⟩

theorem data_spares : SparesSemaphore regionAt256 broughtUp.ctx.toWiring dataCopy := by
  intro i inside place leads
  have near : i < 8 := inside
  have low : dataCopy.dstVa.toNat % 2 ^ 49 = 0x20004000 := by decide
  have sem : broughtUp.ctx.semPhys.toNat = 0x10002000 := by decide
  rw [low, regionAt256, region_maps _ _ (0x4000 + i) (by omega) (by omega)] at leads
  have here := Option.some.inj leads
  rw [sem]
  omega

/-- The copy of `dataCopy` with all its bytes moved. -/
def dataWork : Work where
  launch := launchFor broughtUp.ctx.toWiring (begun broughtUp dataCopy)
  moved := (List.range 8).reverse

theorem copies_sound_one_copy : ∃ s,
    Reaches regionAt256 (SparesSemaphore regionAt256 broughtUp.ctx.toWiring) broughtUp s ∧
      (∃ r ∈ s.returns, r.rc = 0) ∧ Sound s := by
  obtain ⟨t, reaches, taken⟩ := copy_partly
    (SparesSemaphore regionAt256 broughtUp.ctx.toWiring) 0x20003000 0x20004000 1 0x3000 0x4000 8
    (by decide) (by decide) (by omega) data_spares (by omega) (by omega)
  have wired := handed_wired brought_up
  rw [← taken.wiring] at wired
  have place : t.ctx.semPhys.toNat = 0x10002000 := by
    rw [taken.wiring]
    decide
  have target : regionAt256 (launchFor broughtUp.ctx.toWiring (begun broughtUp dataCopy)).sem =
      some 0x10002000 := by decide
  have releases : GpuStep regionAt256 (partly t (launchFor broughtUp.ctx.toWiring
      (begun broughtUp dataCopy)) 0x10003000 0x10004000 8) _ :=
    .release _ dataWork 0x10002000 rfl
      (fun i below => List.mem_reverse.mpr (List.mem_range.mpr below)) target
  have hit : ld32 (release (partly t (launchFor broughtUp.ctx.toWiring
      (begun broughtUp dataCopy)) 0x10003000 0x10004000 8) dataWork 0x10002000).vram
        t.ctx.semPhys.toNat = (begun broughtUp dataCopy).payload := by
    rw [place]
    exact ld32_st32 _ _ _
  have polls : (ticks dataCopy).toNat = 49 + 1 := by decide
  have done := (reaches.tail (.gpu _ _ releases))
  obtain ⟨s, step, _, returns⟩ := poll_hits
    (SparesSemaphore regionAt256 broughtUp.ctx.toWiring)
    (s := release (partly t (launchFor broughtUp.ctx.toWiring (begun broughtUp dataCopy))
      0x10003000 0x10004000 8) dataWork 0x10002000)
    wired taken.coherent taken.active (congrArg Phase.waiting polls) hit
  refine ⟨s, done.tail step, ?_, copies_sound brought_up (done.tail step)⟩
  rw [returns]
  exact ⟨_, List.mem_cons_self, rfl⟩

end GspDriver.GpuCompletion
