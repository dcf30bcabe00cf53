import GspDriver.GpuSubmission

/-!
How far one submission is. While the host writes it, the GPU has nothing to do;
once GP_PUT has moved, the GPU takes the entry, moves the bytes and releases the
semaphore, which is clear until then unless the copy itself reaches it.
-/

namespace GspDriver.GpuProgress

open Bytes LittleEndian Words Pramin GspFifo GpuCopy GpuSubmission

/-- No byte of the destination is a byte of the semaphore. -/
def SparesSemaphore (translate : Nat → Option Nat) (w : Wiring) (req : Request) : Prop :=
  ∀ i < req.bytes.toNat, ∀ place, translate (req.dstVa.toNat % 2 ^ 49 + i) = some place →
    place < w.semPhys.toNat ∨ w.semPhys.toNat + 4 ≤ place

def semWord (w : Wiring) (m : Mem) : UInt32 := ld32 m w.semPhys.toNat

/-- The GPU has nothing to do. -/
structure Idle (s : System) : Prop where
  free : s.gpu.work = none
  caught : s.gpu.get = s.ctx.gpPut
  word : gpPutWord s.ctx.toWiring s.vram = s.ctx.gpPut
  even : s.completed.length = s.submitted.length

/-- How far the GPU is with the one entry on its way. -/
inductive Underway (translate : Nat → Option Nat) (s : System) (launch : Launch) : Prop
  | pending (free : s.gpu.work = none)
      (next : (s.gpu.get + 1) % s.ctx.ringEntries = s.ctx.gpPut)
      (fetched : fetch translate s.ctx.toWiring s.vram s.gpu.get = some launch)
      (cleared : semWord s.ctx.toWiring s.vram = 0)
      (behind : s.completed.length + 1 = s.submitted.length)
  | running (moved : List Nat) (busy : s.gpu.work = some ⟨launch, moved⟩)
      (caught : s.gpu.get = s.ctx.gpPut)
      (cleared : semWord s.ctx.toWiring s.vram = 0)
      (behind : s.completed.length + 1 = s.submitted.length)
  | finished (earlier : List Launch) (free : s.gpu.work = none) (caught : s.gpu.get = s.ctx.gpPut)
      (done : s.completed = earlier ++ [launch]) (even : s.completed.length = s.submitted.length)

/-- The entry of a call is published. -/
structure Published (translate : Nat → Option Nat) (s : System) (call : Call) : Prop where
  own : s.submitted.length = call.own + 1
  word : gpPutWord s.ctx.toWiring s.vram = s.ctx.gpPut
  entry : ∃ sub, s.submitted[call.own]? = some sub ∧
    sub.launch = some (launchFor s.ctx.toWiring call)
  underway : Underway translate s (launchFor s.ctx.toWiring call)

/-- The words written so far are in place, and the GPU does nothing yet. -/
structure Preparing (s : System) (call : Call) (todo : List (UInt64 × UInt32)) : Prop where
  own : s.submitted.length = call.own
  idle : Idle s
  written : ∃ past, submission s.ctx call.req call.setObj call.payload = past ++ todo ∧
    ∀ write ∈ past, ld32 s.vram write.1.toNat = write.2

section Gpu

variable {translate : Nat → Option Nat} {s t : System}

theorem idle_still (idle : Idle s) : ¬ GpuStep translate s t := by
  intro acts
  cases acts with
  | take launch free rung more fetched => exact more (idle.caught.trans idle.word.symm)
  | move work i source place busy =>
      rw [idle.free] at busy
      cases busy
  | release work place busy =>
      rw [idle.free] at busy
      cases busy

theorem word_of_put (m : Mem) {a place : Nat} (byte : UInt8) (away : place < a ∨ a + 4 ≤ place) :
    ld32 (put m place byte) a = ld32 m a := by
  apply ld32_congr
  intro i inside
  simp only [put]
  rw [if_neg (by omega)]

theorem put_word_kept (wired : Wired translate s.ctx.toWiring) (va place : Nat) (byte : UInt8)
    (leads : translate va = some place) :
    gpPutWord s.ctx.toWiring (put s.vram place byte) = gpPutWord s.ctx.toWiring s.vram := by
  have hidden := wired.hidden va place leads
  apply word_of_put
  rw [put_place wired]
  omega

theorem sem_target (wired : Wired translate s.ctx.toWiring) {place : Nat}
    (leads : translate (s.ctx.semVa.toNat % 2 ^ 49) = some place) :
    place = s.ctx.ringPhys.toNat + 0x2000 := by
  have near := wired.near
  have sem := wired.semVa
  have low : s.ctx.semVa.toNat % 2 ^ 49 = s.ctx.ringVa.toNat + 0x2000 := by
    rw [sem]
    exact Nat.mod_eq_of_lt (by omega)
  rw [low, wired.mapped 0x2000 (by omega)] at leads
  exact (Option.some.inj leads).symm

/-- The entry on its way is taken, moved and released, in this order. -/
theorem published_gpu (wired : Wired translate s.ctx.toWiring) {call : Call}
    (spares : SparesSemaphore translate s.ctx.toWiring call.req)
    (published : Published translate s call) (acts : GpuStep translate s t) :
    Published translate t call := by
  obtain ⟨own, word, entry, underway⟩ := published
  -- Each step fits one state of the entry; in the other two its guard fails.
  cases acts with
  | take launch free rung more fetched =>
      cases underway with
      | pending _ next ours cleared behind =>
          rw [ours] at fetched
          obtain rfl := Option.some.inj fetched
          exact ⟨own, word, entry, .running [] rfl next cleared behind⟩
      | running moved busy => simp [free] at busy
      | finished earlier _ caught => exact absurd (caught.trans word.symm) more
  | move work i source place busy inside fresh origin target =>
      cases underway with
      | pending free => simp [free] at busy
      | running moved ours caught cleared behind =>
          obtain rfl := Option.some.inj (ours.symm.trans busy)
          have kept := put_word_kept wired _ place (s.vram source) target
          have spared : semWord s.ctx.toWiring (put s.vram place (s.vram source)) =
              semWord s.ctx.toWiring s.vram := word_of_put _ _ (spares i inside place target)
          exact ⟨own, kept.trans word, entry,
            .running _ rfl caught (spared.trans cleared) behind⟩
      | finished earlier free => simp [free] at busy
  | release work place busy moved target =>
      cases underway with
      | pending free => simp [free] at busy
      | running moved ours caught cleared behind =>
          obtain rfl := Option.some.inj (ours.symm.trans busy)
          have there := sem_target wired target
          have apart := wired.apart
          have kept : gpPutWord s.ctx.toWiring (st32 s.vram place call.payload) =
              gpPutWord s.ctx.toWiring s.vram := by
            apply ld32_st32_apart
            rw [put_place wired]
            omega
          refine ⟨own, kept.trans word, entry, .finished s.completed rfl caught rfl ?_⟩
          exact (List.length_append ..).trans behind
      | finished earlier free => simp [free] at busy

end Gpu

section Host

variable {translate : Nat → Option Nat} {s : System}

theorem write_word {dev : Aperture} (coherent : Coherent dev) (phys : UInt64) (val : UInt32)
    (inside : phys.toNat < reach) :
    (nvPraminWr32 dev phys val).io.vram = st32 dev.io.vram phys.toNat val ∧
      Coherent (nvPraminWr32 dev phys val) := by
  have tracks := wr32_tracks dev _ _ (tracks_self coherent) phys val inside
  rw [← st32_eq_store] at tracks
  exact ⟨tracks.vram_eq, tracks.coherent⟩

theorem read_word {dev : Aperture} (coherent : Coherent dev) {phys : UInt64}
    (inside : phys.toNat < reach) :
    (nvPraminRd32 dev phys).1 = ld32 dev.io.vram phys.toNat ∧
      (nvPraminRd32 dev phys).2.io.vram = dev.io.vram ∧ Coherent (nvPraminRd32 dev phys).2 := by
  obtain ⟨value, tracks⟩ := rd32_tracks dev _ _ (tracks_self coherent) phys inside
  exact ⟨value, tracks.vram_eq, tracks.coherent⟩

theorem sem_reached (wired : Wired translate s.ctx.toWiring) : s.ctx.semPhys.toNat < reach := by
  have sem := wired.semPhys
  have inside := wired.inside
  omega

/-- Only the memory, the context, the GPU's place and the records matter. -/
theorem published_congr {t : System} {call other : Call} (published : Published translate s call)
    (vram : t.vram = s.vram) (ctx : t.ctx = s.ctx) (get : t.gpu.get = s.gpu.get)
    (work : t.gpu.work = s.gpu.work) (submitted : t.submitted = s.submitted)
    (completed : t.completed = s.completed) (own : other.own = call.own)
    (launch : launchFor s.ctx.toWiring other = launchFor s.ctx.toWiring call) :
    Published translate t other := by
  obtain ⟨count, word, entry, underway⟩ := published
  refine ⟨?_, ?_, ?_, ?_⟩
  · rw [submitted, count, own]
  · rw [vram, ctx, word]
  · rw [submitted, ctx, own, launch]
    exact entry
  · rw [ctx, launch]
    cases underway with
    | pending free next fetched cleared behind =>
        exact .pending (work ▸ free) (by rw [get, ctx, next]) (by rw [vram, ctx, get, fetched])
          (by rw [vram, ctx, cleared]) (by rw [submitted, completed, behind])
    | running moved busy caught cleared behind =>
        exact .running moved (work ▸ busy) (by rw [get, ctx, caught])
          (by rw [vram, ctx, cleared]) (by rw [submitted, completed, behind])
    | finished earlier free caught done even =>
        exact .finished earlier (work ▸ free) (by rw [get, ctx, caught]) (completed ▸ done)
          (by rw [submitted, completed, even])

/-- The submission in memory is the copy of the call. -/
theorem fetch_call (wired : Wired translate s.ctx.toWiring) (low : s.ctx.gpPut.toNat <
      s.ctx.ringEntries.toNat) (call : Call) {m : Mem}
    (held : ∀ write ∈ submission s.ctx call.req call.setObj call.payload,
      ld32 m write.1.toNat = write.2) :
    fetch translate s.ctx.toWiring m s.ctx.gpPut = some (launchFor s.ctx.toWiring call) := by
  have slot : s.ctx.gpPut % s.ctx.ringEntries = s.ctx.gpPut := by
    apply UInt32.toNat_inj.mp
    rw [UInt32.toNat_mod, Nat.mod_eq_of_lt low]
  have fetched := fetch_submission wired held
  rw [slot, pushbuffer, decode_built] at fetched
  exact fetched

section Submitting

variable (wired : Wired translate s.ctx.toWiring) (coherent : Coherent s.dev) {call : Call}

include wired coherent

theorem preparing_write {phys : UInt64} {val : UInt32} {todo : List (UInt64 × UInt32)}
    (preparing : Preparing s call ((phys, val) :: todo)) :
    Coherent (nvPraminWr32 s.dev phys val) ∧
      Preparing { s with
        dev := nvPraminWr32 s.dev phys val
        call := some { call with phase := .writing todo } } { call with phase := .writing todo }
        todo := by
  obtain ⟨own, idle, past, split, written⟩ := preparing
  have member : (phys, val) ∈ submission s.ctx call.req call.setObj call.payload := by
    rw [split]
    exact List.mem_append_right _ List.mem_cons_self
  have region : s.ctx.ringPhys.toNat ≤ phys.toNat ∧
      phys.toNat + 4 ≤ s.ctx.ringPhys.toNat + 0x3000 := submission_inside wired member
  have room := wired.inside
  obtain ⟨vram, after⟩ := write_word coherent phys val (by omega)
  have clear := submission_clear wired call.req call.setObj call.payload
  rw [split, List.pairwise_append] at clear
  refine ⟨after, own, ⟨idle.free, idle.caught, ?_, idle.even⟩, past ++ [(phys, val)], ?_, ?_⟩
  · -- GP_PUT lies outside of what the submission writes
    have apart := wired.apart
    have kept : gpPutWord s.ctx.toWiring (st32 s.vram phys.toNat val) =
        gpPutWord s.ctx.toWiring s.vram := by
      apply ld32_st32_apart
      rw [put_place wired]
      omega
    change gpPutWord s.ctx.toWiring (nvPraminWr32 s.dev phys val).io.vram = _
    rw [vram]
    exact kept.trans idle.word
  · rw [List.append_assoc]
    exact split
  · intro write there
    change ld32 (nvPraminWr32 s.dev phys val).io.vram write.1.toNat = write.2
    rw [vram]
    -- The writes of one submission do not overlap, so the earlier words stay.
    rcases List.mem_append.mp there with earlier | last
    · have away := clear.2.2 write earlier (phys, val) List.mem_cons_self
      rw [ld32_st32_apart _ _ away]
      exact written write earlier
    · rw [List.mem_singleton.mp last]
      exact ld32_st32 _ _ _

omit wired coherent in
theorem publish_wiring : (publish translate s call).ctx.toWiring = s.ctx.toWiring := rfl

omit wired coherent in
theorem publish_gpPut :
    (publish translate s call).ctx.gpPut = (s.ctx.gpPut + 1) % s.ctx.ringEntries := rfl

omit wired coherent in
theorem publish_gpu : (publish translate s call).gpu = s.gpu := rfl

omit wired coherent in
theorem publish_completed : (publish translate s call).completed = s.completed := rfl

omit wired coherent in
theorem publish_submitted : (publish translate s call).submitted = s.submitted ++
    [⟨fetch translate s.ctx.toWiring s.vram (s.ctx.gpPut % s.ctx.ringEntries),
      s.completed.length⟩] := rfl

/-- What `publish` publishes is the copy of the call, and no word of it changes. -/
theorem preparing_publish (low : s.ctx.gpPut.toNat < s.ctx.ringEntries.toNat)
    (preparing : Preparing s call []) :
    Coherent (publish translate s call).dev ∧
      fetch translate s.ctx.toWiring s.vram (s.ctx.gpPut % s.ctx.ringEntries) =
        some (launchFor s.ctx.toWiring call) ∧
      (∀ write ∈ submission s.ctx call.req call.setObj call.payload,
        ld32 (publish translate s call).vram write.1.toNat = write.2) ∧
      Published translate (publish translate s call) { call with phase := .ringing } := by
  obtain ⟨own, idle, past, split, written⟩ := preparing
  rw [List.append_nil] at split
  rw [← split] at written
  have slot : s.ctx.gpPut % s.ctx.ringEntries = s.ctx.gpPut := by
    apply UInt32.toNat_inj.mp
    rw [UInt32.toNat_mod, Nat.mod_eq_of_lt low]
  have place := put_place wired
  have apart := wired.apart
  have room := wired.userd
  obtain ⟨vram, after⟩ := write_word coherent (s.ctx.userdPhys + nvUserdGpPutOff)
    ((s.ctx.gpPut + 1) % s.ctx.ringEntries) (by omega)
  have moved : (publish translate s call).vram = st32 s.vram
      (s.ctx.userdPhys + nvUserdGpPutOff).toNat ((s.ctx.gpPut + 1) % s.ctx.ringEntries) := vram
  -- GP_PUT is the only word that is written, and it is none of the submission's.
  have kept : ∀ write ∈ submission s.ctx call.req call.setObj call.payload,
      ld32 (publish translate s call).vram write.1.toNat = write.2 := by
    intro write member
    have region := submission_inside wired member
    rw [moved, ld32_st32_apart _ _ (by omega)]
    exact written write member
  have cleared : semWord s.ctx.toWiring (publish translate s call).vram = 0 :=
    kept (s.ctx.semPhys, 0) (mem_submission.mpr (Or.inl rfl))
  have word : gpPutWord s.ctx.toWiring (publish translate s call).vram =
      (s.ctx.gpPut + 1) % s.ctx.ringEntries := by
    rw [moved]
    exact ld32_st32 _ _ _
  have first : fetch translate s.ctx.toWiring s.vram (s.ctx.gpPut % s.ctx.ringEntries) =
      some (launchFor s.ctx.toWiring call) := by
    rw [slot]
    exact fetch_call wired low call written
  have count : (publish translate s call).submitted.length = s.submitted.length + 1 := by
    rw [publish_submitted, List.length_append, List.length_singleton]
  refine ⟨after, first, kept, ?_, ?_, ?_, ?_⟩
  · rw [count, own]
  · rw [publish_wiring, publish_gpPut, word]
  · refine ⟨⟨fetch translate s.ctx.toWiring s.vram (s.ctx.gpPut % s.ctx.ringEntries),
      s.completed.length⟩, ?_, first⟩
    rw [publish_submitted, ← own]
    exact List.getElem?_concat_length
  · refine .pending idle.free ?_ ?_ ?_ ?_
    · rw [publish_gpu, publish_gpPut, idle.caught]
      rfl
    · rw [publish_gpu, publish_wiring, idle.caught]
      exact fetch_call wired low call kept
    · rw [publish_wiring, cleared]
    · rw [publish_completed, count, idle.even]

end Submitting

theorem doorbell_rings (dev : Aperture) (val : UInt32) :
    dev.io.wr nvVfnDoorbellAddr val = { dev.io with
      regs := fun reg => if reg = nvVfnDoorbellAddr then val else dev.io.regs reg
      accesses := .regWrite nvVfnDoorbellAddr val :: dev.io.accesses } := by
  have outside : inWindow nvVfnDoorbellAddr = false := by decide
  have other : nvVfnDoorbellAddr ≠ nvPbusBar0Window := by decide
  simp only [Mmio.wr, outside, Bool.false_eq_true, if_false, if_neg other]

theorem published_ring {call : Call}
    (published : Published translate s call) :
    Published translate (ring s call)
      { call with phase := .waiting (ticks call.req).toNat } := by
  have same : (ring s call).vram = s.vram := by
    rw [System.vram, ring, doorbell_rings]
    rfl
  exact published_congr published same rfl rfl rfl rfl rfl rfl rfl

end Host

/-! A call that nothing hinders. -/

section Runs

variable {translate : Nat → Option Nat} (admits : Request → Prop) {s : System}

/-- The host alone has moved, and only as far as its call and its memory go. -/
structure Alike (s t : System) : Prop where
  ctx : t.ctx = s.ctx
  gpu : t.gpu = s.gpu
  submitted : t.submitted = s.submitted
  completed : t.completed = s.completed
  returns : t.returns = s.returns

theorem writes_reach (wired : Wired translate s.ctx.toWiring) (coherent : Coherent s.dev)
    {call : Call} {todo : List (UInt64 × UInt32)} (active : s.call = some call)
    (phase : call.phase = .writing todo) (preparing : Preparing s call todo) :
    ∃ t, Reaches translate admits s t ∧ t.call = some { call with phase := .writing [] } ∧
      Preparing t { call with phase := .writing [] } [] ∧ Coherent t.dev ∧ Alike s t := by
  induction todo generalizing s call with
  | nil =>
      have same : call = { call with phase := .writing [] } := by rw [← phase]
      rw [← same]
      exact ⟨s, .refl, active, preparing, coherent, rfl, rfl, rfl, rfl, rfl⟩
  | cons write todo ih =>
      obtain ⟨phys, val⟩ := write
      obtain ⟨after, prepared⟩ := preparing_write wired coherent preparing
      have turn : hostTurn translate s call = { s with
          dev := nvPraminWr32 s.dev phys val
          call := some { call with phase := .writing todo } } := by
        rw [hostTurn, phase]
      have step : Step translate admits s _ := Step.host s call active
      rw [turn] at step
      obtain ⟨t, reaches, done, finished, coherent, alike⟩ :=
        ih (s := { s with
          dev := nvPraminWr32 s.dev phys val
          call := some { call with phase := .writing todo } }) wired after rfl rfl prepared
      exact ⟨t, .head step reaches, done, finished, coherent, alike.ctx, alike.gpu,
        alike.submitted, alike.completed, alike.returns⟩

/-- The call that `start` begins. -/
def begun (s : System) (req : Request) : Call where
  req := req
  setObj := if s.ctx.objectBound then 0 else s.ctx.classEngineId
  payload := 0xc0de0000 ||| ((s.ctx.seq + 1) &&& 0xffff)
  own := s.submitted.length
  phase := .waiting (ticks req).toNat

def entered (s : System) (req : Request) : System :=
  { s with
    ctx := { s.ctx with seq := s.ctx.seq + 1 }
    call := some { begun s req with
      phase := .writing (submission s.ctx req (begun s req).setObj (begun s req).payload) } }

theorem start_begins {req : Request} (ok : s.ctx.ok = true) (nonempty : req.bytes ≠ 0)
    (ring : s.ctx.ringEntries ≠ 0) : start s req = entered s req := by
  have long := (pushbuffer_length { s.ctx with seq := s.ctx.seq + 1 } req
    (begun s req).setObj (begun s req).payload).1
  have admitted : ¬ (s.ctx.ok = false ∨ req.bytes = 0) := by
    rw [not_or, Bool.not_eq_false]
    exact ⟨ok, nonempty⟩
  rw [start, if_neg admitted, if_neg ring]
  exact if_neg (Nat.ne_of_gt long)

theorem next_slot {slot entries : UInt32} (several : 2 ≤ entries.toNat)
    (low : slot.toNat < entries.toNat) : slot ≠ (slot + 1) % entries := by
  intro same
  have bound := entries.toNat_lt
  have next : (slot + 1).toNat = slot.toNat + 1 := by
    rw [UInt32.toNat_add, UInt32.toNat_one, Nat.mod_eq_of_lt (by omega)]
  have turned := congrArg UInt32.toNat same
  rw [UInt32.toNat_mod, next] at turned
  rcases Nat.lt_or_ge (slot.toNat + 1) entries.toNat with inside | last
  · rw [Nat.mod_eq_of_lt inside] at turned
    omega
  · rw [show slot.toNat + 1 = entries.toNat by omega, Nat.mod_self] at turned
    omega

/-- The host has published the entry and waits. -/
structure Waits (translate : Nat → Option Nat) (s t : System) (call : Call) : Prop where
  active : t.call = some { call with phase := .waiting (ticks call.req).toNat }
  coherent : Coherent t.dev
  published : Published translate t { call with phase := .waiting (ticks call.req).toNat }
  held : ∀ write ∈ submission s.ctx call.req call.setObj call.payload,
    ld32 t.vram write.1.toNat = write.2
  wiring : t.ctx.toWiring = s.ctx.toWiring
  gpPut : t.ctx.gpPut = (s.ctx.gpPut + 1) % s.ctx.ringEntries
  rung : t.gpu.rung = true
  get : t.gpu.get = s.gpu.get
  work : t.gpu.work = s.gpu.work
  completed : t.completed = s.completed
  returns : t.returns = s.returns

theorem publish_reach (wired : Wired translate s.ctx.toWiring) (coherent : Coherent s.dev)
    (low : s.ctx.gpPut.toNat < s.ctx.ringEntries.toNat) {call : Call}
    (active : s.call = some call) (phase : call.phase = .writing [])
    (preparing : Preparing s call []) :
    ∃ t, Reaches translate admits s t ∧ Waits translate s t call := by
  obtain ⟨after, _, held, published⟩ := preparing_publish wired coherent low preparing
  have publishes : Step translate admits s (hostTurn translate s call) := Step.host s call active
  have turn : hostTurn translate s call = publish translate s call := by
    rw [hostTurn, phase]
  rw [turn] at publishes
  have rings : Step translate admits (publish translate s call)
      (ring (publish translate s call) { call with phase := .ringing }) :=
    Step.host _ { call with phase := .ringing } rfl
  have same : (ring (publish translate s call) { call with phase := .ringing }).vram =
      (publish translate s call).vram := by
    rw [System.vram, ring, doorbell_rings]
    rfl
  refine ⟨_, (Relation.ReflTransGen.single publishes).tail rings, rfl, ?_,
    published_ring published, ?_, rfl, rfl, rfl, rfl, rfl, rfl, rfl⟩
  · rw [ring, doorbell_rings]
    exact after
  · rw [same]
    exact held

/-- The GPU takes what it has not yet gone past. -/
theorem take_step {call : Call} (published : Published translate s call)
    (free : s.gpu.work = none) (rung : s.gpu.rung = true) (behind : s.gpu.get ≠ s.ctx.gpPut) :
    Step translate admits s (take s (launchFor s.ctx.toWiring call)) := by
  have more : s.gpu.get ≠ gpPutWord s.ctx.toWiring s.vram := by
    rw [published.word]
    exact behind
  cases published.underway with
  | pending _ next fetched cleared count => exact .gpu s _ (.take s _ free rung more fetched)
  | running moved busy =>
      rw [free] at busy
      cases busy
  | finished earlier _ caught => exact absurd caught behind

/-- The host has done its part and waits, and the GPU has taken the entry. -/
structure Taken (s t : System) (req : Request) : Prop where
  active : t.call = some (begun s req)
  wiring : t.ctx.toWiring = s.ctx.toWiring
  coherent : Coherent t.dev
  busy : t.gpu.work = some ⟨launchFor s.ctx.toWiring (begun s req), []⟩
  held : ∀ write ∈ submission s.ctx req (begun s req).setObj (begun s req).payload,
    ld32 t.vram write.1.toNat = write.2
  completed : t.completed = s.completed
  returns : t.returns = s.returns

theorem copy_begins (wired : Wired translate s.ctx.toWiring) (coherent : Coherent s.dev)
    (several : 2 ≤ s.ctx.ringEntries.toNat) (low : s.ctx.gpPut.toNat < s.ctx.ringEntries.toNat)
    (rest : s.call = none) (ok : s.ctx.ok = true) (idle : Idle s) {req : Request}
    (nonempty : req.bytes ≠ 0) (admitted : admits req) :
    ∃ t, Reaches translate admits s t ∧ Taken s t req := by
  have ringed : s.ctx.ringEntries ≠ 0 := by
    intro zero
    rw [zero] at several
    exact absurd several (by decide)
  have called : Step translate admits s (start s req) :=
    Step.call s req s.dev.winBase rest admitted coherent
  rw [start_begins ok nonempty ringed] at called
  obtain ⟨written, writes, active, preparing, after, alike⟩ :=
    writes_reach admits (s := entered s req) wired coherent rfl rfl
      ⟨rfl, ⟨idle.free, idle.caught, idle.word, idle.even⟩, [], rfl,
        fun _ member => absurd member List.not_mem_nil⟩
  have ctx : written.ctx = { s.ctx with seq := s.ctx.seq + 1 } := alike.ctx
  obtain ⟨t, publishes, waits⟩ := publish_reach admits (by rw [ctx]; exact wired)
    after (by rw [ctx]; exact low) active rfl preparing
  have wiring : t.ctx.toWiring = s.ctx.toWiring := by rw [waits.wiring, ctx]
  have free : t.gpu.work = none := by
    rw [waits.work, alike.gpu]
    exact idle.free
  -- The ring has two entries, so the pointer has moved away from GET.
  have behind : t.gpu.get ≠ t.ctx.gpPut := by
    rw [waits.get, waits.gpPut, alike.gpu, ctx]
    change s.gpu.get ≠ (s.ctx.gpPut + 1) % s.ctx.ringEntries
    rw [idle.caught]
    exact next_slot several low
  have takes := take_step admits waits.published free waits.rung behind
  have held := waits.held
  rw [ctx] at held
  refine ⟨_, ((Relation.ReflTransGen.head called writes).trans publishes).tail takes,
    waits.active, wiring, waits.coherent, ?_, held, waits.completed.trans alike.completed,
    waits.returns.trans alike.returns⟩
  rw [← wiring]
  rfl

/-- The first `count` bytes of the copy are moved. -/
def partly (s : System) (launch : Launch) (source place count : Nat) : System :=
  { s.setVram (blit s.vram place count fun j => s.vram (source + j)) with
    gpu := { s.gpu with work := some ⟨launch, (List.range count).reverse⟩ } }

theorem move_partly {launch : Launch} {source place count : Nat}
    (apart : source + count < place ∨ place + count ≤ source) :
    move (partly s launch source place count) ⟨launch, (List.range count).reverse⟩ count
      (source + count) (place + count) = partly s launch source place (count + 1) := by
  have still : blit s.vram place count (fun j => s.vram (source + j)) (source + count) =
      s.vram (source + count) := blit_outside _ _ _ _ _ (by omega)
  have grown : put (blit s.vram place count fun j => s.vram (source + j)) (place + count)
      (s.vram (source + count)) = blit s.vram place (count + 1) fun j => s.vram (source + j) := by
    funext x
    by_cases here : x = place + count
    · rw [here, blit_inside _ _ _ _ _ (by omega), put, if_pos rfl]
      congr 2
      omega
    · rw [put, if_neg here, blit, blit]
      congr 1
      apply propext
      omega
  have list : (List.range (count + 1)).reverse = count :: (List.range count).reverse := by
    rw [List.range_succ, List.reverse_append]
    rfl
  rw [partly, partly, list, ← grown]
  rw [← still]
  rfl

/-- Four bytes are a word. -/
theorem partly_word (launch : Launch) (source place : Nat) :
    ld32 (partly s launch source place 4).vram place = ld32 s.vram source := by
  apply ld32_congr
  intro i inside
  change blit s.vram place 4 (fun j => s.vram (source + j)) (place + i) = _
  rw [blit_inside _ _ _ _ _ (by omega), Nat.add_sub_cancel_left]

theorem moves_reach {launch : Launch} {source place : Nat} (busy : s.gpu.work = some ⟨launch, []⟩)
    (count : Nat) (inside : count ≤ launch.bytes.toNat)
    (origin : ∀ i < count, translate (launch.src + i) = some (source + i))
    (target : ∀ i < count, translate (launch.dst + i) = some (place + i))
    (apart : source + count ≤ place ∨ place + count ≤ source) :
    Reaches translate admits s (partly s launch source place count) := by
  induction count with
  | zero =>
      have none : partly s launch source place 0 = s := by
        have gpu : ({ s.gpu with work := some ⟨launch, []⟩ } : Gpu) = s.gpu := by rw [← busy]
        have vram : blit s.vram place 0 (fun j => s.vram (source + j)) = s.vram := by
          funext x
          exact blit_outside _ _ _ _ _ (by omega)
        rw [partly, vram, List.range_zero, List.reverse_nil, gpu]
        rfl
      rw [none]
      exact .refl
  | succ count ih =>
      have earlier := ih (by omega) (fun i below => origin i (by omega))
        (fun i below => target i (by omega)) (by omega)
      have fresh : count ∉ (List.range count).reverse := by simp
      have step : GpuStep translate (partly s launch source place count) _ :=
        .move _ ⟨launch, (List.range count).reverse⟩ count _ _ rfl
          (show count < launch.bytes.toNat by omega) fresh
          (origin count (by omega)) (target count (by omega))
      rw [move_partly (by omega)] at step
      exact earlier.tail (.gpu _ _ step)

/-- A poll that finds the payload ends the call. -/
theorem poll_hits (wired : Wired translate s.ctx.toWiring) (coherent : Coherent s.dev)
    {call : Call} {left : Nat} (active : s.call = some call)
    (phase : call.phase = .waiting (left + 1))
    (hit : semWord s.ctx.toWiring s.vram = call.payload) :
    ∃ t, Step translate admits s t ∧ t.completed = s.completed ∧
      t.returns = ⟨call.req, call.own, s.submitted.length, 0⟩ :: s.returns := by
  have reads := (read_word coherent (sem_reached wired)).1
  have turn : hostTurn translate s call = poll s call left := by
    rw [hostTurn, phase]
  have found : (nvPraminRd32 s.dev s.ctx.semPhys).1 = call.payload := reads.trans hit
  refine ⟨hostTurn translate s call, .host s call active, ?_, ?_⟩
  · rw [turn, poll, if_pos found]
    rfl
  · rw [turn, poll, if_pos found]
    rfl

end Runs

end GspDriver.GpuProgress
