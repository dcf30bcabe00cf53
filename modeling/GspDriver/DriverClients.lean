import GspDriver.DriverRuns

/-!
User clients of one driver. The channel has one pushbuffer, one ring and one
semaphore, so the driver counts its clients and lets in one at a time; a client
keeps its place until it is freed. Once the execution context is gone (after
`stop`, or after a copy that timed out) nothing reaches the card again.
-/

namespace GspDriver.DriverClients

open Trace Pramin MilcorixFB DriverStart DriverMemory Vram DriverRuns

/-- What the clients rely on; it holds of the driver of a running framebuffer. -/
structure Attached (s : Driver) : Prop where
  bar0 : s.fBar0 = true
  lock : s.owner.fGpuLock = true
  clients : s.owner.fGpuClients = 0
  tame : s.wild = false

/-- What the bring-up leaves alone: all that `Attached` reads, the place of the
second aperture and what is published. -/
structure SameAccess (s t : Driver) : Prop where
  bar0 : t.fBar0 = s.fBar0
  lock : t.owner.fGpuLock = s.owner.fGpuLock
  clients : t.owner.fGpuClients = s.owner.fGpuClients
  wild : t.wild = s.wild
  bar1 : t.fBar1 = s.fBar1
  bar1Phys : t.fBar1Phys = s.fBar1Phys
  bar1Len : t.fBar1Len = s.fBar1Len
  modeset : t.fModeset = s.fModeset
  fbMem : t.fFbMem = s.fFbMem
  fbMode : t.fFbMode = s.fFbMode

theorem access_refl (s : Driver) : SameAccess s s := ⟨rfl, rfl, rfl, rfl, rfl, rfl, rfl, rfl, rfl, rfl⟩

theorem access_trans {s t u : Driver} (first : SameAccess s t) (second : SameAccess t u) :
    SameAccess s u where
  bar0 := second.bar0.trans first.bar0
  lock := second.lock.trans first.lock
  clients := second.clients.trans first.clients
  wild := second.wild.trans first.wild
  bar1 := second.bar1.trans first.bar1
  bar1Phys := second.bar1Phys.trans first.bar1Phys
  bar1Len := second.bar1Len.trans first.bar1Len
  modeset := second.modeset.trans first.modeset
  fbMem := second.fbMem.trans first.fbMem
  fbMode := second.fbMode.trans first.fbMode

theorem attached_congr {s t : Driver} (attached : Attached s) (same : SameAccess s t) :
    Attached t where
  bar0 := same.bar0.trans attached.bar0
  lock := same.lock.trans attached.lock
  clients := same.clients.trans attached.clients
  tame := same.wild.trans attached.tame

section Start

variable (env : Boot) (s : Driver)

theorem freeScanoutFb_access : SameAccess s (freeScanoutFb s) := by
  unfold freeScanoutFb
  split
  · split <;> exact ⟨rfl, rfl, rfl, rfl, rfl, rfl, rfl, rfl, rfl, rfl⟩
  · exact ⟨rfl, rfl, rfl, rfl, rfl, rfl, rfl, rfl, rfl, rfl⟩

theorem allocDmaArena_access : SameAccess s (allocDmaArena env s).2 := by
  unfold allocDmaArena
  split
  · exact access_refl s
  split
  · exact access_refl s
  simp only
  split
  · exact ⟨rfl, rfl, rfl, rfl, rfl, rfl, rfl, rfl, rfl, rfl⟩
  · split <;> exact ⟨rfl, rfl, rfl, rfl, rfl, rfl, rfl, rfl, rfl, rfl⟩

theorem probeScanout_access (bytes : UInt64) : SameAccess s (probeScanout env s bytes).2 := by
  unfold probeScanout
  split <;> exact ⟨rfl, rfl, rfl, rfl, rfl, rfl, rfl, rfl, rfl, rfl⟩

theorem scanoutInSysmem_access (bytes : UInt64) :
    SameAccess s (scanoutInSysmem env s bytes).2 := by
  unfold scanoutInSysmem
  split
  · exact access_refl s
  simp only
  split
  · exact ⟨rfl, rfl, rfl, rfl, rfl, rfl, rfl, rfl, rfl, rfl⟩
  split
  · have freed := freeScanoutFb_access { s.takePage with fFbBuf := some s.pages.next }
    exact ⟨freed.bar0, freed.lock, freed.clients, freed.wild, freed.bar1, freed.bar1Phys,
      freed.bar1Len, freed.modeset, freed.fbMem, freed.fbMode⟩
  · exact ⟨rfl, rfl, rfl, rfl, rfl, rfl, rfl, rfl, rfl, rfl⟩

theorem allocScanoutFb_access (w h pitch : UInt32) :
    SameAccess s (allocScanoutFb env s w h pitch).2 := by
  unfold allocScanoutFb
  split
  · exact access_refl s
  simp only
  split
  · exact access_refl s
  have probed := access_trans (freeScanoutFb_access s)
    (probeScanout_access env (freeScanoutFb s) (surfaceBytes h pitch))
  split
  · exact access_trans probed ⟨rfl, rfl, rfl, rfl, rfl, rfl, rfl, rfl, rfl, rfl⟩
  split
  · exact probed
  · exact access_trans probed (scanoutInSysmem_access env _ _)

theorem bringupScanout_access : SameAccess s (bringupScanout env s).2 := by
  unfold bringupScanout
  split
  · exact access_refl s
  split
  · exact access_refl s
  · exact allocScanoutFb_access env s _ _ _

variable {s}

theorem lendArena_access : SameAccess s (lendArena s) := by
  unfold lendArena
  split <;> exact ⟨rfl, rfl, rfl, rfl, rfl, rfl, rfl, rfl, rfl, rfl⟩

/-- The base of the registers is mapped, so the bring-up does not stray. -/
theorem nvGspBringup_access (bar0 : s.fBar0 = true) : SameAccess s (nvGspBringup env s).2 := by
  have touched : SameAccess s (s.touch true) := by
    refine ⟨rfl, rfl, rfl, ?_, rfl, rfl, rfl, rfl, rfl, rfl⟩
    simp only [Driver.touch, bar0, Bool.not_true, Bool.and_false, Bool.or_false]
  have lent : SameAccess s (atModeset env s) :=
    access_trans (access_trans touched lendArena_access)
      ⟨rfl, rfl, rfl, rfl, rfl, rfl, rfl, rfl, rfl, rfl⟩
  unfold nvGspBringup
  simp only
  split
  · exact access_trans touched ⟨rfl, rfl, rfl, rfl, rfl, rfl, rfl, rfl, rfl, rfl⟩
  split
  · exact access_trans lent ⟨rfl, rfl, rfl, rfl, rfl, rfl, rfl, rfl, rfl, rfl⟩
  · exact access_trans (access_trans lent (bringupScanout_access env _))
      ⟨rfl, rfl, rfl, rfl, rfl, rfl, rfl, rfl, rfl, rfl⟩

theorem selfTested_access : SameAccess s (if s.owner.ok = true then runGpuSelfTest s else s) := by
  unfold runGpuSelfTest Driver.note
  split
  · split
    · exact ⟨rfl, rfl, rfl, rfl, rfl, rfl, rfl, rfl, rfl, rfl⟩
    · split <;> exact ⟨rfl, rfl, rfl, rfl, rfl, rfl, rfl, rfl, rfl, rfl⟩
  · exact access_refl s

theorem publishScanout_attached {shown : Option Scanout.NvGspScanout} (attached : Attached s) :
    Attached (publishScanout env shown s) := by
  unfold publishScanout
  split
  · exact attached
  · split <;> exact ⟨attached.bar0, attached.lock, attached.clients, attached.tame⟩

theorem gspBringUp_attached (attached : Attached s) : Attached (gspBringUp env s).2 := by
  have arena := attached_congr attached (allocDmaArena_access env s)
  unfold gspBringUp
  simp only
  split
  · exact arena
  split
  · exact arena
  have running : Attached (allocDmaArena env s).2.setRunning :=
    ⟨arena.bar0, arena.lock, arena.clients, arena.tame⟩
  have begun : Attached (nvGspBringup env (allocDmaArena env s).2.setRunning).2 :=
    attached_congr running (nvGspBringup_access env running.bar0)
  split
  · exact begun
  · exact publishScanout_attached env (attached_congr begun selfTested_access)

theorem mapped_access (card : Mmio) :
    ((mapped env card).1 = true → (mapped env card).2.fBar0 = true) ∧
      (mapped env card).2.owner.fGpuClients = 0 ∧ (mapped env card).2.wild = false ∧
      (mapped env card).2.owner.ok = false := by
  unfold mapped mapBars
  split
  · refine ⟨fun bar0 => ?_, rfl, rfl, rfl⟩
    cases bar0
  · split <;> exact ⟨fun _ => rfl, rfl, rfl, rfl⟩

theorem broughtUp_attached {card : Mmio} (bar0 : (mapped env card).1 = true) :
    Attached (broughtUp env card).2 := by
  obtain ⟨based, clients, tame, _⟩ := mapped_access env card
  exact gspBringUp_attached env ⟨based bar0, rfl, clients, tame⟩

/-- `teardown` takes the context and the registers, and nothing else of these. -/
theorem teardown_access (s : Driver) : (teardown s).owner.ok = false ∧
    (teardown s).owner.fGpuLock = s.owner.fGpuLock ∧
    (teardown s).owner.fGpuClients = s.owner.fGpuClients ∧ (teardown s).wild = s.wild ∧
    (teardown s).owner.card = s.owner.card ∧ (teardown s).fApertureCpuPhys = 0 := by
  unfold teardown freeBuffers freeDmaArena freeScanoutFb
  cases s.fFbBuf <;> cases s.fScanoutLive <;> cases s.fGspRunning <;> cases s.fDmaBuf <;>
    exact ⟨rfl, rfl, rfl, rfl, rfl, rfl⟩

end Start

section Transfers

/-- What one critical section of a client does. -/
structure Transferred (o : Owner) (done : IOReturn × Owner) : Prop where
  lock : done.2.fGpuLock = o.fGpuLock
  clients : done.2.fGpuClients = o.fGpuClients
  fades : o.ok = false → done.2.ok = false
  reached : done.1 = .success ∨ done.1 = .ioError → o.ok = true
  quiet : o.ok = false → done.2.card = o.card
  last : done.1 = .ioError → done.2.ok = false

variable (o : Owner) {done : IOReturn × Owner}

/-- A call that is refused before it comes to the card. -/
theorem transferred_refused (lock : done.2.fGpuLock = o.fGpuLock)
    (clients : done.2.fGpuClients = o.fGpuClients) (fades : o.ok = false → done.2.ok = false)
    (card : done.2.card = o.card) (noSuccess : done.1 ≠ .success) (noError : done.1 ≠ .ioError) :
    Transferred o done where
  lock := lock
  clients := clients
  fades := fades
  reached came := came.elim (fun here => absurd here noSuccess) fun here => absurd here noError
  quiet _ := card
  last here := absurd here noError

theorem transferred_served (lock : done.2.fGpuLock = o.fGpuLock)
    (clients : done.2.fGpuClients = o.fGpuClients) (ready : o.ok = true)
    (last : done.1 = .ioError → done.2.ok = false) : Transferred o done where
  lock := lock
  clients := clients
  fades gone := absurd (ready.symm.trans gone) (by decide)
  reached _ := ready
  quiet gone := absurd (ready.symm.trans gone) (by decide)
  last := last

theorem tick_fades (outcome : Submission) (op : HwOp) (gone : o.ok = false) :
    ((o.issue op).tick (within outcome)).ok = false := by
  simp only [Owner.tick, Owner.issue, gone, Bool.false_and]

theorem region_ready {outcome : Submission} {op : HwOp} {offset : UInt64} {len : UInt32}
    (inside : ((o.issue op).tick (within outcome)).gpuRegionOk offset len = true) :
    o.ok = true := by
  have ready := ((Owner.gpuRegionOk_iff _ offset len).mp inside).1
  by_contra gone
  exact absurd (ready.symm.trans (tick_fades o outcome op (Bool.not_eq_true _ ▸ gone))) (by decide)

theorem gpuWrite_transferred (outcome : Submission) (offset : UInt64) (data : Nat → UInt8)
    (len : UInt32) : Transferred o (o.gpuWrite (within outcome) offset data len) := by
  unfold Owner.gpuWrite Owner.gpuWriteLocked
  by_cases locked : (o.issue (.write offset len)).fGpuLock = true
  · simp only [if_neg (not_not_intro locked)]
    by_cases inside :
        ((o.issue (.write offset len)).tick (within outcome)).gpuRegionOk offset len = true
    · rw [if_neg (not_not_intro inside)]
      exact transferred_served o rfl rfl (region_ready o inside) (by simp)
    · rw [if_pos inside]
      exact transferred_refused o rfl rfl (tick_fades o outcome _) rfl (by simp) (by simp)
  · simp only [if_pos locked]
    exact transferred_refused o rfl rfl (fun gone => gone) rfl (by simp) (by simp)

theorem gpuRead_transferred (outcome : Submission) (offset : UInt64) (len : UInt32) :
    Transferred o ((o.gpuRead (within outcome) offset len).1,
      (o.gpuRead (within outcome) offset len).2.2) := by
  unfold Owner.gpuRead Owner.gpuReadLocked
  by_cases locked : (o.issue (.read offset len)).fGpuLock = true
  · simp only [if_neg (not_not_intro locked)]
    by_cases inside :
        ((o.issue (.read offset len)).tick (within outcome)).gpuRegionOk offset len = true
    · rw [if_neg (not_not_intro inside)]
      exact transferred_served o rfl rfl (region_ready o inside) (by simp)
    · rw [if_pos inside]
      exact transferred_refused o rfl rfl (tick_fades o outcome _) rfl (by simp) (by simp)
  · simp only [if_pos locked]
    exact transferred_refused o rfl rfl (fun gone => gone) rfl (by simp) (by simp)

theorem gpuCopy_transferred (outcome : Submission) (srcOffset dstOffset : UInt64)
    (bytes : UInt32) : Transferred o
      ((o.gpuCopy (within outcome) srcOffset dstOffset bytes).1,
        (o.gpuCopy (within outcome) srcOffset dstOffset bytes).2.2) := by
  simp only [Owner.gpuCopy]
  split
  · exact transferred_refused o rfl rfl (fun gone => gone) rfl (by simp) (by simp)
  split
  · exact transferred_refused o rfl rfl (tick_fades o outcome _) rfl (by simp) (by simp)
  rename_i ranges
  have ready := region_ready o (not_not.mp (not_or.mp ranges).1)
  split
  · exact transferred_refused o rfl rfl (tick_fades o outcome _) rfl (by simp) (by simp)
  split
  · exact transferred_served o rfl rfl ready (by simp)
  · exact transferred_served o rfl rfl ready (fun _ => rfl)

end Transfers

/-! The clients against the driver. -/

theorem getApertureRange_owner (d : Driver) (aperture : UInt32) (made : Bool) :
    (getApertureRange d aperture made).2.owner = d.owner ∧
      (getApertureRange d aperture made).2.fBar0 = d.fBar0 ∧
      (getApertureRange d aperture made).2.wild = d.wild := by
  unfold getApertureRange
  split
  · exact ⟨rfl, rfl, rfl⟩
  split
  · exact ⟨rfl, rfl, rfl⟩
  split
  · exact ⟨rfl, rfl, rfl⟩
  · split <;> exact ⟨rfl, rfl, rfl⟩

structure Guarded (s : System) : Prop where
  counted : s.driver.owner.fGpuClients.toNat = s.clients.length
  one : s.clients.length ≤ 1
  based : s.driver.owner.ok = true → s.driver.fBar0 = true
  locked : s.driver.owner.ok = true ∨ s.clients ≠ [] → s.driver.owner.fGpuLock = true
  tame : s.driver.wild = false
  down : s.up = false → s.driver.owner.ok = false

/-- Nothing is asked of a driver without a context and without clients. -/
theorem idle_guarded {s : System} (alone : s.clients = [])
    (clients : s.driver.owner.fGpuClients = 0) (tame : s.driver.wild = false)
    (gone : s.driver.owner.ok = false) : Guarded s where
  counted := by rw [clients, alone, UInt32.toNat_zero, List.length_nil]
  one := by simp [alone]
  based ready := absurd (gone.symm.trans ready) (by decide)
  locked held := by
    rcases held with ready | some_
    · exact absurd (gone.symm.trans ready) (by decide)
    · exact absurd alone some_
  tame := tame
  down _ := gone

theorem launched_guarded (env : Boot) (card : Mmio) : Guarded (launched env card) := by
  have outcome := start_outcome env card
  unfold launched
  generalize start env card = result at outcome
  have gone : ∀ t, t.owner.fGpuClients = 0 → t.wild = false → ∀ text,
      Guarded ⟨(giveUp t text).2, (giveUp t text).1, false, [], []⟩ := by
    intro t clients tame text
    obtain ⟨ok, _, same, wild, _⟩ := teardown_access (t.note text)
    exact idle_guarded rfl (same.trans clients) (wild.trans tame) ok
  cases outcome with
  | untouched => exact idle_guarded rfl rfl rfl rfl
  | stranger => exact idle_guarded rfl rfl rfl rfl
  | noBars text =>
    obtain ⟨_, clients, tame, _⟩ := mapped_access env card
    exact gone _ clients tame text
  | noFramebuffer text bar0 =>
    have attached := broughtUp_attached env bar0
    exact gone _ attached.clients attached.tame text
  | framebuffer bar0 =>
    have attached := broughtUp_attached env bar0
    refine ⟨?_, Nat.zero_le _, fun _ => attached.bar0, fun _ => attached.lock, attached.tame, ?_⟩
    · have none_ := attached.clients
      simp only [Driver.note, none_, UInt32.toNat_zero, List.length_nil]
    · intro down
      cases down

section Step

variable {s : System} (guarded : Guarded s)
include guarded

theorem transfer_guarded {done : IOReturn × Owner} (moved : Transferred s.driver.owner done) :
    Guarded { s with driver := Driver.transfer s.driver done } := by
  have ready : done.2.ok = true → s.driver.owner.ok = true := by
    intro after
    by_contra before
    exact absurd (after.symm.trans (moved.fades (Bool.not_eq_true _ ▸ before))) (by decide)
  refine ⟨?_, guarded.one, fun after => guarded.based (ready after), fun held => ?_, ?_, ?_⟩
  · change done.2.fGpuClients.toNat = s.clients.length
    rw [moved.clients, guarded.counted]
  · change done.2.fGpuLock = true
    rw [moved.lock]
    exact guarded.locked (held.imp_left ready)
  · -- A call that comes to the card found the context, and with it the registers.
    by_cases came : done.1 = .success ∨ done.1 = .ioError
    · have bar0 := guarded.based (moved.reached came)
      simp [Driver.transfer, Driver.touch, guarded.tame, bar0]
    · simp [Driver.transfer, Driver.touch, guarded.tame, came]
  · intro down
    exact moved.fades (guarded.down down)

/-- The client is let in exactly when none is there and the context is alive. -/
theorem userClientStart_spec :
    (userClientStart s.driver.owner).2 =
        (if (userClientStart s.driver.owner).1 then { s.driver.owner with fGpuClients := 1 }
          else s.driver.owner) ∧
      ((userClientStart s.driver.owner).1 = true ↔
        s.clients = [] ∧ s.driver.owner.ok = true ∧
          (@nvVramPoolInit nvVramMaxAllocs 0 s.driver.owner.scratchVA
            s.driver.owner.scratchSize).1 = 0) := by
  have empty : s.driver.owner.fGpuClients = 0 ↔ s.clients = [] := by
    rw [← UInt32.toNat_inj, guarded.counted, UInt32.toNat_zero, List.length_eq_zero_iff]
  by_cases opens : s.driver.owner.fGpuLock = true ∧ s.driver.owner.fGpuClients = 0 ∧
      s.driver.owner.ok = true
  · obtain ⟨lock, none_, ready⟩ := opens
    have opened : s.driver.owner.gpuClientOpen =
        (true, { s.driver.owner with fGpuClients := 1 }) := if_pos ⟨lock, none_, ready⟩
    by_cases valid : (@nvVramPoolInit nvVramMaxAllocs 0 s.driver.owner.scratchVA
        s.driver.owner.scratchSize).1 = 0
    · have started : userClientStart s.driver.owner =
          (true, { s.driver.owner with fGpuClients := 1 }) := by
        simp only [userClientStart, opened, valid, ne_eq, not_true_eq_false, if_false,
          Bool.not_true, Bool.false_eq_true]
      rw [started]
      exact ⟨rfl, fun _ => ⟨empty.mp none_, ready, valid⟩, fun _ => rfl⟩
    · -- The count is taken back.
      have back : gpuClientClose { s.driver.owner with fGpuClients := 1 } = s.driver.owner := by
        unfold gpuClientClose
        rw [if_pos ⟨lock, (by decide : (1 : UInt32) ≠ 0)⟩]
        have count : (1 : UInt32) - 1 = s.driver.owner.fGpuClients := none_.symm
        simp only [count]
      have refused : userClientStart s.driver.owner = (false, s.driver.owner) := by
        simp only [userClientStart, opened, valid, ne_eq, not_false_eq_true, if_true,
          Bool.not_true, Bool.false_eq_true, if_false, back]
      rw [refused]
      exact ⟨rfl, (absurd · Bool.false_ne_true), fun lets => absurd lets.2.2 valid⟩
  · have opened : s.driver.owner.gpuClientOpen = (false, s.driver.owner) := if_neg opens
    have refused : userClientStart s.driver.owner = (false, s.driver.owner) := by
      simp only [userClientStart, opened, Bool.not_false, if_true]
    rw [refused]
    refine ⟨rfl, (absurd · Bool.false_ne_true), fun lets => ?_⟩
    obtain ⟨alone, ready, _⟩ := lets
    exact absurd ⟨guarded.locked (.inl ready), empty.mpr alone, ready⟩ opens

theorem freeClient_guarded {client : Nat} (here : client ∈ s.clients) :
    Guarded { s with
      driver := { s.driver with owner := gpuClientClose s.driver.owner }
      clients := s.clients.erase client } := by
  have some_ : s.clients ≠ [] := List.ne_nil_of_mem here
  have lock := guarded.locked (.inr some_)
  have alone : s.clients.length = 1 :=
    Nat.le_antisymm guarded.one (List.length_pos_of_mem here)
  have count : s.driver.owner.fGpuClients = 1 :=
    UInt32.toNat_inj.mp (guarded.counted.trans alone)
  have closed : gpuClientClose s.driver.owner = { s.driver.owner with fGpuClients := 0 } := by
    simp only [gpuClientClose, lock, count]
    rfl
  have left : s.clients.erase client = [] := by
    rw [← List.length_eq_zero_iff, List.length_erase_of_mem here, alone]
  rw [closed, left]
  exact ⟨rfl, Nat.zero_le _, guarded.based, fun _ => lock, guarded.tame, guarded.down⟩

theorem newUserClient_guarded (client : Nat) :
    Guarded { s with
      driver := { s.driver with owner := (userClientStart s.driver.owner).2 }
      clients := if (userClientStart s.driver.owner).1 then client :: s.clients
        else s.clients } := by
  obtain ⟨owner, lets⟩ := userClientStart_spec guarded
  by_cases started : (userClientStart s.driver.owner).1 = true
  · obtain ⟨alone, ready, _⟩ := lets.mp started
    rw [owner, if_pos started, if_pos started, alone]
    exact ⟨rfl, Nat.le_refl 1, guarded.based, fun _ => guarded.locked (.inl ready), guarded.tame,
      guarded.down⟩
  · rw [owner, if_neg started, if_neg started]
    exact guarded

theorem step_guarded {action : Action} (allowed : Allowed s action) : Guarded (step s action) := by
  unfold step
  split
  · exact guarded
  rename_i exists_
  cases action with
  | newUserClient client type made =>
    simp only
    split
    · exact guarded
    · exact newUserClient_guarded guarded client
  | freeClient client =>
    refine freeClient_guarded guarded ?_
    by_contra absent
    exact exists_ ⟨client, rfl, absent⟩
  | write client offset data len => exact transfer_guarded guarded (gpuWrite_transferred _ _ _ _ _)
  | read client offset len => exact transfer_guarded guarded (gpuRead_transferred _ _ _ _)
  | copy client srcOffset dstOffset bytes outcome =>
    exact transfer_guarded guarded (gpuCopy_transferred _ _ _ _ _)
  | getApertureRange aperture made =>
    obtain ⟨owner, bar0, wild⟩ := getApertureRange_owner s.driver aperture made
    constructor <;> simp only [owner, bar0, wild]
    · exact guarded.counted
    · exact guarded.one
    · exact guarded.based
    · exact guarded.locked
    · exact guarded.tame
    · exact guarded.down
  | stop =>
    obtain ⟨ok, lock, clients, wild, _⟩ := teardown_access s.driver
    have gone : (stop s.driver).owner.ok = false := ok
    refine ⟨?_, guarded.one, fun ready => absurd (gone.symm.trans ready) (by decide),
      fun held => ?_, wild.trans guarded.tame, fun _ => gone⟩
    · exact (congrArg UInt32.toNat clients).trans guarded.counted
    · rcases held with ready | some_
      · exact absurd (gone.symm.trans ready) (by decide)
      · exact lock.trans (guarded.locked (.inr some_))
  | free =>
    obtain ⟨_, down, alone⟩ := allowed
    have count : s.driver.owner.fGpuClients = 0 := by
      rw [← UInt32.toNat_inj, guarded.counted, alone]
      rfl
    exact idle_guarded alone count guarded.tame (guarded.down down)

end Step

/-- In every run: at most one client, counted exactly, let in exactly when there
is none and the context is alive, and no register accessed once the card is unmapped. -/
theorem one_client_at_a_time (env : Boot) (card : Mmio) (actions : List Action)
    (admitted : Admitted step Allowed (launched env card) actions) :
    let s := run step (launched env card) actions
    s.clients.length ≤ 1 ∧ s.driver.owner.fGpuClients.toNat = s.clients.length ∧
      s.driver.wild = false ∧
      ∀ client, client ∉ s.clients →
        (client ∈ (step s (.newUserClient client milcorixConnectType true)).clients ↔
          s.clients = [] ∧ s.driver.owner.ok = true ∧
            (@nvVramPoolInit nvVramMaxAllocs 0 s.driver.owner.scratchVA
              s.driver.owner.scratchSize).1 = 0) := by
  intro s
  have guarded : Guarded s :=
    run_invariant (fun _ _ allowed here => step_guarded here allowed) admitted
      (launched_guarded env card)
  refine ⟨guarded.one, guarded.counted, guarded.tame, fun client absent => ?_⟩
  rw [← (userClientStart_spec guarded).2]
  have here : (step s (.newUserClient client milcorixConnectType true)).clients =
      if (userClientStart s.driver.owner).1 then client :: s.clients else s.clients := by
    unfold step
    rw [if_neg (by simp [Action.client])]
    rfl
  rw [here]
  by_cases started : (userClientStart s.driver.owner).1 = true
  · simp only [started, if_true, List.mem_cons, true_or]
  · simp only [started, Bool.false_eq_true, if_false, absent]

/-- A buffer of `size` bytes, prepared and in one piece. -/
def granted (phys size : UInt64) : AllocReply := ⟨true, true, 0xffffff8000000000, phys, size⟩

def deskCard : Mmio := ⟨0, fun _ => 0, fun _ => 0, []⟩

/-- A desktop without the second aperture: its buffer is host memory. -/
def deskBoot : Boot where
  milcorix := some 2
  milcorixfb := some 2
  milcorixvram := none
  pci := true
  bar0 := true
  bar1 := none
  bar1Read _ _ := 0
  lock := true
  arena := granted 0x10000000 0x4000000
  console := none
  scanout := granted 0x20000000 0x7f0000
  bringup :=
    { arenaTold := true, rc := 0, before := deskCard, edid := some (Scanout.edidOf 1920 1080)
      cdone := true, live := true, after := fun card => card
      gpu := ⟨true, true, true, true, 0x120000000, 0x20003000, 0x40000000, 1, 1⟩ }
  superStart := true

def firstClient : Action := .newUserClient 7 milcorixConnectType true

theorem desk_admitted : Admitted step Allowed (launched deskBoot deskCard)
    [firstClient, .copy 7 0 0x1000 0x1000 (.timeout deskCard), .freeClient 7] :=
  ⟨⟨rfl, List.not_mem_nil⟩, ⟨rfl, trivial⟩, ⟨rfl, trivial⟩, trivial⟩

theorem one_client_at_a_time_desk :
    let s := run step (launched deskBoot deskCard)
      [firstClient, .copy 7 0 0x1000 0x1000 (.timeout deskCard), .freeClient 7]
    s.clients.length ≤ 1 ∧ s.driver.owner.fGpuClients.toNat = s.clients.length ∧
      s.driver.wild = false :=
  have main := one_client_at_a_time deskBoot deskCard _ desk_admitted
  ⟨main.1, main.2.1, main.2.2.1⟩

/-! Silence. -/

/-- `t` comes after `s` without the card having been touched or a client let in. -/
structure Still (s t : System) : Prop where
  gone : t.driver.owner.ok = false
  card : t.driver.owner.card = s.driver.owner.card
  clients : ∀ client ∈ t.clients, client ∈ s.clients

theorem step_still {s : System} (gone : s.driver.owner.ok = false) (action : Action) :
    Still s (step s action) := by
  unfold step
  split
  · exact ⟨gone, rfl, fun _ here => here⟩
  cases action with
  | newUserClient client type made =>
    have closed : s.driver.owner.gpuClientOpen = (false, s.driver.owner) :=
      if_neg fun opens => absurd (gone.symm.trans opens.2.2) (by decide)
    have refused : userClientStart s.driver.owner = (false, s.driver.owner) := by
      simp only [userClientStart, closed, Bool.not_false, if_true]
    simp only [refused]
    split <;> exact ⟨gone, rfl, fun _ here => here⟩
  | freeClient client =>
    simp only [gpuClientClose]
    split <;> exact ⟨gone, rfl, fun _ here => List.mem_of_mem_erase here⟩
  | write client offset data len =>
    have moved := gpuWrite_transferred s.driver.owner (.timeout s.driver.owner.card) offset data len
    exact ⟨moved.fades gone, moved.quiet gone, fun _ here => here⟩
  | read client offset len =>
    have moved := gpuRead_transferred s.driver.owner (.timeout s.driver.owner.card) offset len
    exact ⟨moved.fades gone, moved.quiet gone, fun _ here => here⟩
  | copy client srcOffset dstOffset bytes outcome =>
    have moved := gpuCopy_transferred s.driver.owner outcome srcOffset dstOffset bytes
    exact ⟨moved.fades gone, moved.quiet gone, fun _ here => here⟩
  | getApertureRange aperture made =>
    have same := getApertureRange_owner s.driver aperture made
    exact ⟨same.1 ▸ gone, congrArg Owner.card same.1, fun _ here => here⟩
  | stop =>
    obtain ⟨ok, _, _, _, card, _⟩ := teardown_access s.driver
    exact ⟨ok, card, fun _ here => here⟩
  | free => exact ⟨gone, rfl, fun _ here => here⟩

/-- The next action of a run is a copy whose engine does not answer in time. -/
def TimesOut (s : System) (action : Action) : Prop :=
  ∃ client srcOffset dstOffset bytes outcome,
    action = .copy client srcOffset dstOffset bytes outcome ∧ client ∈ s.clients ∧
      (s.driver.owner.gpuCopy (within outcome) srcOffset dstOffset bytes).1 = .ioError

theorem timeout_ends {s : System} {action : Action} (late : TimesOut s action) :
    (step s action).driver.owner.ok = false := by
  obtain ⟨client, srcOffset, dstOffset, bytes, outcome, rfl, here, error⟩ := late
  have known : ¬ ∃ other, (Action.copy client srcOffset dstOffset bytes outcome).client =
      some other ∧ other ∉ s.clients := by
    rintro ⟨other, same, absent⟩
    cases same
    exact absent here
  unfold step
  rw [if_neg known]
  exact (gpuCopy_transferred s.driver.owner outcome srcOffset dstOffset bytes).last error

/-- After a `start` that failed, a `stop` or a copy that timed out, whatever the
clients and the system still call, the card stays as it is and no client is let in. -/
theorem silent_afterwards (env : Boot) (card : Mmio) (before after : List Action) (last : Action)
    (admitted : Admitted step Allowed (launched env card) before) :
    let s := run step (launched env card) before
    let t := step s last
    s.up = false ∨ last = .stop ∨ TimesOut s last →
      (run step t after).driver.owner.card = t.driver.owner.card ∧
        ∀ client, client ∈ (run step t after).clients → client ∈ t.clients := by
  intro s t ended
  have guarded : Guarded s :=
    run_invariant (fun _ _ allowed here => step_guarded here allowed) admitted
      (launched_guarded env card)
  have gone : t.driver.owner.ok = false := by
    rcases ended with down | stopped | late
    · exact (step_still (guarded.down down) last).gone
    · have here : t.driver = stop s.driver := by
        change (step s last).driver = _
        rw [stopped]
        unfold step
        rw [if_neg (by simp [Action.client])]
      rw [here]
      exact (teardown_access s.driver).1
    · exact timeout_ends late
  have still : Still t (run step t after) := by
    refine @run_kept _ _ step t (Still t) (fun u action here => ?_) after
      ⟨gone, rfl, fun _ here => here⟩
    have next := step_still here.gone action
    exact ⟨next.gone, next.card.trans here.card, fun client kept =>
      here.clients client (next.clients client kept)⟩
  exact ⟨still.card, still.clients⟩

theorem silent_afterwards_desk :
    let t := step (run step (launched deskBoot deskCard) [firstClient])
      (.copy 7 0 0x1000 0x1000 (.timeout deskCard))
    (run step t [.write 7 0 (fun _ => 1) 16, .stop, .freeClient 7,
      .newUserClient 8 milcorixConnectType true]).driver.owner.card = t.driver.owner.card :=
  (silent_afterwards deskBoot deskCard [firstClient] _ _
    ⟨⟨rfl, List.not_mem_nil⟩, trivial⟩
    (.inr (.inr ⟨7, 0, 0x1000, 0x1000, .timeout deskCard, rfl, by decide, rfl⟩))).1

end GspDriver.DriverClients
