import GspDriver.SessionOrder

/-!
Layer 4 keeps the rules, and a context that is handed over as `ok` is the one
that GSP was told of: every object in it was granted, the numbers in it are the
ones in the accepted params, and the GPU has worked on the channel.
-/

namespace GspDriver.SessionChannel

open Bytes LittleEndian RmCalls TypedControls MemoryList GspMemory Conversation RmSession
  BringupSession SessionRules SessionOrder

variable {given : Given} {past later : Past} {n : Nat} {c : Chain} {hva : UInt32} {t : Tables}
  {mem : Memory} {engine : NvGspFifoEngn} {Value : Type}

/-! What a context rests on. -/

/-- The device table lists the copy engine. -/
def ListsEngine (hsub : UInt32) (engine : NvGspFifoEngn) : Exchange Answer → Prop :=
  Accepted hsub 0x20801112 fun _ back =>
    nvGspFifoFindEngine (devinfo.value back) rmEngineTypeCopy0 = some engine

/-- The entry of the first page is in video memory as it was built. -/
def ReadsBack (t : Tables) : Exchange Answer → Prop
  | ⟨.readPte spt va, pte⟩ =>
      spt = t.spt ∧ va = t.va ∧ pte = Gmmu.nvGmmuMakePteVram t.phys false false
  | _ => False

structure Mapped (given : Given) (hdev hva : UInt32) (t : Tables) (past : Past) : Prop where
  built : Known (Builds t) past
  taken : Known (TakesRoots given hdev hva t) past
  first : Known (ReadsBack t) past

theorem mapped_grows {hdev : UInt32} (mapped : Mapped given hdev hva t past)
    (grown : past <:+ later) : Mapped given hdev hva t later :=
  ⟨known_grows mapped.built grown, known_grows mapped.taken grown, known_grows mapped.first grown⟩

/-- The first command ran: its semaphore was released after this token. -/
def Executes (ringPhys userdPhys : UInt64) (token : UInt32) : Exchange Answer → Prop
  | ⟨.firstCommand ring userd rung, released⟩ =>
      ring = ringPhys ∧ userd = userdPhys ∧ rung = token ∧ released = true
  | _ => False

def CopiesWithin (scratchVa scratchPhys : UInt64) : Exchange Answer → Prop
  | ⟨.selfTest va phys, tested⟩ => va = scratchVa ∧ phys = scratchPhys ∧ tested.passed = true
  | _ => False

/-- The copy of the self-test did not time out, whatever it moved. -/
def Survives (scratchVa scratchPhys : UInt64) : Exchange Answer → Prop
  | ⟨.selfTest va phys, tested⟩ => va = scratchVa ∧ phys = scratchPhys ∧ tested.ok = true
  | _ => False

def ReachesAll (scratchVa scratchPhys scratchSize : UInt64) : Exchange Answer → Prop
  | ⟨.poolTest va phys size, tested⟩ =>
      va = scratchVa ∧ phys = scratchPhys ∧ size = scratchSize ∧ tested.passed = true
  | _ => False

/-- The params of the channel hold the numbers of the context. -/
def Wires (gpu : Context) (p : Mem) : Prop :=
  ld64 p 8 = gpu.ringVa ∧ ld32 p 16 = gpu.ringEntries ∧ ld32 p 28 = gpu.hVaspace ∧
    ld32 p 128 = gpu.engineType ∧ ld64 p 168 = gpu.userdPhys

structure Wired (given : Given) (past : Past) (gpu : Context) : Prop where
  client : Granted past gpu.hClient
  device : Granted past gpu.hDevice
  vaspace : Granted past gpu.hVaspace
  mapped : ∃ t, t.va = gpu.ringVa ∧ t.phys = gpu.ringPhys ∧
    Mapped given gpu.hDevice gpu.hVaspace t past
  engine : ∃ hsub engine, Known (ListsEngine hsub engine) past ∧
    engine.rmEngineType = gpu.engineType ∧ engine.runlist = gpu.runlist
  channel : Known (Allocates gpu.hDevice gpu.hChannel ampereChannelGpfifoA (Wires gpu)) past
  scheduled : Known (Accepted gpu.hChannel nva06fGpfifoSchedule fun sent _ => sent 0 = 1) past

/-- What only a context with `ok` has. -/
structure Working (past : Past) (gpu : Context) : Prop where
  object : Known (Allocates gpu.hChannel gpu.hCe ampereDmaCopyB
    fun p => ld32 p 4 = gpu.engineType) past
  classId : Known (Accepted gpu.hChannel nv906fGetClassEngineid fun sent back =>
    ld32 sent 0 = gpu.hCe ∧ ld32 back 4 = gpu.classEngineId) past
  some_class : gpu.classEngineId ≠ 0
  executed : Known (Executes gpu.ringPhys gpu.userdPhys ((gpu.runlist <<< 16) ||| gpu.chid)) past
  alive : gpu.scratchSize ≥ 0x20000 → Known (Survives gpu.scratchVa gpu.scratchPhys) past

/-- The memory of an external address space is the plan's for the regions GSP reported, and
the GPU reached both ends of it. Without one the scratch area is the rest of the MiB in
the first region with room. -/
structure Pooled (given : Given) (past : Past) (gpu : Context) : Prop where
  external : gpu.externalVmm = given.external.isSome
  planned : ∀ options, given.external = some options → ∃ si m, Known (Informs given si) past ∧
    nvGspMemoryPlan si.toNvGspStaticInfo options.appVramBytes
      (some ⟨options.consoleVramBase, options.consoleVramSize⟩) = some (0, m) ∧
    gpu.ringPhys = m.servicePhys ∧ gpu.scratchVa = m.appVa ∧ gpu.scratchPhys = m.appPhys ∧
    gpu.scratchSize = m.appBytes
  own : given.external = none → ∃ si, Known (Informs given si) past ∧
    BringupVram.chooseVram si.toNvGspStaticInfo = some gpu.ringPhys ∧
    gpu.scratchVa = gpu.ringVa + 0x3000 ∧ gpu.scratchPhys = gpu.ringPhys + 0x3000 ∧
    gpu.scratchSize = 0xfd000
  probed : gpu.externalVmm = true → Known (CopiesWithin gpu.scratchVa gpu.scratchPhys) past ∧
    Known (ReachesAll gpu.scratchVa gpu.scratchPhys gpu.scratchSize) past

structure Handed (given : Given) (past : Past) (gpu : Context) : Prop where
  wired : Wired given past gpu
  working : Working past gpu
  pooled : Pooled given past gpu

/-! The device table and the address space. -/

theorem typed_ok {t : TypedControl Value} {initial : Value} {a : RmAnswer}
    (ok : (typedAnswer t initial a).ok = true) : a.rc = .ok () ∧ a.status = some 0 ∧
      (typedAnswer t initial a).value = t.value (a.params.getD t.params) := by
  obtain ⟨rc, status, params⟩ := a
  cases rc with
  | error error => cases ok
  | ok _ =>
      simp only [typedAnswer] at ok ⊢
      split at ok
      · cases ok
      · rename_i passes
        rw [if_neg passes]
        exact ⟨trivial, (answered_ok.mp ok).2, rfl⟩

theorem typed_upto {hClient hObject : UInt32} {t : TypedControl Value} {initial : Value}
    (usual : plain t.cmd = true) (client : Granted past hClient) (object : Granted past hObject)
    (upto : Upto n past) :
    Meets (May given) (typed hClient hObject t initial) past fun q later =>
      Upto n later ∧ (q.ok = true → Known (Accepted hObject t.cmd fun sent back =>
        sent = t.params ∧ q.value = t.value back) later) := by
  apply typed_meets (plain_may usual client object)
  intro a
  refine ⟨upto_control rfl upto, fun ok => ?_⟩
  obtain ⟨rc, status, value⟩ := typed_ok ok
  exact known_here ⟨rfl, rfl, rc, status, rfl, value⟩

theorem engine_meets (chained : Chained given past c) (upto : Upto n past) :
    Meets (May given) (copyEngine c) past fun found later => Upto n later ∧
      ∀ engine, found = some engine → Known (ListsEngine c.hsub engine) later := by
  apply meets_then (typed_upto (by decide) chained.client chained.subdevice upto)
  rintro di later _ ⟨upto, table⟩
  refine meets_pure ⟨upto, fun engine found => ?_⟩
  split at found
  · rename_i ok
    apply accepted_mono (table ok)
    rintro sent back ⟨_, value⟩
    rw [← value]
    exact found
  · cases found

/-- The params of the two kinds of constructors and of a page directory, read back. -/

theorem directory_fields (hVASpace : UInt32) (rootPhys : UInt64) :
    ld64 (setPageDirectoryParams hVASpace rootPhys) 0 = rootPhys ∧
      ld32 (setPageDirectoryParams hVASpace rootPhys) 16 = hVASpace := by
  simp (disch := decide) only [setPageDirectoryParams, ld64_st32_apart, ld64_st64, ld32_st32,
    and_self]

theorem pdes_fields (hSubDevice subDeviceId : UInt32) (lo hi pd3 pd2 pd1 : UInt64) :
    let p := copyPdesParams hSubDevice subDeviceId lo hi pd3 pd2 pd1
    ld64 p 40 = pd3 ∧ ld64 p 64 = pd2 ∧ ld64 p 88 = pd1 := by
  simp (disch := decide) only [copyPdesParams, pdesLevel, Nat.reduceAdd, Nat.reduceMul,
    ld64_put_apart, ld64_st32_apart, ld64_st64_apart, ld64_st64, and_self]

/-- `NV_CHANNEL_ALLOC_PARAMS` holds what the configuration says. -/
theorem channel_fields (cfg : NvGspChanCfg) (some_ramfc : cfg.ramfcSize ≠ 0) :
    let p := channelParams cfg
    ld64 p 8 = cfg.gpfifoVa ∧ ld32 p 16 = cfg.gpfifoEntries ∧ ld32 p 28 = cfg.hVASpace ∧
      ld32 p 128 = cfg.engineType ∧
      memdesc p 144 = (cfg.instPhys.toNat, cfg.instSize.toNat) ∧
      memdesc p 168 = (cfg.userdPhys.toNat, cfg.userdSize.toNat) ∧
      memdesc p 192 = (cfg.instPhys.toNat, cfg.ramfcSize.toNat) ∧
      memdesc p 216 = (cfg.mthdbufPhys.toNat, cfg.mthdbufSize.toNat) := by
  simp (disch := decide) only [channelParams, wrMemdesc, memdesc, Nat.reduceAdd, ld64_st32_apart,
    ld64_st64_apart, ld64_st64, ld32_st32_apart, ld32_st64_apart, ld32_st32, some_ramfc, ne_eq,
    not_false_iff, if_true, and_self]

/-! Memory: the address space, the memory object, the tables. -/

theorem vaspace_meets (chained : Chained given past c) (upto : Upto 3 past) :
    Meets (May given) (vaspace given c) past (Obtained 4 nvGspRmVaspaceHandle) := by
  apply meets_ite
  · intro _
    exact bare_meets (by decide) upto (by decide) chained.client chained.device
  · intro _
    exact bare_meets (by decide) upto (by decide) chained.client chained.device

theorem memlist_meets (chained : Chained given past c) (upto : Upto 4 past) :
    Meets (May given) (memlist given c mem) past fun _ later => Upto 5 later := by
  have place : order nvGspRmVramHandle = 4 := by decide
  apply meets_bind
  refine meets_ask ⟨⟨upto_fresh upto ?_, ?_, nofun⟩,
    ⟨nofun, fun some_ => absurd rfl some_, nofun⟩, nofun⟩ ?_
  · intro h asked
    cases asked
    exact place.ge
  · intro h member
    left
    rcases List.mem_cons.mp member with rfl | member
    · exact chained.client
    · rcases List.mem_singleton.mp member with rfl
      exact chained.device
  · intro a
    exact meets_pure (upto_next rfl (by rw [place]; decide) upto)

theorem command_upto {hClient hObject cmd paramsLen : UInt32} {p : Mem}
    (may : May given past (.control hClient hObject cmd (some p) paramsLen)) (upto : Upto n past) :
    Meets (May given) (command hClient hObject cmd p paramsLen) past fun q later =>
      Upto n later ∧ (q.ok = true → Known (Accepted hObject cmd fun sent _ => sent = p) later) := by
  apply command_meets may
  intro a
  refine ⟨upto_control rfl upto, fun ok => ?_⟩
  obtain ⟨rc, status⟩ := answered_ok.mp ok
  exact known_here ⟨rfl, rfl, rc, status, rfl⟩

section Roots

variable {p : Mem} {paramsLen : UInt32}

theorem directory_may (chained : Chained given past c) (space : Granted past hva)
    (built : Since (Builds t) (fun call => !writes call) past)
    (fields : ld64 p 0 = t.pd3 ∧ ld32 p 16 = hva) :
    May given past (.control c.hcli c.hdev nv0080SetPageDirectory (some p) paramsLen) := by
  refine ⟨control_names (by decide) chained.client chained.device ?_, ⟨nofun, ?_, nofun⟩, nofun⟩
  · intro x member
    rcases List.mem_singleton.mp member with rfl
    rw [fields.2]
    exact space
  · refine fun _ => ⟨t, built, fun root member => ?_⟩
    have here : root = ld64 p 0 := List.mem_singleton.mp member
    rw [here, fields.1]
    exact List.mem_cons_self

theorem pdes_may (chained : Chained given past c) (space : Granted past hva)
    (built : Since (Builds t) (fun call => !writes call) past)
    (fields : ld64 p 40 = t.pd3 ∧ ld64 p 64 = t.pd2 ∧ ld64 p 88 = t.pd1) :
    May given past (.control c.hcli hva nv90f1CopyPdes (some p) paramsLen) := by
  refine ⟨control_names (by decide) chained.client space nofun, ⟨nofun, ?_, nofun⟩, nofun⟩
  refine fun _ => ⟨t, built, fun root member => ?_⟩
  have listed : root ∈ [ld64 p 40, ld64 p 64, ld64 p 88] := member
  rw [fields.1, fields.2.1, fields.2.2] at listed
  exact listed

end Roots

theorem roots_meets (chained : Chained given past c) (space : Granted past hva)
    (built : Since (Builds t) (fun call => !writes call) past) (upto : Upto n past) :
    Meets (May given) (handRoots given c hva t) past fun q later =>
      Upto n later ∧ (q.ok = true → Known (TakesRoots given c.hdev hva t) later) := by
  apply meets_ite
  · intro external
    have taken : TakesRoots given c.hdev hva t =
        Accepted c.hdev nv0080SetPageDirectory
          fun sent _ => ld64 sent 0 = t.pd3 ∧ ld32 sent 16 = hva := if_pos external
    have fields := directory_fields hva t.pd3
    rw [taken]
    apply meets_ite
    · intro _
      exact meets_pure ⟨upto, nofun⟩
    · intro _
      apply meets_mono (command_upto (directory_may chained space built fields) upto)
      rintro q later _ ⟨upto, taken⟩
      refine ⟨upto, fun ok => accepted_mono (taken ok) ?_⟩
      intro sent _ same
      rw [same]
      exact fields
  · intro own
    have taken : TakesRoots given c.hdev hva t = Accepted hva nv90f1CopyPdes fun sent _ =>
        ld64 sent 40 = t.pd3 ∧ ld64 sent 64 = t.pd2 ∧ ld64 sent 88 = t.pd1 := if_neg own
    have fields := pdes_fields 0 0 t.va (t.va + RmSession.nv90f1CopyPdesPagesizeDefault - 1)
      t.pd3 t.pd2 t.pd1
    rw [taken]
    apply meets_mono (command_upto (pdes_may chained space built fields) upto)
    rintro q later _ ⟨upto, taken⟩
    refine ⟨upto, fun ok => accepted_mono (taken ok) ?_⟩
    intro sent _ same
    rw [same]
    exact fields

theorem map_meets (chained : Chained given past c) (space : Granted past hva)
    (upto : Upto n past) :
    Meets (May given) (mapMemory given c hva t) past fun mapped later =>
      Upto n later ∧ (mapped = true → Mapped given c.hdev hva t later) := by
  apply meets_bind
  apply meets_ask (silent_may rfl)
  intro grc
  have upto : Upto n ((⟨.buildTables t, grc⟩ : Exchange Answer) :: past) := upto_same rfl upto
  have grown := List.suffix_cons (⟨.buildTables t, grc⟩ : Exchange Answer) past
  apply meets_ite
  · intro zero
    have built : Since (Builds t) (fun call => !writes call)
        ((⟨.buildTables t, grc⟩ : Exchange Answer) :: past) := since_here ⟨rfl, zero⟩
    apply meets_then (roots_meets (chained_grows chained grown) (granted_grows space grown) built
      upto)
    rintro handed told grown ⟨upto, taken⟩
    apply meets_bind
    apply meets_ask (silent_may rfl)
    intro pte
    refine meets_pure ⟨upto_same rfl upto, fun mapped => ?_⟩
    simp only [Bool.and_eq_true, beq_iff_eq] at mapped
    exact ⟨known_later (known_grows (since_known built) grown), known_later (taken mapped.1),
      known_here ⟨rfl, rfl, mapped.2⟩⟩
  · intro _
    exact meets_pure ⟨upto, nofun⟩

/-! The channel. -/

theorem fill_meets {phys : UInt64} {len : UInt32} (upto : Upto n past) :
    Meets (May given) (ask (Call.fill phys len 0)) past fun _ later =>
      Upto n later ∧ Zeroed (phys.toNat, len.toNat) later ∧
        ∀ area, Zeroed area past → Zeroed area later :=
  meets_ask (silent_may rfl) fun _ =>
    ⟨upto_same rfl upto, since_here ⟨rfl, Nat.le_refl _, Nat.le_refl _⟩,
      fun _ before => since_next rfl before⟩

/-- The buffers of a channel and its ring have been cleared. -/
structure Emptied (cfg : NvGspChanCfg) (vphys : UInt64) (past : Past) : Prop where
  inst : Zeroed (cfg.instPhys.toNat, cfg.instSize.toUInt32.toNat) past
  userd : Zeroed (cfg.userdPhys.toNat, cfg.userdSize.toUInt32.toNat) past
  mthdbuf : Zeroed (cfg.mthdbufPhys.toNat, cfg.mthdbufSize.toUInt32.toNat) past
  ring : Zeroed (vphys.toNat, (cfg.gpfifoEntries * 8).toNat) past

theorem clear_meets {cfg : NvGspChanCfg} {vphys : UInt64} (upto : Upto n past) :
    Meets (May given) (clearBuffers cfg vphys) past fun _ later =>
      Upto n later ∧ Emptied cfg vphys later := by
  apply meets_then (fill_meets upto)
  rintro _ _ _ ⟨upto, inst, _⟩
  apply meets_then (fill_meets upto)
  rintro _ _ _ ⟨upto, userd, behindUserd⟩
  apply meets_then (fill_meets upto)
  rintro _ _ _ ⟨upto, mthdbuf, behindMthdbuf⟩
  apply meets_mono (fill_meets upto)
  rintro _ _ _ ⟨upto, ring, behindRing⟩
  exact ⟨upto, behindRing _ (behindMthdbuf _ (behindUserd _ inst)),
    behindRing _ (behindMthdbuf _ userd), behindRing _ mthdbuf, ring⟩

/-- An area is cleared with any area around it. -/
theorem zeroed_inside {base size whole : Nat} (zeroed : Zeroed (base, whole) past)
    (within : size ≤ whole) : Zeroed (base, size) past := by
  apply since_mono zeroed
  rintro ⟨call, a⟩ holds
  cases call with
  | fill phys len val =>
      obtain ⟨zero, below, above⟩ := holds
      exact ⟨zero, below, (Nat.add_le_add_left within base).trans above⟩
  | _ => cases holds

theorem channel_may {p : Mem} {hClient hDevice h paramsLen : UInt32} {cfg : NvGspChanCfg}
    (upto : Upto n past) (late : n ≤ order h) (client : Granted past hClient)
    (device : Granted past hDevice) (space : Granted past cfg.hVASpace)
    (emptied : Emptied cfg t.phys past) (mapped : Mapped given hDevice cfg.hVASpace t past)
    (instSize : cfg.instSize = 0x1000) (userdSize : cfg.userdSize = 0x200)
    (mthdbufSize : cfg.mthdbufSize = 0x5000) (ramfcSize : cfg.ramfcSize = 0x200)
    (entries : cfg.gpfifoEntries = 0x100) (va : cfg.gpfifoVa = t.va)
    (params : p = channelParams cfg) :
    May given past (.alloc hClient hDevice h ampereChannelGpfifoA (some p) paramsLen) := by
  obtain ⟨fieldVa, fieldEntries, fieldSpace, _, inst, userd, ramfc, mthdbuf⟩ :=
    channel_fields cfg (by rw [ramfcSize]; decide)
  rw [← params] at fieldVa fieldEntries fieldSpace inst userd ramfc mthdbuf
  have cleared := emptied.inst
  rw [instSize] at cleared inst
  have clearedUserd := emptied.userd
  rw [userdSize] at clearedUserd userd
  have clearedMthdbuf := emptied.mthdbuf
  rw [mthdbufSize] at clearedMthdbuf mthdbuf
  have clearedRing := emptied.ring
  rw [entries] at clearedRing fieldEntries
  rw [ramfcSize] at ramfc
  refine ⟨alloc_names upto late client device ?_,
    ⟨?_, fun some_ => absurd rfl some_, ?_⟩, nofun⟩
  · intro x member
    have here : x = ld32 p 28 := List.mem_singleton.mp member
    rw [here, fieldSpace]
    exact space
  · intro area member
    have listed : area ∈ [memdesc p 144, memdesc p 168, memdesc p 192, memdesc p 216] := member
    rw [inst, userd, ramfc, mthdbuf] at listed
    simp only [List.mem_cons, List.not_mem_nil, or_false] at listed
    rcases listed with rfl | rfl | rfl | rfl
    · exact cleared
    · exact clearedUserd
    · exact zeroed_inside cleared (by decide)
    · exact clearedMthdbuf
  · intro r ring
    have found : (⟨hDevice, ld32 p 28, ld64 p 8, (ld32 p 16).toNat * 8⟩ : Ring) = r :=
      Option.some.inj ring
    rw [fieldSpace, fieldVa, fieldEntries] at found
    cases found
    exact ⟨t, mapped.built, mapped.taken, va.symm, clearedRing⟩

theorem allocates_meets {hClient hParent h hClass paramsLen : UInt32} {params : GspRpc.Payload}
    (may : May given past (.alloc hClient hParent h hClass params paramsLen))
    (upto : Upto n past) (here : order h = n) :
    Meets (May given) (construct hClient hParent h hClass params paramsLen) past
      fun made later => Upto (n + 1) later ∧ (made.ok = true → made.handle = h ∧
        Granted later h ∧ Known (Allocates hParent h hClass fun p => p = params.getD zeros) later) := by
  apply construct_meets may
  intro a
  obtain ⟨upto, made⟩ := constructed hClient a upto (Nat.lt_succ_of_le here.le)
  refine ⟨upto, fun ok => ?_⟩
  obtain ⟨handle, rc, status, granted⟩ := made ok
  exact ⟨handle, granted, known_here ⟨rfl, rfl, rfl, rfl, rc, status⟩⟩

theorem query_upto {hClient hObject cmd paramsLen : UInt32} {p : Mem} {initial : Value}
    {read : Mem → Value} (may : May given past (.control hClient hObject cmd (some p) paramsLen))
    (upto : Upto n past) :
    Meets (May given) (query hClient hObject cmd p paramsLen initial read) past fun q later =>
      Upto n later ∧ (q.ok = true → Known (Accepted hObject cmd fun sent back =>
        sent = p ∧ q.value = read back) later) := by
  apply query_meets may
  intro a
  refine ⟨upto_control rfl upto, fun ok => ?_⟩
  obtain ⟨rc, status⟩ := answered_ok.mp ok
  refine known_here ⟨rfl, rfl, rc, status, rfl, if_pos ?_⟩
  rw [show a.rc = .ok () from rc]
  rfl

/-- The engine's object on a channel, as far as it came. -/
structure Objected (past : Past) (hchan engineType : UInt32) (object : CopyObject) : Prop where
  allocated : object.ok = true → Known (Allocates hchan object.hce ampereDmaCopyB
    fun p => ld32 p 4 = engineType) past
  classed : object.classEngineId ≠ 0 → Known (Accepted hchan nv906fGetClassEngineid
    fun sent back => ld32 sent 0 = object.hce ∧ ld32 back 4 = object.classEngineId) past

theorem allocates_mono {hParent hObject hClass : UInt32} {fact other : Mem → Prop}
    (known : Known (Allocates hParent hObject hClass fact) past)
    (weaker : ∀ p, fact p → other p) : Known (Allocates hParent hObject hClass other) past := by
  obtain ⟨⟨call, a⟩, member, holds⟩ := known
  refine ⟨⟨call, a⟩, member, ?_⟩
  cases call with
  | alloc _ _ _ _ params _ =>
      obtain ⟨parent, object, classed, fact, answered⟩ := holds
      exact ⟨parent, object, classed, weaker _ fact, answered⟩
  | _ => cases holds

theorem object_meets {hchan engineType : UInt32} (chained : Chained given past c)
    (chan : Granted past hchan) (upto : Upto 6 past) :
    Meets (May given) (copyObject c hchan engineType) past fun object later =>
      Upto 7 later ∧ Objected later hchan engineType object := by
  have place : order (nvGspRmCeObjHandle ||| 0) = 6 := by decide
  have made : Meets (May given) (nvGspRmCeObjAlloc c.hcli hchan (nvGspRmCeObjHandle ||| 0)
      ampereDmaCopyB engineType) past _ :=
    allocates_meets (bare_may (by decide) upto place.ge chained.client chan) upto place
  apply meets_then made
  rintro made told grown ⟨upto, got⟩
  apply meets_ite
  · intro ok
    obtain ⟨_, granted, allocated⟩ := got ok
    have chained := chained_grows chained grown
    have chan := granted_grows chan grown
    have sent : ld32 (st32 zeros 0 (nvGspRmCeObjHandle ||| 0)) 0 = nvGspRmCeObjHandle ||| 0 :=
      ld32_st32 ..
    have may : May given told (.control c.hcli hchan nv906fGetClassEngineid
        (some (st32 zeros 0 (nvGspRmCeObjHandle ||| 0))) 16) := by
      refine ⟨control_names (by decide) chained.client chan ?_,
        ⟨nofun, fun some_ => absurd rfl some_, nofun⟩, nofun⟩
      intro x member
      have here : x = ld32 (st32 zeros 0 (nvGspRmCeObjHandle ||| 0)) 0 :=
        List.mem_singleton.mp member
      rw [here, sent]
      exact granted
    apply meets_then (query_upto may upto)
    rintro ceid later grown ⟨upto, answers⟩
    refine meets_pure ⟨upto, fun _ => ?_, fun known => ?_⟩
    · apply allocates_mono (known_grows allocated grown)
      intro p same
      rw [same]
      exact ld32_st32 ..
    · by_cases answered : ceid.ok = true
      · apply accepted_mono (answers answered)
        rintro p back ⟨same, value⟩
        refine ⟨by rw [same, sent], ?_⟩
        rw [← value]
        exact (if_pos answered).symm
      · exact absurd (if_neg answered) known
  · intro _
    exact meets_pure ⟨upto, nofun, fun some_ => absurd rfl some_⟩

theorem objected_grows {hchan engineType : UInt32} {object : CopyObject}
    (objected : Objected past hchan engineType object) (grown : past <:+ later) :
    Objected later hchan engineType object :=
  ⟨fun ok => known_grows (objected.allocated ok) grown,
    fun some_ => known_grows (objected.classed some_) grown⟩

/-! The self-tests change where the ring is, and whether the context is good. -/

def Kept (gpu out : Context) : Prop :=
  ∃ gpPut seq objectBound ok selftestOk poolSelftestOk, out =
    { gpu with
      gpPut := gpPut, seq := seq, objectBound := objectBound, ok := ok, selftestOk := selftestOk
      poolSelftestOk := poolSelftestOk }

/-- A pool that is handed over was copied into and probed. -/
def Probed (past : Past) (gpu : Context) : Prop :=
  gpu.externalVmm = true → gpu.scratchSize ≥ 0x20000 →
    Known (CopiesWithin gpu.scratchVa gpu.scratchPhys) past ∧
      Known (ReachesAll gpu.scratchVa gpu.scratchPhys gpu.scratchSize) past

theorem selfTest_meets {gpu : Context} (cleared : gpu.poolSelftestOk = false)
    (upto : Upto n past) :
    Meets (May given) (selfTest gpu) past fun out later => Upto n later ∧ Kept gpu out ∧
      (out.ok = true → gpu.ok = true ∧ Probed later gpu ∧ (gpu.scratchSize ≥ 0x20000 →
        Known (Survives gpu.scratchVa gpu.scratchPhys) later)) := by
  apply meets_ite
  · intro _
    apply meets_bind
    apply meets_ask (silent_may rfl)
    intro tested
    have copied : tested.passed = true → Known (CopiesWithin gpu.scratchVa gpu.scratchPhys)
        ((⟨.selfTest gpu.scratchVa gpu.scratchPhys, tested⟩ : Exchange Answer) :: past) :=
      fun passed => known_here ⟨rfl, rfl, passed⟩
    have survived : tested.ok = true → Known (Survives gpu.scratchVa gpu.scratchPhys)
        ((⟨.selfTest gpu.scratchVa gpu.scratchPhys, tested⟩ : Exchange Answer) :: past) :=
      fun ok => known_here ⟨rfl, rfl, ok⟩
    have upto : Upto n
        ((⟨.selfTest gpu.scratchVa gpu.scratchPhys, tested⟩ : Exchange Answer) :: past) :=
      upto_same rfl upto
    have probing : Meets (May given) (onlyIf (gpu.externalVmm && tested.passed)
        { gpu.copied tested with selftestOk := tested.passed }
        (poolTest { gpu.copied tested with selftestOk := tested.passed }))
        ((⟨.selfTest gpu.scratchVa gpu.scratchPhys, tested⟩ : Exchange Answer) :: past)
        fun out later => Upto n later ∧ Kept gpu out ∧
          (out.ok = true → gpu.ok = true ∧ tested.ok = true) ∧
          (out.poolSelftestOk = true → tested.passed = true ∧
            Known (ReachesAll gpu.scratchVa gpu.scratchPhys gpu.scratchSize) later) := by
      apply onlyIf_meets
      · intro called
        simp only [Bool.and_eq_true] at called
        apply meets_bind
        apply meets_ask (silent_may rfl)
        intro pooled
        refine meets_pure ⟨upto_same rfl upto, ⟨_, _, _, _, _, _, rfl⟩, ?_, ?_⟩
        · intro ok
          have both := (Bool.and_eq_true_iff.mp ok).1
          exact Bool.and_eq_true_iff.mp (Bool.and_eq_true_iff.mp both).1
        · intro passed
          exact ⟨called.2, known_here ⟨rfl, rfl, rfl, passed⟩⟩
      · intro _
        refine ⟨upto, ⟨_, _, _, _, _, _, rfl⟩, Bool.and_eq_true_iff.mp, fun passed => ?_⟩
        have never : gpu.poolSelftestOk = true := passed
        rw [cleared] at never
        cases never
    apply meets_then probing
    rintro _ later grown ⟨upto, ⟨gpPut, seq, objectBound, ok, selftestOk, poolOk, rfl⟩, was, probed⟩
    refine meets_pure ⟨upto, ⟨_, _, _, _, _, _, rfl⟩, fun good => ?_⟩
    simp only [Bool.and_eq_true, Bool.or_eq_true, Bool.not_eq_true'] at good
    refine ⟨(was good.1).1, fun external _ => ?_,
      fun _ => known_grows (survived (was good.1).2) grown⟩
    rcases good.2 with own | passed
    · rw [external] at own
      cases own
    · exact ⟨known_grows (copied (probed passed).1) grown, (probed passed).2⟩
  · intro skipped
    refine meets_pure ⟨upto, ⟨_, _, _, _, _, _, rfl⟩, fun ok => ?_⟩
    simp only [ok, Bool.true_and, decide_eq_true_eq] at skipped
    exact ⟨ok, fun _ large => absurd large skipped, fun large => absurd large skipped⟩

/-! The hand-over. -/

theorem tables_range (given : Given) (mem : Memory) :
    (tablesFor given mem).va = RmSession.nv90f1CopyPdesPagesizeDefault ∧
      (tablesFor given mem).phys = mem.vphys := by
  rw [tablesFor]
  split
  · exact ⟨rfl, rfl⟩
  · exact ⟨rfl, rfl⟩

/-- A plan with code 0 is one for at least a gibibyte. -/
theorem planned_app {si : NvGspStaticInfo} {appBytes : UInt64} {extra : Option VramRange.NvVramSpan}
    {m : NvGspMemoryLayout} (planned : nvGspMemoryPlan si appBytes extra = some (0, m)) :
    m.appBytes = appBytes ∧ appBytes ≥ nvVramMinAppBytes := by
  rw [nvGspMemoryPlan] at planned
  split at planned
  · cases planned
  rename_i arguments
  simp only [not_or, UInt64.not_lt] at arguments
  refine ⟨?_, arguments.2.2.1⟩
  simp only at planned
  split at planned
  · cases planned
  split at planned
  · cases planned
  split at planned
  · cases planned
  obtain ⟨found, _, laid⟩ := Option.map_eq_some_iff.mp planned
  rw [layOut] at laid
  split at laid
  · rename_i refused
    exact absurd (Prod.ext_iff.mp laid).1 refused
  · simp only at laid
    split at laid
    · cases laid
    · cases laid
      rfl

theorem chosen_pool {si : NvGspStaticInfoFull} {options : NvGspOptions}
    (chosen : chooseMemory given si = some mem) (external : given.external = some options) :
    nvGspMemoryPlan si.toNvGspStaticInfo options.appVramBytes
        (some ⟨options.consoleVramBase, options.consoleVramSize⟩) = some (0, mem.layout) ∧
      mem.vphys = mem.layout.servicePhys := by
  rw [chooseMemory, external] at chosen
  simp only at chosen
  split at chosen
  · rename_i m planned
    cases chosen
    exact ⟨planned, rfl⟩
  · cases chosen

theorem chosen_first {si : NvGspStaticInfoFull} (chosen : chooseMemory given si = some mem)
    (none_ : given.external = none) :
    BringupVram.chooseVram si.toNvGspStaticInfo = some mem.vphys ∧
      mem.vsize = BringupVram.vsize := by
  rw [chooseMemory, none_] at chosen
  obtain ⟨vphys, first, rfl⟩ := Option.map_eq_some_iff.mp chosen
  exact ⟨first, rfl⟩

/-- The context with its wiring, its objects and its memory, once the tests of it are over. -/
theorem handed_kept {gpu out : Context} (kept : Kept gpu out) (wired : Wired given past gpu)
    (working : Working past gpu) (pooled : Pooled given past gpu) : Handed given past out := by
  obtain ⟨gpPut, seq, objectBound, ok, selftestOk, poolOk, rfl⟩ := kept
  exact ⟨⟨wired.client, wired.device, wired.vaspace, wired.mapped, wired.engine, wired.channel,
    wired.scheduled⟩, ⟨working.object, working.classId, working.some_class, working.executed,
    working.alive⟩, ⟨pooled.external, pooled.planned, pooled.own, pooled.probed⟩⟩

/-- What the channel is built on. -/
structure Founded (given : Given) (past : Past) (c : Chain) (hva : UInt32) (mem : Memory)
    (engine : NvGspFifoEngn) : Prop where
  chained : Chained given past c
  space : Granted past hva
  mapped : Mapped given c.hdev hva (tablesFor given mem) past
  listed : Known (ListsEngine c.hsub engine) past
  chosen : chooseMemory given c.si = some mem

theorem founded_grows (founded : Founded given past c hva mem engine) (grown : past <:+ later) :
    Founded given later c hva mem engine :=
  ⟨chained_grows founded.chained grown, granted_grows founded.space grown,
    mapped_grows founded.mapped grown, known_grows founded.listed grown, founded.chosen⟩

theorem ramfc_some : (chanCfg given c hva mem engine).ramfcSize ≠ 0 :=
  show (0x200 : UInt64) ≠ 0 by decide

section HandOver

variable {hchan : UInt32} {object : CopyObject} {execOk : Bool}

theorem context_wired (founded : Founded given past c hva mem engine)
    (allocated : Known (Allocates c.hdev hchan ampereChannelGpfifoA
      fun p => p = channelParams (chanCfg given c hva mem engine)) past)
    (scheduled : Known (Accepted hchan nva06fGpfifoSchedule fun sent _ => sent 0 = 1) past) :
    Wired given past
      (contextFor given (chanCfg given c hva mem engine) mem hchan engine object execOk) where
  client := founded.chained.client
  device := founded.chained.device
  vaspace := founded.space
  mapped := ⟨tablesFor given mem, (tables_range given mem).1, (tables_range given mem).2,
    founded.mapped⟩
  engine := ⟨c.hsub, engine, founded.listed, rfl, rfl⟩
  channel := by
    apply allocates_mono allocated
    intro p same
    obtain ⟨va, entries, space, engineType, _, userd, _⟩ :=
      channel_fields (chanCfg given c hva mem engine) ramfc_some
    rw [← same] at va entries space engineType userd
    exact ⟨va, entries, space, engineType, UInt64.toNat_inj.mp (congrArg Prod.fst userd)⟩
  scheduled := scheduled

theorem context_working (executed : execOk = true → Known (Executes mem.vphys
      (chanCfg given c hva mem engine).userdPhys ((engine.runlist <<< 16) ||| 0)) past)
    (objected : Objected past hchan engine.rmEngineType object)
    (ok : (contextFor given (chanCfg given c hva mem engine) mem hchan engine object execOk).ok =
      true)
    (alive : (contextFor given (chanCfg given c hva mem engine) mem hchan engine object
      execOk).scratchSize ≥ 0x20000 → Known (Survives
        (contextFor given (chanCfg given c hva mem engine) mem hchan engine object execOk).scratchVa
        (contextFor given (chanCfg given c hva mem engine) mem hchan engine object
          execOk).scratchPhys) past) :
    Working past
      (contextFor given (chanCfg given c hva mem engine) mem hchan engine object execOk) := by
  have all : (execOk && object.ok && object.classEngineId != 0) = true := ok
  simp only [Bool.and_eq_true, bne_iff_ne] at all
  obtain ⟨⟨ran, made⟩, classed⟩ := all
  exact ⟨objected.allocated made, objected.classed classed, classed, executed ran, alive⟩

theorem context_pooled (founded : Founded given past c hva mem engine)
    (probed : Probed past
      (contextFor given (chanCfg given c hva mem engine) mem hchan engine object execOk)) :
    Pooled given past
      (contextFor given (chanCfg given c hva mem engine) mem hchan engine object execOk) where
  external := rfl
  planned := by
    intro options external
    obtain ⟨planned, service⟩ := chosen_pool founded.chosen external
    have pool : given.external.isSome = true := by rw [external]; rfl
    exact ⟨c.si, mem.layout, founded.chained.info, planned, service, if_pos pool, if_pos pool,
      if_pos pool⟩
  own := by
    intro none_
    have alone : ¬ given.external.isSome = true := by rw [none_]; exact Bool.false_ne_true
    obtain ⟨first, size⟩ := chosen_first founded.chosen none_
    refine ⟨c.si, founded.chained.info, first, if_neg alone, if_neg alone, ?_⟩
    refine (if_neg alone).trans ?_
    rw [size]
    decide
  probed := by
    intro external
    apply probed external
    obtain ⟨options, here⟩ := Option.isSome_iff_exists.mp external
    obtain ⟨app, least⟩ := planned_app (chosen_pool founded.chosen here).1
    have size : (contextFor given (chanCfg given c hva mem engine) mem hchan engine object
        execOk).scratchSize = mem.layout.appBytes := if_pos external
    rw [size, app]
    have small : (0x20000 : UInt64) ≤ nvVramMinAppBytes := by decide
    exact UInt64.le_trans small least

end HandOver

/-- From the first command to the hand-over. -/
theorem command_meets_handed {hchan : UInt32} {object : CopyObject}
    (founded : Founded given past c hva mem engine)
    (allocated : Known (Allocates c.hdev hchan ampereChannelGpfifoA
      fun p => p = channelParams (chanCfg given c hva mem engine)) past)
    (scheduled : Known (Accepted hchan nva06fGpfifoSchedule fun sent _ => sent 0 = 1) past)
    (objected : Objected past hchan engine.rmEngineType object) (upto : Upto 7 past) :
    Meets (May given)
      (ask (Call.firstCommand mem.vphys (chanCfg given c hva mem engine).userdPhys
          ((engine.runlist <<< 16) ||| 0)) >>= fun execOk =>
        if given.gpu then
          selfTest (contextFor given (chanCfg given c hva mem engine) mem hchan engine object
            execOk) >>= fun gpu => pure (some gpu)
        else pure none) past fun gpu later =>
      Upto 7 later ∧ ∀ out, gpu = some out → out.ok = true → Handed given later out := by
  apply meets_bind
  apply meets_ask (silent_may rfl)
  intro execOk
  obtain ⟨e, here⟩ : ∃ e : Exchange Answer, e = ⟨.firstCommand mem.vphys
    (chanCfg given c hva mem engine).userdPhys ((engine.runlist <<< 16) ||| 0), execOk⟩ := ⟨_, rfl⟩
  have ran : execOk = true → Executes mem.vphys (chanCfg given c hva mem engine).userdPhys
      ((engine.runlist <<< 16) ||| 0) e := by
    intro ran
    rw [here]
    exact ⟨rfl, rfl, rfl, ran⟩
  have upto : Upto 7 (e :: past) := upto_same (by rw [here]; rfl) upto
  have grown := List.suffix_cons e past
  rw [← here]
  apply meets_ite
  · intro _
    apply meets_then (selfTest_meets rfl upto)
    rintro gpu later tested ⟨upto, kept, good⟩
    have grown := grown.trans tested
    refine meets_pure ⟨upto, fun out here ok => ?_⟩
    cases here
    obtain ⟨was, probed, alive⟩ := good ok
    have executed := fun was => known_grows (known_here (ran was)) tested
    exact handed_kept kept
      (context_wired (founded_grows founded grown) (known_grows allocated grown)
        (known_grows scheduled grown))
      (context_working executed (objected_grows objected grown) was alive)
      (context_pooled (founded_grows founded grown) probed)
  · intro _
    exact meets_pure ⟨upto, nofun⟩

theorem channel_meets (founded : Founded given past c hva mem engine) (upto : Upto 5 past) :
    Meets (May given) (channel given c hva mem engine) past fun gpu later =>
      Upto 7 later ∧ ∀ out, gpu = some out → out.ok = true → Handed given later out := by
  have range := tables_range given mem
  have place : order (nvGspRmChannelHandle ||| 0) = 5 := by decide
  apply meets_then (clear_meets upto)
  rintro _ _ grown ⟨upto, emptied⟩
  have founded := founded_grows founded grown
  rw [← range.2] at emptied
  apply meets_then (allocates_meets (channel_may upto place.ge founded.chained.client
    founded.chained.device founded.space emptied founded.mapped rfl rfl rfl rfl rfl
    range.1.symm rfl) upto place)
  rintro chan _ grown ⟨upto, got⟩
  have founded := founded_grows founded grown
  apply meets_ite
  · intro ok
    obtain ⟨handle, granted, allocated⟩ := got ok
    rw [handle]
    -- The bind's answer is only logged.
    apply meets_then (command_upto (plain_may (by decide) founded.chained.client granted) upto)
    rintro _ _ bound ⟨upto, _⟩
    have founded := founded_grows founded bound
    apply meets_then (command_upto (plain_may (by decide) founded.chained.client
      (granted_grows granted bound)) upto)
    rintro sched _ grown ⟨upto, enabled⟩
    have founded := founded_grows founded grown
    have granted := granted_grows granted (bound.trans grown)
    have allocated := known_grows allocated (bound.trans grown)
    apply meets_ite
    · intro ok
      have scheduled := accepted_mono (enabled ok) fun sent _ same =>
        show sent 0 = 1 by rw [same]; rfl
      apply meets_then (object_meets founded.chained granted upto)
      rintro object _ grown ⟨upto, objected⟩
      have founded := founded_grows founded grown
      have allocated := known_grows allocated grown
      have scheduled := known_grows scheduled grown
      exact command_meets_handed founded allocated scheduled objected upto
    · intro _
      exact meets_pure ⟨upto_mono (by decide) upto, nofun⟩
  · intro _
    exact meets_pure ⟨upto_mono (by decide) upto, nofun⟩

theorem work_meets {found : Option NvGspFifoEngn} {made : Made}
    (chained : Chained given past c) (chosen : chooseMemory given c.si = some mem)
    (listed : ∀ engine, found = some engine → Known (ListsEngine c.hsub engine) past)
    (space : made.ok = true → Granted past made.handle) (upto : Upto 4 past) :
    Meets (May given) (workOn given c found made mem) past fun gpu later =>
      Upto 7 later ∧ ∀ out, gpu = some out → out.ok = true → Handed given later out := by
  apply meets_then (memlist_meets chained upto)
  rintro registered _ grown upto
  have chained := chained_grows chained grown
  apply meets_ite
  · intro ready
    simp only [Bool.and_eq_true] at ready
    have space := granted_grows (space ready.2) grown
    apply meets_then (map_meets chained space upto)
    rintro mapped _ wrote ⟨upto, map⟩
    cases mapped with
    | false => exact meets_pure ⟨upto_mono (by decide) upto, nofun⟩
    | true =>
        cases found with
        | none => exact meets_pure ⟨upto_mono (by decide) upto, nofun⟩
        | some engine =>
            exact channel_meets ⟨chained_grows chained wrote, granted_grows space wrote, map rfl,
              known_grows (listed engine rfl) (grown.trans wrote), chosen⟩ upto
  · intro _
    exact meets_pure ⟨upto_mono (by decide) upto, nofun⟩

theorem memory_meets (chained : Chained given past c) (upto : Upto 3 past) :
    Meets (May given) (memoryAndChannel given c) past fun gpu later =>
      Upto 7 later ∧ ∀ out, gpu = some out → out.ok = true → Handed given later out := by
  apply meets_then (engine_meets chained upto)
  rintro found told grown ⟨upto, listed⟩
  have chained := chained_grows chained grown
  have info : Meets (May given) (fbGetInfo c) told fun _ later => Upto 3 later := by
    apply meets_then (typed_upto (by decide) chained.client chained.subdevice upto)
    exact fun _ _ _ now => meets_pure now.1
  apply meets_then info
  rintro _ _ wrote upto
  have chained := chained_grows chained wrote
  apply meets_then (vaspace_meets chained upto)
  rintro hva _ made ⟨upto, space⟩
  have chained := chained_grows chained made
  have listed := fun engine here => known_grows (listed engine here) (wrote.trans made)
  cases chosen : chooseMemory given c.si with
  | none => exact meets_pure ⟨upto_mono (by decide) upto, nofun⟩
  | some mem =>
      refine work_meets chained chosen listed (fun ok => ?_) upto
      rw [(space ok).1]
      exact (space ok).2

end GspDriver.SessionChannel
