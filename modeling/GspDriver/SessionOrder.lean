import GspDriver.SessionRules

/-!
The bring-up keeps the rules, whatever is answered. Each part of the session is
taken through `Meets` once: it asks only what it may, and leaves behind what the
parts after it rely on.
-/

namespace GspDriver.SessionOrder

open Bytes LittleEndian RmCalls TypedControls MemoryList GspMemory Conversation RmSession
  BringupSession SessionRules

variable {given : Given} {past later : Past} {n : Nat}
  {hClient hParent hObject hClass cmd h paramsLen : UInt32} {p : Mem} {α : Type}

/-! Which calls are permitted. -/

theorem granted_grows (granted : Granted past h) (grown : past <:+ later) : Granted later h :=
  known_grows granted grown

/-- Calls that name no object and tell of nothing. -/
def silent : Call → Bool
  | .staticInfo | .fill .. | .buildTables _ | .readPte .. | .firstCommand .. | .selfTest ..
  | .poolTest .. | .allocFb .. => true
  | _ => false

theorem silent_may {call : Call} (quiet : silent call = true) : May given past call := by
  cases call with
  | alloc => cases quiet
  | control => cases quiet
  | memlist => cases quiet
  | modeset => cases quiet
  | _ => exact ⟨⟨nofun, nofun, nofun⟩, ⟨nofun, fun some_ => absurd rfl some_, nofun⟩, nofun⟩

/-- A command with no handle, area or directory in its params, to an object of the driver's. -/
def plain (cmd : UInt32) : Bool :=
  !isInternal cmd && cmd != nv0080SetPageDirectory && cmd != nv90f1CopyPdes &&
    cmd != nv906fGetClassEngineid

theorem control_names (outer : isInternal cmd = false) (client : Granted past hClient)
    (object : Granted past hObject) (inside : ∀ x ∈ handlesInControl cmd p, Granted past x) :
    Names given past (.control hClient hObject cmd (some p) paramsLen) := by
  refine ⟨nofun, ?_, ?_⟩
  · intro x member
    left
    simp only [named, outer, Bool.false_eq_true, if_false, Option.getD_some] at member
    rcases List.mem_cons.mp member with rfl | member
    · exact client
    · rcases List.mem_cons.mp member with rfl | member
      · exact object
      · exact inside x member
  · intro x y inner
    simp only [internalOf, outer, Bool.false_eq_true, if_false] at inner
    cases inner

theorem plain_may (usual : plain cmd = true) (client : Granted past hClient)
    (object : Granted past hObject) :
    May given past (.control hClient hObject cmd (some p) paramsLen) := by
  simp only [plain, Bool.and_eq_true, Bool.not_eq_true', bne_iff_ne] at usual
  obtain ⟨⟨⟨outer, setRoot⟩, copyPdes⟩, classId⟩ := usual
  have internal := outer
  simp only [isInternal, Bool.or_eq_false_iff, beq_eq_false_iff_ne] at internal
  obtain ⟨⟨⟨writeInst, pushbuffer⟩, _⟩, _⟩ := internal
  refine ⟨control_names outer client object ?_, ⟨?_, ?_, nofun⟩, nofun⟩
  · rw [handlesInControl, if_neg setRoot, if_neg classId]
    nofun
  · rw [areas, if_neg writeInst, if_neg pushbuffer]
    nofun
  · rw [directories, if_neg setRoot, if_neg copyPdes]
    exact fun some_ => absurd rfl some_

theorem internal_names (inner : isInternal cmd = true)
    (reported : Known (Reported given hClient hObject) past) :
    Names given past (.control hClient hObject cmd (some p) paramsLen) := by
  refine ⟨nofun, ?_, ?_⟩
  · rw [named, if_pos inner]
    nofun
  · intro x y goes
    rw [internalOf, if_pos inner] at goes
    cases goes
    exact reported

theorem alloc_names {params : GspRpc.Payload} (upto : Upto n past) (late : n ≤ order h)
    (client : Granted past hClient) (parent : Granted past hParent)
    (inside : ∀ x ∈ handlesInAlloc hClass (params.getD zeros), Granted past x) :
    Names given past (.alloc hClient hParent h hClass params paramsLen) := by
  refine ⟨upto_fresh upto ?_, ?_, nofun⟩
  · intro x asked
    cases asked
    exact late
  · intro x member
    left
    rcases List.mem_cons.mp member with rfl | member
    · exact client
    · rcases List.mem_cons.mp member with rfl | member
      · exact parent
      · exact inside x member

/-- A class with nothing in its params that GSP would look up. -/
def bare (hClass : UInt32) : Bool :=
  hClass != nv01Root && hClass != nv01Device0 && hClass != ampereChannelGpfifoA

theorem bare_may {params : GspRpc.Payload} (none_ : bare hClass = true) (upto : Upto n past)
    (late : n ≤ order h) (client : Granted past hClient) (parent : Granted past hParent) :
    May given past (.alloc hClient hParent h hClass params paramsLen) := by
  simp only [bare, Bool.and_eq_true, bne_iff_ne] at none_
  obtain ⟨⟨root, device⟩, channel⟩ := none_
  refine ⟨alloc_names upto late client parent ?_, ⟨?_, fun some_ => absurd rfl some_, ?_⟩, nofun⟩
  · rw [handlesInAlloc, if_neg root, if_neg device, if_neg channel]
    nofun
  · rw [areas, if_neg channel]
    nofun
  · rw [ringOf, if_neg channel]
    nofun

/-- What a constructor leaves: one handle more is used up, and it is granted if the code is. -/
theorem constructed (hClient : UInt32) (a : RmAnswer) {params : GspRpc.Payload}
    (upto : Upto n past) (here : order h < n + 1) :
    let made : Made := ⟨a.rc, if a.rc.isOk then h else 0, a.status.getD 0xffffffff⟩
    let e : Exchange Answer := ⟨.alloc hClient hParent h hClass params paramsLen, a⟩
    Upto (n + 1) (e :: past) ∧ (made.ok = true → made.handle = h ∧ a.rc = .ok () ∧
      a.status = some 0 ∧ Granted (e :: past) h) := by
  refine ⟨upto_next rfl here upto, fun ok => ?_⟩
  obtain ⟨rc, status⟩ := answered_ok.mp ok
  refine ⟨if_pos ?_, rc, status, known_here ⟨rfl, rc, status⟩⟩
  rw [show a.rc = .ok () from rc]
  rfl

theorem onlyIf_meets {c : Bool} {left : α} {d : Session α} {post : α → Past → Prop}
    (yes : c = true → Meets (May given) d past post) (no : c = false → post left past) :
    Meets (May given) (onlyIf c left d) past post :=
  meets_ite yes fun otherwise => meets_pure (no (Bool.eq_false_of_not_eq_true otherwise))

/-! Layer 3. -/

/-- What the parts behind the chain rely on. -/
structure Chained (given : Given) (past : Past) (c : Chain) : Prop where
  info : Known (Informs given c.si) past
  client : Granted past c.hcli
  device : Granted past c.hdev
  subdevice : Granted past c.hsub

theorem chained_grows {c : Chain} (chained : Chained given past c) (grown : past <:+ later) :
    Chained given later c :=
  ⟨known_grows chained.info grown, granted_grows chained.client grown,
    granted_grows chained.device grown, granted_grows chained.subdevice grown⟩

theorem upto_control {e : Exchange Answer} {params : GspRpc.Payload}
    (control : e.call = .control hClient hObject cmd params paramsLen) (upto : Upto n past) :
    Upto n (e :: past) :=
  upto_same (by rw [control]; rfl) upto

theorem recon_meets {si : NvGspStaticInfoFull} (info : Known (Informs given si) past)
    (upto : Upto n past) :
    Meets (May given) (recon si) past fun _ later => Upto n later := by
  have may : ∀ {past : Past} {cmd paramsLen : UInt32},
      cmd = nv2080GetContextBuffersInfo ∨ cmd = nv2080IntrGetKernelTable →
      Known (Informs given si) past →
      May given past (.control si.hClient si.hSubdevice cmd (some zeros) paramsLen) := by
    rintro past cmd paramsLen (rfl | rfl) info
    · exact ⟨internal_names (by decide) (reported_of_informs info),
        ⟨nofun, fun some_ => absurd rfl some_, nofun⟩, nofun⟩
    · exact ⟨internal_names (by decide) (reported_of_informs info),
        ⟨nofun, fun some_ => absurd rfl some_, nofun⟩, nofun⟩
  apply meets_bind
  apply command_meets (may (.inl rfl) info)
  intro a
  apply meets_bind
  apply command_meets (may (.inr rfl) (known_later info))
  intro b
  exact meets_pure (upto_control rfl (upto_control rfl upto))

theorem static_meets :
    Meets (May given) (staticInfo given) [] fun si later =>
      Known (Informs given si) later ∧ Upto 0 later := by
  apply meets_bind
  apply meets_ask (silent_may rfl)
  intro returned
  have info : Known (Informs given (nvGspGetStaticInfo given.stale returned).2)
      [(⟨.staticInfo, returned⟩ : Exchange Answer)] := known_here rfl
  have upto : Upto 0 [(⟨.staticInfo, returned⟩ : Exchange Answer)] := by
    apply upto_same rfl
    intro e member
    cases member
  have asked : Meets (May given) (onlyIf (nvGspGetStaticInfo given.stale returned).1.isOk ()
      (recon (nvGspGetStaticInfo given.stale returned).2)) _ fun _ later => Upto 0 later :=
    onlyIf_meets (fun _ => recon_meets info upto) fun _ => upto
  apply meets_then asked
  intro _ later grown upto
  exact meets_pure ⟨known_grows info grown, upto⟩

/-- A constructor that used up the handle `h`, the last of the first `n`. -/
def Obtained (n : Nat) (h : UInt32) (made : Made) (later : Past) : Prop :=
  Upto n later ∧ (made.ok = true → made.handle = h ∧ Granted later h)

theorem alloc_meets {params : GspRpc.Payload}
    (may : May given past (.alloc hClient hParent h hClass params paramsLen))
    (upto : Upto n past) (here : order h = n) :
    Meets (May given) (construct hClient hParent h hClass params paramsLen) past
      (Obtained (n + 1) h) := by
  apply construct_meets may
  intro a
  obtain ⟨upto, made⟩ := constructed hClient a upto (Nat.lt_succ_of_le here.le)
  refine ⟨upto, fun ok => ?_⟩
  obtain ⟨handle, _, _, granted⟩ := made ok
  exact ⟨handle, granted⟩

theorem client_meets (upto : Upto 0 past) :
    Meets (May given) nvGspRmClientCtor past (Obtained 1 nvGspRmClientHandle) := by
  refine alloc_meets ⟨⟨upto_fresh upto fun _ _ => Nat.zero_le _, ?_, nofun⟩,
    ⟨nofun, fun some_ => absurd rfl some_, nofun⟩, nofun⟩ upto (by decide)
  intro x member
  right
  have root : ld32 (st32 (st32 zeros 0 (nvGspRmClientHandle ||| 0)) 4 0xffffffff) 0 =
      nvGspRmClientHandle := by
    rw [ld32_st32_apart _ _ (by decide), ld32_st32]
    rfl
  simp only [named, handlesInAlloc, if_true, Option.getD_some, root, List.mem_cons,
    List.not_mem_nil, or_false] at member
  rcases member with rfl | rfl | rfl <;> rfl

theorem device_meets (client : Granted past hClient) (upto : Upto 1 past) :
    Meets (May given) (nvGspRmDeviceCtor hClient) past (Obtained 2 nvGspRmDeviceHandle) := by
  refine alloc_meets ⟨alloc_names upto (by decide) client client ?_,
    ⟨nofun, fun some_ => absurd rfl some_, nofun⟩, nofun⟩ upto (by decide)
  intro x member
  have share : ld32 (st32 zeros 4 hClient) 4 = hClient := ld32_st32 ..
  simp only [handlesInAlloc, Option.getD_some, share] at member
  rw [if_neg (by decide), if_pos trivial] at member
  rcases List.mem_singleton.mp member with rfl
  exact client

theorem bare_meets {params : GspRpc.Payload} (none_ : bare hClass = true) (upto : Upto n past)
    (here : order h = n) (client : Granted past hClient) (parent : Granted past hParent) :
    Meets (May given) (construct hClient hParent h hClass params paramsLen) past
      (Obtained (n + 1) h) :=
  alloc_meets (bare_may none_ upto here.ge client parent) upto here

theorem onlyIf_obtains {c : Bool} {d : Session Made}
    (yes : c = true → Meets (May given) d past (Obtained (n + 1) h)) (upto : Upto n past) :
    Meets (May given) (onlyIf c .skipped d) past fun made later =>
      Obtained (n + 1) h made later ∧ (made.ok = true → c = true) := by
  apply onlyIf_meets
  · intro called
    apply meets_mono (yes called)
    exact fun _ _ _ obtained => ⟨obtained, fun _ => called⟩
  · intro _
    exact ⟨⟨upto_mono (Nat.le_succ n) upto, nofun⟩, nofun⟩

theorem chain_meets {si : NvGspStaticInfoFull} (info : Known (Informs given si) past)
    (upto : Upto 0 past) :
    Meets (May given) (chain si) past fun c later =>
      Upto 3 later ∧ (c.ok = true → Chained given later c) := by
  apply meets_then (client_meets upto)
  rintro client told grown ⟨upto, gotClient⟩
  have info := known_grows info grown
  have asked : ∀ ok : client.ok = true, Meets (May given) (nvGspRmDeviceCtor client.handle) told
      (Obtained 2 nvGspRmDeviceHandle) := by
    intro ok
    rw [(gotClient ok).1]
    exact device_meets (gotClient ok).2 upto
  apply meets_then (onlyIf_obtains asked upto)
  rintro device told' grown ⟨⟨upto, gotDevice⟩, madeClient⟩
  have info := known_grows info grown
  have client_granted : client.ok = true → Granted told' client.handle := by
    intro ok
    rw [(gotClient ok).1]
    exact granted_grows (gotClient ok).2 grown
  have device_granted : device.ok = true → Granted told' device.handle := by
    intro ok
    rw [(gotDevice ok).1]
    exact (gotDevice ok).2
  have asked : device.ok = true → Meets (May given)
      (nvGspRmSubdeviceCtor client.handle device.handle) told' (Obtained 3 nvGspRmSubdevHandle) :=
    fun ok => bare_meets (by decide) upto (by decide) (client_granted (madeClient ok))
      (device_granted ok)
  apply meets_then (onlyIf_obtains asked upto)
  rintro subdevice later grown ⟨⟨upto, gotSubdevice⟩, madeDevice⟩
  refine meets_pure ⟨upto, fun ok => ?_⟩
  simp only [Bool.and_eq_true] at ok
  obtain ⟨⟨okClient, okDevice⟩, okSubdevice⟩ := ok
  refine ⟨known_grows info grown, granted_grows (client_granted okClient) grown,
    granted_grows (device_granted okDevice) grown, ?_⟩
  show Granted later subdevice.handle
  rw [(gotSubdevice okSubdevice).1]
  exact (gotSubdevice okSubdevice).2

end GspDriver.SessionOrder
