import GspDriver.BringupSession

/-!
What GSP-RM may rely on in the calls of the bring-up: an object is named only
after GSP granted it, a handle is asked for once, an area of video memory is
told only after it was cleared, and a page directory only after it was built.
Each rule is about one call and what was said before it.
-/

namespace GspDriver.SessionRules

open Bytes LittleEndian RmCalls TypedControls MemoryList GspMemory Conversation RmSession
  BringupSession

abbrev Past := List (Exchange Answer)

/-! Handles. -/

def allocated : Call → Option UInt32
  | .alloc _ _ hObject _ _ _ => some hObject
  | .memlist .. => some nvGspRmVramHandle
  | _ => none

def Grants (h : UInt32) : Exchange Answer → Prop
  | ⟨.alloc _ _ hObject _ _ _, a⟩ => hObject = h ∧ a.rc = .ok () ∧ a.status = some 0
  | ⟨.memlist .., a⟩ => nvGspRmVramHandle = h ∧ a.rc = .ok () ∧ a.rpcResult = some 0
  | _ => False

def Granted (past : Past) (h : UInt32) : Prop := Known (Grants h) past

/-- Handles inside the params of an alloc: the client that shares a device, the
address space of a channel. -/
def handlesInAlloc (hClass : UInt32) (p : Mem) : List UInt32 :=
  if hClass = nv01Root then [ld32 p 0]
  else if hClass = nv01Device0 then [ld32 p 4]
  else if hClass = ampereChannelGpfifoA then [ld32 p 28]
  else []

/-- Handles inside the params of a control: an address space, an engine object. -/
def handlesInControl (cmd : UInt32) (p : Mem) : List UInt32 :=
  if cmd = nv0080SetPageDirectory then [ld32 p 16]
  else if cmd = nv906fGetClassEngineid then [ld32 p 0]
  else []

/-- The controls that go to objects of GSP's own. -/
def isInternal (cmd : UInt32) : Bool :=
  cmd == nv2080DisplayWriteInstMem || cmd == nv2080DisplayChannelPushbuffer ||
    cmd == nv2080GetContextBuffersInfo || cmd == nv2080IntrGetKernelTable

def named : Call → List UInt32
  | .alloc hClient hParent _ hClass params _ =>
      hClient :: hParent :: handlesInAlloc hClass (params.getD zeros)
  | .control hClient hObject cmd params _ =>
      if isInternal cmd then []
      else hClient :: hObject :: handlesInControl cmd (params.getD zeros)
  | .memlist hClient hDevice _ _ => [hClient, hDevice]
  | _ => []

/-- The root of the objects is its own client and its own parent. -/
def rootOf : Call → Option UInt32
  | .alloc _ _ hObject hClass _ _ => if hClass = nv01Root then some hObject else none
  | _ => none

def internalOf : Call → Option (UInt32 × UInt32)
  | .control hClient hObject cmd _ _ => if isInternal cmd then some (hClient, hObject) else none
  | _ => none

/-- `si` after the static info was asked for: GSP's if the reply was taken, else
what was there before or zeros. -/
def Informs (given : Given) (si : NvGspStaticInfoFull) : Exchange Answer → Prop
  | ⟨.staticInfo, returned⟩ => (nvGspGetStaticInfo given.stale returned).2 = si
  | _ => False

/-- The handles in it. -/
def Reported (given : Given) (hClient hSubdevice : UInt32) (e : Exchange Answer) : Prop :=
  ∃ si, Informs given si e ∧ si.hClient = hClient ∧ si.hSubdevice = hSubdevice

structure Names (given : Given) (past : Past) (call : Call) : Prop where
  fresh : ∀ h, allocated call = some h → ∀ e ∈ past, allocated e.call ≠ some h
  granted : ∀ h ∈ named call, Granted past h ∨ rootOf call = some h
  internal : ∀ hClient hSubdevice, internalOf call = some (hClient, hSubdevice) →
    Known (Reported given hClient hSubdevice) past

theorem reported_of_informs {given : Given} {past : Past} {si : NvGspStaticInfoFull}
    (info : Known (Informs given si) past) : Known (Reported given si.hClient si.hSubdevice) past :=
  known_mono info fun _ here => ⟨si, here, rfl, rfl⟩

/-! Video memory. -/

/-- Base and size at `off` of a memory descriptor. -/
def memdesc (p : Mem) (off : Nat) : Nat × Nat := ((ld64 p off).toNat, (ld64 p (off + 8)).toNat)

/-- The areas that a call tells GSP of. -/
def areas : Call → List (Nat × Nat)
  | .alloc _ _ _ hClass params _ =>
      let p := params.getD zeros
      if hClass = ampereChannelGpfifoA then
        [memdesc p 144, memdesc p 168, memdesc p 192, memdesc p 216]
      else []
  | .control _ _ cmd params _ =>
      let p := params.getD zeros
      if cmd = nv2080DisplayWriteInstMem then [memdesc p 0]
      else if cmd = nv2080DisplayChannelPushbuffer then
        [((ld64 p 8).toNat, (ld64 p 16).toNat + 1)]
      else []
  | _ => []

def Clears (area : Nat × Nat) : Exchange Answer → Prop
  | ⟨.fill phys len val, _⟩ =>
      val = 0 ∧ phys.toNat ≤ area.1 ∧ area.1 + area.2 ≤ phys.toNat + len.toNat
  | _ => False

/-- Calls that may change video memory. -/
def writes : Call → Bool
  | .fill .. | .buildTables _ | .firstCommand .. | .selfTest .. | .poolTest .. | .allocFb ..
  | .modeset _ => true
  | _ => false

/-- What is zero before the call is zero behind it. -/
def spares : Call → Bool
  | .fill _ _ val => val == 0
  | call => !writes call

/-- The area was cleared, and the driver has set no byte of video memory since. -/
def Zeroed (area : Nat × Nat) (past : Past) : Prop := Since (Clears area) spares past

/-- The page directories that a call hands to GSP. -/
def directories : Call → List UInt64
  | .control _ _ cmd params _ =>
      let p := params.getD zeros
      if cmd = nv0080SetPageDirectory then [ld64 p 0]
      else if cmd = nv90f1CopyPdes then [ld64 p 40, ld64 p 64, ld64 p 88]
      else []
  | _ => []

def Builds (t : Tables) : Exchange Answer → Prop
  | ⟨.buildTables built, rc⟩ => built = t ∧ rc = 0
  | _ => False

/-- Device and address space of a channel, GPU address and length in bytes of its ring. -/
structure Ring where
  device : UInt32
  space : UInt32
  va : UInt64
  len : Nat

def ringOf : Call → Option Ring
  | .alloc _ hParent _ hClass params _ =>
      let p := params.getD zeros
      if hClass = ampereChannelGpfifoA then
        some ⟨hParent, ld32 p 28, ld64 p 8, (ld32 p 16).toNat * 8⟩
      else none
  | _ => none

/-! What answers establish. -/

/-- A control on `hObject` that succeeded, by what was sent and what came back. -/
def Accepted (hObject cmd : UInt32) (fact : Mem → Mem → Prop) : Exchange Answer → Prop
  | ⟨.control _ object called params _, a⟩ =>
      object = hObject ∧ called = cmd ∧ a.rc = .ok () ∧ a.status = some 0 ∧
        fact (params.getD zeros) ((a.params.getD (params.getD zeros)))
  | _ => False

theorem accepted_mono {hObject cmd : UInt32} {fact other : Mem → Mem → Prop} {past : Past}
    (known : Known (Accepted hObject cmd fact) past)
    (weaker : ∀ sent back, fact sent back → other sent back) :
    Known (Accepted hObject cmd other) past := by
  obtain ⟨⟨call, a⟩, member, holds⟩ := known
  refine ⟨⟨call, a⟩, member, ?_⟩
  cases call with
  | control _ object called params _ =>
      obtain ⟨place, was, rc, status, fact⟩ := holds
      exact ⟨place, was, rc, status, weaker _ _ fact⟩
  | _ => cases holds

/-- GSP took the roots of the tables for the address space. -/
def TakesRoots (given : Given) (hdev hva : UInt32) (t : Tables) : Exchange Answer → Prop :=
  if given.external.isSome then
    Accepted hdev nv0080SetPageDirectory fun sent _ => ld64 sent 0 = t.pd3 ∧ ld32 sent 16 = hva
  else
    Accepted hva nv90f1CopyPdes fun sent _ =>
      ld64 sent 40 = t.pd3 ∧ ld64 sent 64 = t.pd2 ∧ ld64 sent 88 = t.pd1

/-- A channel's ring is mapped by tables whose roots GSP has for its address space;
directories are told while video memory is as the build of their tables left it. -/
structure Told (given : Given) (past : Past) (call : Call) : Prop where
  cleared : ∀ area ∈ areas call, Zeroed area past
  built : directories call ≠ [] → ∃ t, Since (Builds t) (fun call => !writes call) past ∧
    ∀ root ∈ directories call, root ∈ [t.pd3, t.pd2, t.pd1]
  ring : ∀ r, ringOf call = some r → ∃ t, Known (Builds t) past ∧
    Known (TakesRoots given r.device r.space t) past ∧ t.va = r.va ∧
    Zeroed (t.phys.toNat, r.len) past

/-- An object that GSP granted, by its place and its params. -/
def Allocates (hParent hObject hClass : UInt32) (fact : Mem → Prop) : Exchange Answer → Prop
  | ⟨.alloc _ parent object class_ params _, a⟩ =>
      parent = hParent ∧ object = hObject ∧ class_ = hClass ∧ fact (params.getD zeros) ∧
        a.rc = .ok () ∧ a.status = some 0
  | _ => False

/-! A modeset. -/

/-- The display's bit was set in the mask that came back; only the return code of this
control is looked at, its status is for the log. -/
def Connects (hdisp did : UInt32) : Exchange Answer → Prop
  | ⟨.control _ object cmd params _, a⟩ =>
      object = hdisp ∧ cmd = nv0073GetConnectState ∧ a.rc = .ok () ∧
        ld32 (a.params.getD (params.getD zeros)) 8 &&& did ≠ 0
  | _ => False

/-- The protocol of its output, 0 if GSP did not say. -/
def Speaks (hdisp did pr : UInt32) : Exchange Answer → Prop
  | ⟨.control _ object cmd params _, a⟩ =>
      object = hdisp ∧ cmd = nv0073OrGetInfo ∧ ld32 (params.getD zeros) 4 = did ∧
        pr = if a.rc.isOk then ld32 (a.params.getD (params.getD zeros)) 16 else 0
  | _ => False

/-- Its EDID was read, at least a whole block, and begins as `edid` does. -/
def Describes (hdisp did : UInt32) (edid : Mem) : Exchange Answer → Prop :=
  Accepted hdisp 0x730245 fun sent back =>
    ld32 sent 4 = did ∧ 128 ≤ (edidSize back).toNat ∧ ∀ i < 128, edid i = back (16 + i)

def AssignsSor (hdisp did sor : UInt32) : Exchange Answer → Prop :=
  Accepted hdisp 0x731152 fun sent back =>
    ld32 sent 4 = did ∧ findSor did back (List.range 4) = sor

/-- HDMI was asked for on the display; the answer is for the log. -/
def EnablesHdmi (hdisp did : UInt32) : Exchange Answer → Prop
  | ⟨.control _ object cmd params _, _⟩ =>
      object = hdisp ∧ cmd = nv0073SetHdmiEnable ∧ ld32 (params.getD zeros) 4 = did ∧
        (params.getD zeros) 8 = 1
  | _ => False

def Provides (w h pitch : UInt32) (fb2 : UInt64) (fbTarget : UInt32) : Exchange Answer → Prop
  | ⟨.allocFb w' h' pitch', a⟩ => w' = w ∧ h' = h ∧ pitch' = pitch ∧ a = (0, fb2, fbTarget)
  | _ => False

/-- The output that a modeset drives. -/
structure Output (past : Past) (hdisp did : UInt32) (m : DisplayModeset.Modeset) : Prop where
  present : Known (Connects hdisp did) past
  protocol : Known (Speaks hdisp did m.mdProto) past
  timing : ∃ edid, Known (Describes hdisp did edid) past ∧
    GspDisp.nvEdidParseDtd edid 128 = some m.mt
  sor : Known (AssignsSor hdisp did m.mdSor) past ∧ m.mdSor.toNat < 4
  hdmi : Known (EnablesHdmi hdisp did) past

/-- Where the pixels lie: in the platform's buffer, or at the fixed place if it has none. -/
structure Placed (given : Given) (past : Past) (m : DisplayModeset.Modeset) : Prop where
  own : given.provides = false →
    m.fb2 = 0x14000000 ∧ m.fbTarget = GspDisp.ctxdmaTargetVram
  provided : given.provides = true → m.fb2 ≠ 0 ∧
    Known (Provides m.mt.hact m.mt.vact (m.mt.hact * 4) m.fb2 m.fbTarget) past

structure Backed (given : Given) (past : Past) (m : DisplayModeset.Modeset) : Prop where
  wanted : given.skips = false
  core : Granted past 0xc77d0000
  window : Granted past 0xc67e0000
  output : ∃ hdisp did, Granted past hdisp ∧ Output past hdisp did m
  placed : Placed given past m

/-- What the bring-up may do after `past`. -/
structure May (given : Given) (past : Past) (call : Call) : Prop where
  names : Names given past call
  told : Told given past call
  backed : ∀ m, call = .modeset m → Backed given past m

/-! The handles in the order in which they are asked for. -/

def handles : List UInt32 :=
  [nvGspRmClientHandle, nvGspRmDeviceHandle, nvGspRmSubdevHandle, nvGspRmVaspaceHandle,
    nvGspRmVramHandle, nvGspRmChannelHandle, nvGspRmCeObjHandle, nvGspRmDispcommonHandle,
    0xc7700000, 0xc77d0000, 0xc67e0000]

def order (h : UInt32) : Nat := handles.idxOf h

/-- Only the first `n` handles have been asked for. -/
def Upto (n : Nat) (past : Past) : Prop :=
  ∀ e ∈ past, ∀ h, allocated e.call = some h → order h < n

theorem upto_mono {m n : Nat} {past : Past} (below : m ≤ n) (upto : Upto m past) : Upto n past :=
  fun e member h asked => (upto e member h asked).trans_le below

theorem upto_same {n : Nat} {past : Past} {e : Exchange Answer} (none_ : allocated e.call = none)
    (upto : Upto n past) : Upto n (e :: past) := by
  intro f member h asked
  rcases List.mem_cons.mp member with rfl | before
  · rw [none_] at asked
    cases asked
  · exact upto f before h asked

theorem upto_next {n : Nat} {past : Past} {e : Exchange Answer} {h : UInt32}
    (here : allocated e.call = some h) (now : order h < n + 1) (upto : Upto n past) :
    Upto (n + 1) (e :: past) := by
  intro f member other asked
  rcases List.mem_cons.mp member with rfl | before
  · rw [here] at asked
    cases asked
    exact now
  · exact Nat.lt_succ_of_lt (upto f before other asked)

theorem upto_fresh {n : Nat} {past : Past} {call : Call} (upto : Upto n past)
    (late : ∀ h, allocated call = some h → n ≤ order h) :
    ∀ h, allocated call = some h → ∀ e ∈ past, allocated e.call ≠ some h := by
  intro h asked e member before
  exact absurd (upto e member h before) (Nat.not_lt.mpr (late h asked))

/-! Rules for the wrappers. -/

theorem answered_ok {rc : Except RmError Unit} {status : Option UInt32} :
    (rc.isOk && status.getD 0xffffffff == 0) = true ↔ rc = .ok () ∧ status = some 0 := by
  have stated : status.getD 0xffffffff = 0 ↔ status = some 0 := by
    cases status with
    | none => simp
    | some word => simp
  have returned : rc.isOk = true ↔ rc = .ok () := by
    cases rc with
    | error error => simp [Except.isOk, Except.toBool]
    | ok _ => simp [Except.isOk, Except.toBool]
  rw [Bool.and_eq_true, beq_iff_eq, stated, returned]

variable {may : Past → Call → Prop} {past : Past} {Value : Type}

theorem construct_meets {hClient hParent h hClass paramsLen : UInt32} {params : GspRpc.Payload}
    {post : Made → Past → Prop}
    (permitted : may past (.alloc hClient hParent h hClass params paramsLen))
    (next : ∀ a : RmAnswer, post ⟨a.rc, if a.rc.isOk then h else 0, a.status.getD 0xffffffff⟩
      (⟨.alloc hClient hParent h hClass params paramsLen, a⟩ :: past)) :
    Meets may (construct hClient hParent h hClass params paramsLen) past post :=
  meets_bind (meets_ask permitted fun a => meets_pure (next a))

theorem query_meets {hClient hObject cmd paramsLen : UInt32} {params : Mem} {initial : Value}
    {read : Mem → Value} {post : Queried Value → Past → Prop}
    (permitted : may past (.control hClient hObject cmd (some params) paramsLen))
    (next : ∀ a : RmAnswer, post ⟨a.rc, a.status.getD 0xffffffff,
        if a.rc.isOk then read (a.params.getD params) else initial⟩
      (⟨.control hClient hObject cmd (some params) paramsLen, a⟩ :: past)) :
    Meets may (query hClient hObject cmd params paramsLen initial read) past post :=
  meets_bind (meets_ask permitted fun a => meets_pure (next a))

theorem command_meets {hClient hObject cmd paramsLen : UInt32} {params : Mem}
    {post : Queried Unit → Past → Prop}
    (permitted : may past (.control hClient hObject cmd (some params) paramsLen))
    (next : ∀ a : RmAnswer, post ⟨a.rc, a.status.getD 0xffffffff, ()⟩
      (⟨.control hClient hObject cmd (some params) paramsLen, a⟩ :: past)) :
    Meets may (command hClient hObject cmd params paramsLen) past post :=
  query_meets permitted fun a => by simpa only [ite_self] using next a

theorem typed_meets {hClient hObject : UInt32} {t : TypedControl Value} {initial : Value}
    {post : Queried Value → Past → Prop}
    (permitted : may past (.control hClient hObject t.cmd (some t.params) t.size))
    (next : ∀ a : RmAnswer, post (typedAnswer t initial a)
      (⟨.control hClient hObject t.cmd (some t.params) t.size, a⟩ :: past)) :
    Meets may (typed hClient hObject t initial) past post :=
  meets_bind (meets_ask permitted fun a => meets_pure (next a))

end GspDriver.SessionRules
