import GspDriver.SessionDisplay

/-!
The bring-up as a conversation. Its other end is any party that answers by a
state of its own, late replies to earlier calls included, or stops answering.
One such party is GSP behind the shared queues, with the channel and the static
buffers that the wrappers keep.
-/

namespace GspDriver.RmConversation

open Bytes LittleEndian GspRpc GspRm RmCalls TypedControls MemoryList GspMemory Conversation
  RmSession BringupSession SessionRules SessionChannel SessionDisplay

/-! GSP behind the queues. -/

/-- The channel, the buffers of `nv_gsp_rm_alloc`, `nv_gsp_rm_control` and
`nv_gsp_rm_vram_memlist`, and the number of the call. -/
structure Wire where
  ch : NvGspRpcChan
  alloc : RmBuffers
  control : RmBuffers
  memlist : Mem
  call : Nat

def nvVgpuMsgFunctionGetGspStaticInfo : UInt32 := 65

/-- `world` is what GSP does to the shared memory between the polls of each
call, `device` what everything else answers. -/
def overQueues (polls : Nat) (world : Nat → Nat → Mem → Mem)
    (device : Nat → (call : Call) → Answer call) (w : Wire) :
    (call : Call) → Option (Answer call × Wire)
  | .staticInfo =>
      (nvGspRpcCall polls (world w.call) w.ch nvVgpuMsgFunctionGetGspStaticInfo (some zeros)
        nvGspSciSize nvGspSciSize rmTimeoutUs).map fun returned =>
          (returned.1, { w with ch := returned.2, call := w.call + 1 })
  | .alloc hClient hParent hObject hClass params paramsLen =>
      (nvGspRmAlloc polls (world w.call) w.ch w.alloc hClient hParent hObject hClass params
        paramsLen).map fun returned =>
          (⟨returned.rc, returned.status, returned.params⟩,
            { w with ch := returned.ch, alloc := returned.bufs, call := w.call + 1 })
  | .control hClient hObject cmd params paramsLen =>
      (nvGspRmControl polls (world w.call) w.ch w.control hClient hObject cmd params
        paramsLen).map fun returned =>
          (⟨returned.rc, returned.status, returned.params⟩,
            { w with ch := returned.ch, control := returned.bufs, call := w.call + 1 })
  | .memlist hClient hDevice phys size =>
      let sent := nvGspRmVramMemlist polls (world w.call) w.ch w.memlist hClient hDevice phys size
      sent.returned.map fun returned =>
        (⟨returned.rc, returned.rpcResult⟩,
          { w with ch := returned.ch, memlist := written w.memlist sent.writes
                   call := w.call + 1 })
  | call => some (device w.call call, { w with call := w.call + 1 })

/-! What holds of every conversation. -/

/-- What the bring-up said to a party, newest first, and how it ended. -/
def talk {σ : Type} (reply : σ → (call : Call) → Option (Answer call × σ)) (s : σ)
    (given : Given) : Talk Answer Outcome :=
  converse reply s [] (layers given)

/-- Each call of a conversation was permitted when it was made, an unanswered one too. -/
def Throughout (may : Past → Call → Prop) (t : Talk Answer Outcome) : Prop :=
  (∀ recent e earlier, t.said = recent ++ e :: earlier → may earlier e.call) ∧
    ∀ call, t.ending = .waiting call → may t.said call

variable {σ : Type}

theorem talk_permitted (reply : σ → (call : Call) → Option (Answer call × σ)) (s : σ)
    (given : Given) : Throughout (May given) (talk reply s given) := by
  obtain ⟨proper, _, waiting⟩ := meets_sound reply s (layers_meets given) trivial
  refine ⟨fun recent e earlier said => ?_, waiting⟩
  have split : Proper (May given) (recent ++ e :: earlier) := said ▸ proper
  exact proper_split split

theorem throughout_mono {may other : Past → Call → Prop} {t : Talk Answer Outcome}
    (holds : Throughout may t) (weaker : ∀ past call, may past call → other past call) :
    Throughout other t :=
  ⟨fun recent e earlier said => weaker _ _ (holds.1 recent e earlier said),
    fun call waiting => weaker _ _ (holds.2 call waiting)⟩

/-- No call names an object before GSP granted it, or asks for a handle twice;
the controls on GSP's own objects carry what the static info left in `si`. -/
theorem calls_name_granted (reply : σ → (call : Call) → Option (Answer call × σ)) (s : σ)
    (given : Given) : Throughout (Names given) (talk reply s given) :=
  throughout_mono (talk_permitted reply s given) fun _ _ may => may.names

/-- The channel's and the display's areas of video memory are told to GSP while they
are all zero, page directories as they were built, and a ring where GSP has the roots
of the tables that map it. -/
theorem memory_told_cleared (reply : σ → (call : Call) → Option (Answer call × σ)) (s : σ)
    (given : Given) : Throughout (Told given) (talk reply s given) :=
  throughout_mono (talk_permitted reply s given) fun _ _ may => may.told

/-- A modeset drives an output that was seen, described and assigned, after HDMI was
asked for on it, on channels that were granted, with pixels where the platform wants
them. -/
theorem modeset_backed (reply : σ → (call : Call) → Option (Answer call × σ)) (s : σ)
    (given : Given) : Throughout (fun past call => ∀ m, call = .modeset m → Backed given past m)
      (talk reply s given) :=
  throughout_mono (talk_permitted reply s given) fun _ _ may => may.backed

/-- A context with `ok` is the one GSP was told of, and a published scanout the
one that was driven. -/
theorem outcome_delivered (reply : σ → (call : Call) → Option (Answer call × σ)) (s : σ)
    (given : Given) (out : Outcome) (ended : (talk reply s given).ending = .done out) :
    Delivers given (talk reply s given).said out :=
  (meets_sound reply s (layers_meets given) trivial).2.1 out ended

/-! A GSP that grants everything but the displays. -/

def oneRegion : NvGspStaticInfoFull :=
  ⟨⟨1, fun _ => ⟨0x3400000, 0x3ffffffff, 0, 0⟩⟩, 0, 0, 0xc2000000, 0xc2000001, 0xc2000002⟩

def plainGiven : Given := ⟨none, none, true, oneRegion⟩

/-- Device table and class id share the params: one engine, a copy engine on runlist 5. -/
def kindParams : Mem := st32 (st32 (st32 zeros 4 1) 20 9) 24 5

def kindAnswer : (call : Call) → Answer call
  | .staticInfo => .errTimeout
  | .alloc _ _ _ hClass params _ =>
      ⟨.ok (), some (if hClass = nv04DisplayCommon then 0x1f else 0), params⟩
  | .control .. => ⟨.ok (), some 0, some kindParams⟩
  | .memlist .. => ⟨.ok (), some 0⟩
  | .fill .. => ()
  | .buildTables _ => 0
  | .readPte .. => Gmmu.nvGmmuMakePteVram 0x13400000 false false
  | .firstCommand .. => true
  | .selfTest .. => ⟨true, true, 2, 1, true⟩
  | .poolTest .. => ⟨true, true, 3, 2, true⟩
  | .allocFb .. => (0, 0, 0)
  | .modeset _ => ⟨false, false, false⟩

def kindReply (_ : Unit) (call : Call) : Option (Answer call × Unit) := some (kindAnswer call, ())

theorem outcome_delivered_kind : ∃ gpu, gpu.ok = true ∧
    Handed plainGiven (talk kindReply () plainGiven).said gpu := by
  have ended : ∃ gpu, (talk kindReply () plainGiven).ending = .done ⟨some gpu, none⟩ ∧
      gpu.ok = true := ⟨_, rfl, rfl⟩
  obtain ⟨gpu, ended, ok⟩ := ended
  exact ⟨gpu, ok, (outcome_delivered kindReply () plainGiven _ ended).gpu gpu rfl ok⟩

end GspDriver.RmConversation
