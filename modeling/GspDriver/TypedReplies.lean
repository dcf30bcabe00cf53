import GspDriver.TypedControls
import GspDriver.ReplyCopy

/-!
When the typed wrappers hand back what the GSP sent. A reply that the control
accepts may end anywhere behind its header; a wrapper that succeeds has then
read the rest of its fields from its own request. How long a reply must be
depends on the wrapper, and on what the reply itself counts.
-/

namespace GspDriver.TypedReplies

open Bytes LittleEndian GspRpc GspRm ReplyCopy RmCalls TypedControls

variable {Value : Type}

/-! What a control hands on. -/

section Controls

variable (polls : Nat) (world : Nat → Mem → Mem) (ch : NvGspRpcChan) (bufs : RmBuffers)
  (hClient hObject : UInt32)

/-- The RPC that a wrapper's control makes. -/
def controlRpc (t : Control) : Option (RpcReturn × NvGspRpcChan) :=
  let call := controlCall hClient hObject t.cmd t.size
  nvGspRpcCall polls world ch call.function
    (some (rmRequest call bufs.req (some t.params) t.size)) (call.hdrSize + t.size)
    (call.hdrSize + t.size) rmTimeoutUs

/-- The bytes of a reply that the control accepts. -/
def Replied (t : Control) (reply : List UInt8) : Prop :=
  ∃ rlen after, controlRpc polls world ch bufs hClient hObject t = some (.ok reply rlen 0, after) ∧
    24 ≤ reply.length

/-- The params that come back: the reply's, and behind its end the request's. -/
def paramsBack (reply : List UInt8) (params : Mem) : Mem := fun x =>
  if 24 + x < reply.length then bytesAt reply (24 + x) else params x

variable {polls world ch bufs hClient hObject} {t : Control}

theorem size_fits : ¬ t.size > (controlCall hClient hObject t.cmd t.size).capacity := by
  rw [gt_iff_lt, UInt32.not_lt, UInt32.le_iff_toNat_le]
  exact t.room

theorem rpc_length {reply : List UInt8} {rlen mres : UInt32} {after : NvGspRpcChan}
    (called : controlRpc polls world ch bufs hClient hObject t =
      some (.ok reply rlen mres, after)) :
    reply.length = min rlen.toNat (24 + t.size.toNat) := by
  have room := t.room
  have header : (controlCall hClient hObject t.cmd t.size).hdrSize.toNat = 24 := rfl
  rw [reply_length called, UInt32.toNat_add, header, Nat.mod_eq_of_lt (by omega)]

theorem params_back {reply : List UInt8} {rlen : UInt32} (rep : Mem)
    (length : reply.length = min rlen.toNat (24 + t.size.toNat)) (header : 24 ≤ rlen.toNat) :
    rmParams (controlCall hClient hObject t.cmd t.size)
        (putBytes rep 0 reply.length (bytesAt reply)) rlen (some t.params) t.size =
      some (paramsBack reply t.params) := by
  have hdr : (controlCall hClient hObject t.cmd t.size).hdrSize.toNat = 24 := rfl
  have avail := UInt32.toNat_sub_of_le rlen (controlCall hClient hObject t.cmd t.size).hdrSize
    (UInt32.le_iff_toNat_le.mpr header)
  have least : (if t.size < rlen - (controlCall hClient hObject t.cmd t.size).hdrSize then t.size
      else rlen - (controlCall hClient hObject t.cmd t.size).hdrSize).toNat =
      reply.length - 24 := by
    rw [Words.lesser_toNat]
    omega
  apply congrArg some
  funext x
  rw [least]
  show putBytes t.params 0 (reply.length - 24)
    (fun i => putBytes rep 0 reply.length (bytesAt reply) (24 + i)) x = _
  rw [putBytes_apply, paramsBack, Nat.sub_zero]
  by_cases inside : 24 + x < reply.length
  · rw [if_pos (by omega), if_pos inside, putBytes_apply, if_pos (by omega), Nat.sub_zero]
  · rw [if_neg (by omega), if_neg inside]

/-- A reply that reaches past the header makes the control succeed. -/
theorem control_replied {reply : List UInt8}
    (replied : Replied polls world ch bufs hClient hObject t reply) :
    ∃ returned, nvGspRmControl polls world ch bufs hClient hObject t.cmd (some t.params) t.size =
        some returned ∧ returned.rc = .ok () ∧
      returned.status = some (ld32 (bytesAt reply) 12) ∧
      returned.params = some (paramsBack reply t.params) := by
  obtain ⟨rlen, after, rpc, header⟩ := replied
  have hdr : (controlCall hClient hObject t.cmd t.size).hdrSize.toNat = 24 := rfl
  have length := rpc_length rpc
  have accepted :
      ¬ ((0 : UInt32) ≠ 0 ∨ rlen < (controlCall hClient hObject t.cmd t.size).hdrSize) := by
    rw [UInt32.lt_iff_toNat_lt, hdr]
    rintro (wrong | short)
    · exact wrong rfl
    · omega
  have status : ld32 (putBytes bufs.rep 0 reply.length (bytesAt reply))
      (controlCall hClient hObject t.cmd t.size).statusOff = ld32 (bytesAt reply) 12 := by
    apply ld32_congr
    intro i below
    show putBytes bufs.rep 0 reply.length (bytesAt reply) (12 + i) = _
    rw [putBytes_apply, if_pos (by omega), Nat.sub_zero]
  rw [nvGspRmControl, rmCall, if_neg size_fits]
  refine ⟨_, Option.map_eq_some_iff.mpr ⟨_, rpc, rfl⟩, ?_⟩
  simp only [if_neg accepted]
  exact ⟨trivial, congrArg some status, params_back bufs.rep length (by omega)⟩

/-- Nothing else does. -/
theorem control_accepts {returned : RmReturn}
    (called : nvGspRmControl polls world ch bufs hClient hObject t.cmd (some t.params) t.size =
      some returned) (ok : returned.rc = .ok ()) :
    ∃ reply, Replied polls world ch bufs hClient hObject t reply := by
  have hdr : (controlCall hClient hObject t.cmd t.size).hdrSize.toNat = 24 := rfl
  rw [nvGspRmControl, rmCall, if_neg size_fits] at called
  obtain ⟨⟨outcome, after⟩, rpc, rfl⟩ := Option.map_eq_some_iff.mp called
  cases outcome with
  | errTimeout => cases ok
  | errBounds => cases ok
  | ok reply rlen mres =>
      have length := rpc_length (t := t) rpc
      by_cases failed : mres ≠ 0 ∨ rlen < (controlCall hClient hObject t.cmd t.size).hdrSize
      · simp only [if_pos failed] at ok
        cases ok
      · obtain ⟨accepted, long⟩ := not_or.mp failed
        rw [UInt32.not_lt, UInt32.le_iff_toNat_le, hdr] at long
        obtain rfl := not_not.mp accepted
        exact ⟨reply, rlen, after, rpc, by omega⟩

theorem replied_unique {one two : List UInt8}
    (first : Replied polls world ch bufs hClient hObject t one)
    (second : Replied polls world ch bufs hClient hObject t two) : one = two := by
  obtain ⟨_, _, here, _⟩ := first
  obtain ⟨_, _, there, _⟩ := second
  rw [here] at there
  cases there
  rfl

end Controls

/-! What a wrapper hands back. -/

section Wrappers

variable (polls : Nat) (world : Nat → Mem → Mem) (ch : NvGspRpcChan) (bufs : RmBuffers)
  (hClient hObject : UInt32)

/-- A wrapper that succeeds hands back what lies in the reply, and keeps a
promise about it. -/
def ReturnsSent (t : Control) (promise : Value → Prop) (result : Option (TypedReturn Value)) :
    Prop :=
  ∀ ret, result = some ret → ret.rc = .ok () →
    ∃ reply, Replied polls world ch bufs hClient hObject t reply ∧
      (∀ place ∈ ret.reads, place.1 + place.2 ≤ reply.length) ∧
      ∀ value, ret.value = some value → promise value

/-- What is asked of a reply that makes a wrapper succeed. -/
def Suffices (t : TypedControl Value) (promise : Value → Prop) (reply : List UInt8) : Prop :=
  (∀ place ∈ t.places (paramsBack reply t.params), 24 + place.1 + place.2 ≤ reply.length) ∧
    promise (t.value (paramsBack reply t.params))

variable {polls world ch bufs hClient hObject} {t : TypedControl Value} {promise : Value → Prop}

theorem covered_iff {reply : List UInt8} (header : 24 ≤ reply.length)
    (places : List (Nat × Nat)) :
    (∀ place ∈ replyPlaces places, place.1 + place.2 ≤ reply.length) ↔
      ∀ place ∈ places, 24 + place.1 + place.2 ≤ reply.length := by
  have hdr : nvRmCtrlHdrSize.toNat = 24 := rfl
  have status : nvRmCtrlStatusOff = 12 := rfl
  rw [replyPlaces, List.forall_mem_cons, List.forall_mem_map, hdr, status]
  exact and_iff_right (by simp only; omega)

theorem typedReturn_ok {returned : RmReturn} {reply : List UInt8} (ok : returned.rc = .ok ())
    (status : returned.status = some (ld32 (bytesAt reply) 12))
    (params : returned.params = some (paramsBack reply t.params))
    (passes : t.checksStatus → ld32 (bytesAt reply) 12 = 0) :
    (typedReturn t returned).rc = .ok () ∧
      (typedReturn t returned).value = some (t.value (paramsBack reply t.params)) ∧
      (typedReturn t returned).reads = replyPlaces (t.places (paramsBack reply t.params)) := by
  have passed : ¬ (t.checksStatus ∧ ld32 (bytesAt reply) 12 ≠ 0) :=
    fun failed => failed.2 (passes failed.1)
  simp only [typedReturn, ok, status, params, Option.getD_some, if_neg passed]
  exact ⟨trivial, trivial, trivial⟩

theorem typedReturn_passes {returned : RmReturn} {reply : List UInt8}
    (called : returned.rc = .ok ()) (status : returned.status = some (ld32 (bytesAt reply) 12))
    (ok : (typedReturn t returned).rc = .ok ()) : t.checksStatus → ld32 (bytesAt reply) 12 = 0 := by
  intro checks
  by_contra failed
  simp only [typedReturn, called, status, Option.getD_some, if_pos (And.intro checks failed)] at ok
  cases ok

theorem typedReturn_control {returned : RmReturn} (ok : (typedReturn t returned).rc = .ok ()) :
    returned.rc = .ok () := by
  cases called : returned.rc with
  | error error =>
      simp only [typedReturn, called] at ok
      cases ok
  | ok => rfl

/-- A wrapper returns what was sent exactly when every reply that makes it
succeed holds the fields it reads. -/
theorem typed_sent_iff :
    ReturnsSent polls world ch bufs hClient hObject t.toControl promise
        (typedControl polls world ch bufs hClient hObject t) ↔
      ∀ reply, Replied polls world ch bufs hClient hObject t.toControl reply →
        (t.checksStatus → ld32 (bytesAt reply) 12 = 0) → Suffices t promise reply := by
  constructor
  -- A reply that the wrapper accepts shows what it read, and no other reply does.
  · intro sent reply replied passes
    obtain ⟨returned, called, ok, status, params⟩ := control_replied replied
    obtain ⟨done, value, reads⟩ := typedReturn_ok ok status params passes
    obtain ⟨other, there, covered, kept⟩ :=
      sent _ (Option.map_eq_some_iff.mpr ⟨returned, called, rfl⟩) done
    obtain rfl := replied_unique replied there
    obtain ⟨_, _, _, header⟩ := replied
    rw [reads, covered_iff header] at covered
    exact ⟨covered, kept _ value⟩
  · intro enough ret result done
    obtain ⟨returned, called, rfl⟩ := Option.map_eq_some_iff.mp result
    have accepted := typedReturn_control done
    obtain ⟨reply, replied⟩ := control_accepts called accepted
    obtain ⟨again, same, ok, status, params⟩ := control_replied replied
    rw [called] at same
    obtain rfl := Option.some.inj same
    have passes := typedReturn_passes ok status done
    obtain ⟨covered, kept⟩ := enough reply replied passes
    obtain ⟨_, value, reads⟩ := typedReturn_ok ok status params passes
    refine ⟨reply, replied, ?_, ?_⟩
    · obtain ⟨_, _, _, header⟩ := replied
      rw [reads, covered_iff header]
      exact covered
    · intro handed same
      rw [value] at same
      exact Option.some.inj same ▸ kept

end Wrappers

/-! How long a reply each wrapper needs. -/

section Lengths

variable {reply : List UInt8} {params : Mem}

theorem back_word {o : Nat} (inside : 24 + o + 4 ≤ reply.length) :
    ld32 (paramsBack reply params) o = ld32 (bytesAt reply) (24 + o) := by
  apply ld32_congr
  intro i below
  rw [paramsBack, if_pos (by omega), Nat.add_assoc]

theorem fbInfo_covered {n : UInt32} (some : n ≠ 0) :
    (∀ place ∈ fbInfoPlaces n, 24 + place.1 + place.2 ≤ reply.length) ↔
      28 + 8 * n.toNat ≤ reply.length := by
  have positive : n.toNat ≠ 0 := fun zero => some (UInt32.toNat_inj.mp zero)
  rw [fbInfoPlaces, List.forall_mem_map]
  constructor
  · intro covered
    have last := covered (n.toNat - 1) (List.mem_range.mpr (by omega))
    simp only at last
    omega
  · intro long i member
    have below := List.mem_range.mp member
    simp only
    omega

theorem devinfo_covered :
    (∀ place ∈ devinfoPlaces (paramsBack reply params), 24 + place.1 + place.2 ≤ reply.length) ↔
      32 ≤ reply.length ∧ 100 * min (ld32 (bytesAt reply) 28).toNat 32 ≤ reply.length + 16 := by
  rw [devinfoPlaces, List.forall_mem_cons]
  apply and_congr_right
  intro (long : 32 ≤ reply.length)
  have field : ld32 (paramsBack reply params) 4 = ld32 (bytesAt reply) 28 := back_word long
  have count := devinfoCount_toNat (paramsBack reply params)
  rw [field] at count
  rw [count]
  constructor
  · intro covered
    by_cases none : min (ld32 (bytesAt reply) 28).toNat 32 = 0
    · omega
    · -- the last word of the last engine
      have last := covered (12 + (min (ld32 (bytesAt reply) 28).toNat 32 - 1) * 100 + 44, 4)
        (List.mem_flatMap.mpr ⟨min (ld32 (bytesAt reply) 28).toNat 32 - 1,
          List.mem_range.mpr (by omega), by simp [enginePlaces, engineInfoTypeRunlistPriBase]⟩)
      simp only at last
      omega
  · intro far place member
    obtain ⟨i, below, here⟩ := List.mem_flatMap.mp member
    have below := List.mem_range.mp below
    simp only [enginePlaces, engineInfoTypeEngDesc, engineInfoTypeRmEngineType,
      engineInfoTypeRunlist, engineInfoTypeRunlistPriBase, List.mem_cons, List.not_mem_nil,
      or_false] at here
    rcases here with rfl | rfl | rfl | rfl <;> simp only <;> omega

theorem edid_suffices {displayId bufCap : UInt32} :
    Suffices (edid displayId bufCap) (fun read => read.outSize ≤ bufCap) reply ↔
      36 ≤ reply.length ∧ min (ld32 (bytesAt reply) 32).toNat 2048 ≤ bufCap.toNat ∧
        (ld32 (bytesAt reply) 32 = 0 ∨
          40 + min (ld32 (bytesAt reply) 32).toNat 2048 ≤ reply.length) := by
  have zero : ld32 (bytesAt reply) 32 = 0 ↔ (ld32 (bytesAt reply) 32).toNat = 0 :=
    UInt32.toNat_inj.symm
  show (∀ place ∈ edidPlaces bufCap (paramsBack reply (edid displayId bufCap).params),
      24 + place.1 + place.2 ≤ reply.length) ∧
    edidSize (paramsBack reply (edid displayId bufCap).params) ≤ bufCap ↔ _
  rw [edidPlaces, List.forall_mem_cons, and_assoc, List.forall_mem_map]
  apply and_congr_right
  intro (long : 36 ≤ reply.length)
  have field : ld32 (paramsBack reply (edid displayId bufCap).params) 8 =
      ld32 (bytesAt reply) 32 := back_word long
  have size := edidSize_toNat (paramsBack reply (edid displayId bufCap).params)
  have copied := edidCopied_toNat bufCap (paramsBack reply (edid displayId bufCap).params)
  rw [field] at size
  -- Once the size fits the caller's buffer, all of it is copied and its last byte decides.
  rw [copied, UInt32.le_iff_toNat_le, size, zero, and_comm]
  apply and_congr_right
  intro fits
  rw [Nat.min_eq_left fits]
  constructor
  · intro covered
    by_cases none : min (ld32 (bytesAt reply) 32).toNat 2048 = 0
    · exact Or.inl (by omega)
    · have last := covered (min (ld32 (bytesAt reply) 32).toNat 2048 - 1)
        (List.mem_range.mpr (by omega))
      exact Or.inr (by omega)
  · intro far i member
    have below := List.mem_range.mp member
    omega

/-- The masks that are looked at end with the first that matches. -/
theorem sorPlaces_covered (displayId : UInt32) (p : Mem) (len : Nat) (sors : List Nat)
    (ascending : sors.Pairwise (· < ·)) :
    (∀ place ∈ sorPlaces displayId p sors, 24 + place.1 + place.2 ≤ len) ↔
      (∀ i ∈ sors, 68 + 8 * i ≤ len) ∨
        ∃ i ∈ sors, 68 + 8 * i ≤ len ∧ sorMask p i &&& displayId ≠ 0 := by
  induction sors with
  | nil =>
      exact iff_of_true (fun _ member => by cases member) (Or.inl fun _ member => by cases member)
  | cons i rest ih =>
      obtain ⟨first, ascending⟩ := List.pairwise_cons.mp ascending
      have tail := ih ascending
      have place : 24 + (40 + i * 8) + 4 = 68 + 8 * i := by omega
      rw [sorPlaces, List.forall_mem_cons, List.forall_mem_cons]
      simp only [place]
      -- A hit ends the loop, so the masks behind it are not read.
      by_cases hit : sorMask p i &&& displayId ≠ 0
      · rw [if_pos hit]
        constructor
        · rintro ⟨here, _⟩
          exact Or.inr ⟨i, List.mem_cons_self, here, hit⟩
        · rintro (⟨here, _⟩ | ⟨j, member, there, _⟩)
          · exact ⟨here, fun _ member => by cases member⟩
          · refine ⟨?_, fun _ member => by cases member⟩
            rcases List.mem_cons.mp member with rfl | later
            · exact there
            · have := first j later
              omega
      · rw [if_neg hit, tail]
        constructor
        · rintro ⟨here, all | ⟨j, later, found⟩⟩
          · exact Or.inl ⟨here, all⟩
          · exact Or.inr ⟨j, List.mem_cons_of_mem i later, found⟩
        · rintro (⟨here, all⟩ | ⟨j, member, there, found⟩)
          · exact ⟨here, Or.inl all⟩
          · rcases List.mem_cons.mp member with rfl | later
            · exact absurd found hit
            · have := first j later
              exact ⟨by omega, Or.inr ⟨j, later, there, found⟩⟩

theorem sor_covered {displayId : UInt32} :
    (∀ place ∈ sorPlaces displayId (paramsBack reply params) (List.range 4),
        24 + place.1 + place.2 ≤ reply.length) ↔
      92 ≤ reply.length ∨ ∃ i < 4, 68 + 8 * i ≤ reply.length ∧
        ld32 (bytesAt reply) (64 + 8 * i) &&& displayId ≠ 0 := by
  have mask : ∀ i, 68 + 8 * i ≤ reply.length →
      sorMask (paramsBack reply params) i = ld32 (bytesAt reply) (64 + 8 * i) := by
    intro i long
    rw [sorMask, back_word (by omega)]
    congr 1
    omega
  rw [sorPlaces_covered displayId _ _ _ List.pairwise_lt_range]
  apply or_congr
  · constructor
    · intro all
      exact all 3 (by decide)
    · intro long i member
      have few := List.mem_range.mp member
      omega
  · apply exists_congr
    intro i
    rw [List.mem_range]
    apply and_congr_right
    intro _
    apply and_congr_right
    intro long
    rw [mask i long]

end Lengths

/-- Each wrapper succeeds only on what its reply holds, and keeps within the
caller's buffer, exactly when the replies it accepts are long enough. -/
theorem typed_replies_iff (polls : Nat) (world : Nat → Mem → Mem) (ch : NvGspRpcChan)
    (bufs : RmBuffers) (hClient hObject : UInt32) :
    (∀ indices n, ReturnsSent polls world ch bufs hClient hObject (fbInfoControl indices n)
        (fun _ => True) (nvGspFbGetInfo polls world ch bufs hClient hObject indices n) ↔
      (n ≠ 0 ∧ n.toNat ≤ 54 → ∀ reply,
        Replied polls world ch bufs hClient hObject (fbInfoControl indices n) reply →
          28 + 8 * n.toNat ≤ reply.length)) ∧
    (ReturnsSent polls world ch bufs hClient hObject devinfo.toControl (fun _ => True)
        (nvGspFifoGetDeviceInfo polls world ch bufs hClient hObject) ↔
      ∀ reply, Replied polls world ch bufs hClient hObject devinfo.toControl reply →
        ld32 (bytesAt reply) 12 = 0 →
          32 ≤ reply.length ∧
            100 * min (ld32 (bytesAt reply) 28).toNat 32 ≤ reply.length + 16) ∧
    (∀ displayId bufCap, ReturnsSent polls world ch bufs hClient hObject
        (edid displayId bufCap).toControl (fun read => read.outSize ≤ bufCap)
        (nvGspDispGetEdid polls world ch bufs hClient hObject displayId bufCap) ↔
      ∀ reply, Replied polls world ch bufs hClient hObject (edid displayId bufCap).toControl reply →
        36 ≤ reply.length ∧ min (ld32 (bytesAt reply) 32).toNat 2048 ≤ bufCap.toNat ∧
          (ld32 (bytesAt reply) 32 = 0 ∨
            40 + min (ld32 (bytesAt reply) 32).toNat 2048 ≤ reply.length)) ∧
    (∀ displayId, ReturnsSent polls world ch bufs hClient hObject
        (assignSor displayId).toControl (fun _ => True)
        (nvGspDispAssignSor polls world ch bufs hClient hObject displayId) ↔
      ∀ reply, Replied polls world ch bufs hClient hObject (assignSor displayId).toControl reply →
        92 ≤ reply.length ∨ ∃ i < 4, 68 + 8 * i ≤ reply.length ∧
          ld32 (bytesAt reply) (64 + 8 * i) &&& displayId ≠ 0) := by
  refine ⟨fun indices n => ?_, ?_, fun displayId bufCap => ?_, fun displayId => ?_⟩
  -- A table that is too large is refused before anything is sent.
  · by_cases few : n ≠ 0 ∧ n.toNat ≤ 54
    · rw [nvGspFbGetInfo, dif_pos few]
      refine (typed_sent_iff (t := fbInfo indices n few.2)).trans ?_
      constructor
      · intro enough _ reply replied
        exact (fbInfo_covered few.1).mp (enough reply replied fun wrong => by cases wrong).1
      · intro long reply replied _
        exact ⟨(fbInfo_covered few.1).mpr (long few reply replied), trivial⟩
    · rw [nvGspFbGetInfo, dif_neg few]
      refine iff_of_true ?_ fun wrong => absurd wrong few
      intro ret same done
      cases same
      cases done
  · refine typed_sent_iff.trans (forall₂_congr fun reply _ => ?_)
    rw [Suffices, and_iff_left trivial]
    exact imp_congr ⟨fun checks => checks rfl, fun passed _ => passed⟩ devinfo_covered
  · refine typed_sent_iff.trans (forall₂_congr fun reply _ => ?_)
    rw [edid_suffices]
    exact imp_iff_right fun wrong => by cases wrong
  · refine typed_sent_iff.trans (forall₂_congr fun reply _ => ?_)
    rw [Suffices, and_iff_left trivial, imp_iff_right fun wrong => by cases wrong]
    exact sor_covered

/-- A message queue with one reply to a control: its length, and the word at
byte 32 of its payload. -/
def oneReply (len word : UInt32) : Mem :=
  let m := st32 (st32 (fun _ => 0) 0x41010 1) (0x42000 + 40) 1
  st32 (st32 (st32 m (0x42000 + 60) 76) (0x42000 + 56) len) (0x42000 + 80 + 32) word

/-- A reply that ends with its header is taken for a table of zeros, and an
EDID of 100 bytes is reported to a caller with room for 10. -/
theorem short_replies_accepted :
    ¬ ReturnsSent 1 (fun _ _ => oneReply 56 0) idleChan ⟨fun _ => 0, fun _ => 0⟩ 1 2
        (fbInfoControl (fun _ => 5) 1) (fun _ => True)
        (nvGspFbGetInfo 1 (fun _ _ => oneReply 56 0) idleChan ⟨fun _ => 0, fun _ => 0⟩ 1 2
          (fun _ => 5) 1) ∧
      ¬ ReturnsSent 1 (fun _ _ => oneReply 68 100) idleChan ⟨fun _ => 0, fun _ => 0⟩ 1 2
        (edid 1 10).toControl (fun read => read.outSize ≤ 10)
        (nvGspDispGetEdid 1 (fun _ _ => oneReply 68 100) idleChan ⟨fun _ => 0, fun _ => 0⟩ 1 2
          1 10) := by
  constructor
  · intro sent
    rw [nvGspFbGetInfo, dif_pos (by decide)] at sent
    have enough := (typed_sent_iff (t := fbInfo (fun _ => 5) 1 (by decide))).mp sent _
      ⟨24, _, rfl, by decide⟩ fun wrong => by cases wrong
    have long := (fbInfo_covered (by decide)).mp enough.1
    revert long
    decide
  · intro sent
    have enough := typed_sent_iff.mp sent _ ⟨36, _, rfl, by decide⟩ fun wrong => by cases wrong
    have fits := (edid_suffices.mp enough).2.1
    revert fits
    decide

end GspDriver.TypedReplies
