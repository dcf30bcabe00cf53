import GspDriver.RmCalls
import GspDriver.Base.Words

/-!
The controls whose reply a wrapper takes apart: `nv_gsp_fb_get_info`,
`nv_gsp_fifo_get_device_info`, `nv_gsp_disp_get_edid` and
`nv_gsp_disp_assign_sor`. Each passes its params through `nv_gsp_rm_control`
and reads fields of them back at offsets of its own. The control returns as
many params as the reply has and no count of them, so behind a short reply the
wrapper reads what it asked with.
-/

namespace GspDriver.TypedControls

open Bytes LittleEndian Words GspRpc GspRm RmCalls

/-- What a wrapper asks for. -/
structure Control where
  cmd : UInt32
  size : UInt32
  params : Mem
  room : size.toNat ≤ 3584

/-- What it makes of the params that come back. `places` are the bytes that
`value` is read from, as offsets and widths. -/
structure TypedControl (Value : Type) extends Control where
  checksStatus : Bool
  value : Mem → Value
  places : Mem → List (Nat × Nat)
  places_within : ∀ p, ∀ place ∈ places p, place.1 + place.2 ≤ size.toNat
  reads_places : ∀ p q, (∀ place ∈ places p, ∀ i < place.2, p (place.1 + i) = q (place.1 + i)) →
    value p = value q

/-- What a wrapper leaves behind. `value` is what it stores through its output
pointers once the control has returned; the device table is cleared before.
`reads` are the places in the reply that the status and the value were taken from. -/
structure TypedReturn (Value : Type) where
  rc : Except RmError Unit
  status : Option UInt32
  value : Option Value
  reads : List (Nat × Nat)
  ch : NvGspRpcChan
  bufs : RmBuffers

variable {Value : Type}

/-- Params lie behind the header of a control, and the status in it. -/
def replyPlaces (places : List (Nat × Nat)) : List (Nat × Nat) :=
  (nvRmCtrlStatusOff, 4) :: places.map fun place => (nvRmCtrlHdrSize.toNat + place.1, place.2)

/-- What a wrapper makes of its control's return. -/
def typedReturn (t : TypedControl Value) (returned : RmReturn) : TypedReturn Value :=
  let st := returned.status.getD 0xffffffff
  let p := returned.params.getD t.params
  match returned.rc with
  | .error error =>
      { rc := .error error, status := some st, value := none, reads := []
        ch := returned.ch, bufs := returned.bufs }
  | .ok () =>
      if t.checksStatus ∧ st ≠ 0 then
        { rc := .error .bounds, status := some st, value := none, reads := []
          ch := returned.ch, bufs := returned.bufs }
      else
        { rc := .ok (), status := some st, value := some (t.value p)
          reads := replyPlaces (t.places p), ch := returned.ch, bufs := returned.bufs }

def typedControl (polls : Nat) (world : Nat → Mem → Mem) (ch : NvGspRpcChan) (bufs : RmBuffers)
    (hClient hObject : UInt32) (t : TypedControl Value) : Option (TypedReturn Value) :=
  (nvGspRmControl polls world ch bufs hClient hObject t.cmd (some t.params) t.size).map
    (typedReturn t)

/-! The four wrappers. -/

theorem ld32_places {p q : Mem} {o : Nat} {places : List (Nat × Nat)} (member : (o, 4) ∈ places)
    (same : ∀ place ∈ places, ∀ i < place.2, p (place.1 + i) = q (place.1 + i)) :
    ld32 p o = ld32 q o :=
  ld32_congr fun i below => same (o, 4) member i below

def fbInfoParams (indices : Nat → UInt32) (n : UInt32) : Mem :=
  (List.range n.toNat).foldl (fun p i => st32 p (4 + i * 8) (indices i)) (st32 (fun _ => 0) 0 n)

def fbInfoPlaces (n : UInt32) : List (Nat × Nat) :=
  (List.range n.toNat).map fun i => (4 + i * 8 + 4, 4)

def fbInfoControl (indices : Nat → UInt32) (n : UInt32) : Control :=
  { cmd := 0x20801303, size := 436, params := fbInfoParams indices n, room := by decide }

/-- `fbInfoList[i].data` for each index asked for. -/
def fbInfo (indices : Nat → UInt32) (n : UInt32) (few : n.toNat ≤ 54) :
    TypedControl (List UInt32) :=
  { toControl := fbInfoControl indices n
    checksStatus := false
    value := fun p => (List.range n.toNat).map fun i => ld32 p (4 + i * 8 + 4)
    places := fun _ => fbInfoPlaces n
    places_within := by
      intro _ place member
      obtain ⟨i, below, rfl⟩ := List.mem_map.mp member
      have below := List.mem_range.mp below
      show 4 + i * 8 + 4 + 4 ≤ 436
      omega
    reads_places := by
      intro p q same
      apply List.map_congr_left
      intro i member
      exact ld32_places (List.mem_map.mpr ⟨i, member, rfl⟩) same }

def nvGspFbGetInfo (polls : Nat) (world : Nat → Mem → Mem) (ch : NvGspRpcChan) (bufs : RmBuffers)
    (hClient hSubdevice : UInt32) (indices : Nat → UInt32) (n : UInt32) :
    Option (TypedReturn (List UInt32)) :=
  if few : n ≠ 0 ∧ n.toNat ≤ 54 then
    typedControl polls world ch bufs hClient hSubdevice (fbInfo indices n few.2)
  else
    some { rc := .error .arg, status := none, value := none, reads := [], ch, bufs }

/-- `nv_gsp_fifo_engn` -/
structure NvGspFifoEngn where
  engDesc : UInt32
  rmEngineType : UInt32
  runlist : UInt32
  runlistPriBase : UInt32

/-- `nv_gsp_fifo_devinfo`, with the engines up to `count`. -/
structure NvGspFifoDevinfo where
  count : UInt32
  engines : List NvGspFifoEngn

def engineInfoTypeEngDesc : Nat := 0
def engineInfoTypeRmEngineType : Nat := 2
def engineInfoTypeRunlist : Nat := 3
def engineInfoTypeRunlistPriBase : Nat := 11

def devinfoCount (p : Mem) : UInt32 := if ld32 p 4 > 32 then 32 else ld32 p 4

def devinfoEngine (p : Mem) (e : Nat) : NvGspFifoEngn :=
  { engDesc := ld32 p (e + engineInfoTypeEngDesc * 4)
    rmEngineType := ld32 p (e + engineInfoTypeRmEngineType * 4)
    runlist := ld32 p (e + engineInfoTypeRunlist * 4)
    runlistPriBase := ld32 p (e + engineInfoTypeRunlistPriBase * 4) }

def enginePlaces (e : Nat) : List (Nat × Nat) :=
  [(e + engineInfoTypeEngDesc * 4, 4), (e + engineInfoTypeRmEngineType * 4, 4),
    (e + engineInfoTypeRunlist * 4, 4), (e + engineInfoTypeRunlistPriBase * 4, 4)]

def devinfoPlaces (p : Mem) : List (Nat × Nat) :=
  (4, 4) :: (List.range (devinfoCount p).toNat).flatMap fun i => enginePlaces (12 + i * 100)

theorem devinfoCount_toNat (p : Mem) : (devinfoCount p).toNat = min (ld32 p 4).toNat 32 :=
  capped_toNat (ld32 p 4) 32

def devinfo : TypedControl NvGspFifoDevinfo :=
  { cmd := 0x20801112
    size := 3212
    params := st32 (fun _ => 0) 0 0
    checksStatus := true
    value := fun p =>
      { count := devinfoCount p
        engines := (List.range (devinfoCount p).toNat).map fun i => devinfoEngine p (12 + i * 100) }
    places := devinfoPlaces
    room := by decide
    places_within := by
      intro p place member
      have count := devinfoCount_toNat p
      show place.1 + place.2 ≤ 3212
      rcases List.mem_cons.mp member with rfl | listed
      · decide
      · obtain ⟨i, below, here⟩ := List.mem_flatMap.mp listed
        have below := List.mem_range.mp below
        simp only [enginePlaces, engineInfoTypeEngDesc, engineInfoTypeRmEngineType,
          engineInfoTypeRunlist, engineInfoTypeRunlistPriBase, List.mem_cons, List.not_mem_nil,
          or_false] at here
        rcases here with rfl | rfl | rfl | rfl <;> simp only <;> omega
    reads_places := by
      intro p q same
      have count : devinfoCount p = devinfoCount q := by
        rw [devinfoCount, devinfoCount, ld32_places List.mem_cons_self same]
      have engines : ∀ i ∈ List.range (devinfoCount p).toNat,
          devinfoEngine p (12 + i * 100) = devinfoEngine q (12 + i * 100) := by
        intro i member
        have word : ∀ o, (o, 4) ∈ enginePlaces (12 + i * 100) → ld32 p o = ld32 q o :=
          fun o here => ld32_places
            (List.mem_cons_of_mem _ (List.mem_flatMap.mpr ⟨i, member, here⟩)) same
        rw [devinfoEngine, devinfoEngine, word _ (by simp [enginePlaces]),
          word _ (by simp [enginePlaces]), word _ (by simp [enginePlaces]),
          word _ (by simp [enginePlaces])]
      rw [← count, List.map_congr_left engines] }

/-- The filled part of `buf`, and `*out_size`. -/
structure EdidRead where
  bytes : List UInt8
  outSize : UInt32

def edidSize (p : Mem) : UInt32 := if ld32 p 8 > 2048 then 2048 else ld32 p 8

def edidCopied (bufCap : UInt32) (p : Mem) : UInt32 :=
  if edidSize p < bufCap then edidSize p else bufCap

def edidPlaces (bufCap : UInt32) (p : Mem) : List (Nat × Nat) :=
  (8, 4) :: (List.range (edidCopied bufCap p).toNat).map fun i => (16 + i, 1)

theorem edidSize_toNat (p : Mem) : (edidSize p).toNat = min (ld32 p 8).toNat 2048 :=
  capped_toNat (ld32 p 8) 2048

theorem edidCopied_toNat (bufCap : UInt32) (p : Mem) :
    (edidCopied bufCap p).toNat = min (edidSize p).toNat bufCap.toNat :=
  lesser_toNat (edidSize p) bufCap

def edid (displayId bufCap : UInt32) : TypedControl EdidRead :=
  { cmd := 0x730245
    size := 2064
    params := st32 (st32 (fun _ => 0) 4 displayId) 12 0
    checksStatus := false
    value := fun p =>
      { bytes := (List.range (edidCopied bufCap p).toNat).map fun i => p (16 + i)
        outSize := edidSize p }
    places := edidPlaces bufCap
    room := by decide
    places_within := by
      intro p place member
      have size := edidSize_toNat p
      have copied := edidCopied_toNat bufCap p
      show place.1 + place.2 ≤ 2064
      rcases List.mem_cons.mp member with rfl | listed
      · decide
      · obtain ⟨i, below, rfl⟩ := List.mem_map.mp listed
        have below := List.mem_range.mp below
        simp only
        omega
    reads_places := by
      intro p q same
      have size : edidSize p = edidSize q := by
        rw [edidSize, edidSize, ld32_places List.mem_cons_self same]
      have copied : edidCopied bufCap p = edidCopied bufCap q := by
        rw [edidCopied, edidCopied, size]
      have bytes : ∀ i ∈ List.range (edidCopied bufCap p).toNat, p (16 + i) = q (16 + i) :=
        fun i member => same (16 + i, 1)
          (List.mem_cons_of_mem _ (List.mem_map.mpr ⟨i, member, rfl⟩)) 0 Nat.one_pos
      rw [← size, ← copied, List.map_congr_left bytes] }

/-- The mask of SOR `i` in the list with tags. -/
def sorMask (p : Mem) (i : Nat) : UInt32 := ld32 p (40 + i * 8)

def findSor (displayId : UInt32) (p : Mem) : List Nat → UInt32
  | [] => ~~~0
  | i :: rest =>
      if sorMask p i &&& displayId ≠ 0 then UInt32.ofNat i else findSor displayId p rest

def sorPlaces (displayId : UInt32) (p : Mem) : List Nat → List (Nat × Nat)
  | [] => []
  | i :: rest =>
      (40 + i * 8, 4) ::
        if sorMask p i &&& displayId ≠ 0 then [] else sorPlaces displayId p rest

theorem sorPlaces_within (displayId : UInt32) (p : Mem) (sors : List Nat)
    (few : ∀ i ∈ sors, i < 4) : ∀ place ∈ sorPlaces displayId p sors, place.1 + place.2 ≤ 80 := by
  induction sors with
  | nil => intro place member; cases member
  | cons i rest ih =>
      intro place member
      have here := few i List.mem_cons_self
      rcases List.mem_cons.mp member with rfl | later
      · simp only
        omega
      · split at later
        · cases later
        · exact ih (fun j there => few j (List.mem_cons_of_mem i there)) place later

theorem findSor_places (displayId : UInt32) (p q : Mem) (sors : List Nat)
    (same : ∀ place ∈ sorPlaces displayId p sors, ∀ i < place.2,
      p (place.1 + i) = q (place.1 + i)) : findSor displayId p sors = findSor displayId q sors := by
  induction sors with
  | nil => rfl
  | cons i rest ih =>
      have mask : sorMask p i = sorMask q i := ld32_places List.mem_cons_self same
      rw [findSor, findSor, ← mask]
      split
      · rfl
      · rename_i miss
        apply ih
        intro place member
        apply same
        rw [sorPlaces, if_neg miss]
        exact List.mem_cons_of_mem _ member

def assignSor (displayId : UInt32) : TypedControl UInt32 :=
  { cmd := 0x731152
    size := 80
    params := st32 (fun _ => 0) 4 displayId
    checksStatus := false
    value := fun p => findSor displayId p (List.range 4)
    places := fun p => sorPlaces displayId p (List.range 4)
    room := by decide
    places_within := fun p => sorPlaces_within displayId p _ fun _ member => List.mem_range.mp member
    reads_places := fun p q same => findSor_places displayId p q _ same }

def nvGspFifoGetDeviceInfo (polls : Nat) (world : Nat → Mem → Mem) (ch : NvGspRpcChan)
    (bufs : RmBuffers) (hClient hSubdevice : UInt32) : Option (TypedReturn NvGspFifoDevinfo) :=
  typedControl polls world ch bufs hClient hSubdevice devinfo

def nvGspDispGetEdid (polls : Nat) (world : Nat → Mem → Mem) (ch : NvGspRpcChan)
    (bufs : RmBuffers) (hClient hDispCommon displayId bufCap : UInt32) :
    Option (TypedReturn EdidRead) :=
  typedControl polls world ch bufs hClient hDispCommon (edid displayId bufCap)

def nvGspDispAssignSor (polls : Nat) (world : Nat → Mem → Mem) (ch : NvGspRpcChan)
    (bufs : RmBuffers) (hClient hDispCommon displayId : UInt32) : Option (TypedReturn UInt32) :=
  typedControl polls world ch bufs hClient hDispCommon (assignSor displayId)

end GspDriver.TypedControls
