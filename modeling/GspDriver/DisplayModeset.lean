import GspDriver.Base.CommandStream
import GspDriver.DispStreams
import GspDriver.Scanout
import GspDriver.Pramin

/-!
The modeset of `nv_gsp_bringup`. The host fills the surface if it is its own,
writes the ctx-dma and its entry in the hash table, and submits four times:
methods into the pushbuffer of a channel through the PRAMIN window, PUT, and at
most 500 reads of GET. The two channels fetch at their own pace. Reads made for
the log are left out; they write nothing.
-/

namespace GspDriver.DisplayModeset

open Bytes LittleEndian Words Pramin GspDisp RasterTiming DispStreams Scanout Trace CommandStream

inductive Chan where
  | core
  | window
  deriving DecidableEq

def Chan.user : Chan → UInt32
  | .core => 0x00680000
  | .window => 0x00690000

def Chan.pb : Chan → UInt64
  | .core => 0x13410000
  | .window => 0x13412000

def dispInst : UInt64 := 0x13400000

/-- `method` is a word of a stream, `i` bytes into the channel's pushbuffer. -/
inductive HostOp where
  | pramin (phys : UInt64) (val : UInt32)
  | method (chan : Chan) (i : Nat) (val : UInt32)
  | kick (chan : Chan) (coff : UInt32)
  | poll (chan : Chan) (coff : UInt32)

/-- `polled` is how the waits for GET ended and `it` the reads of the present one. -/
structure Display where
  s : Aperture
  taken : Chan → List (List UInt32)
  left : List HostOp
  polled : List Bool
  it : Nat

def pollTries : Nat := 500

def Display.polledAs (d : Display) (rest : List HostOp) (found : Bool) : Display :=
  { d with left := rest, polled := d.polled ++ [found], it := 0 }

def Display.wrote (d : Display) (s : Aperture) (rest : List HostOp) : Display :=
  { d with s := s, left := rest }

/-- One round of a wait. -/
def Display.poll (d : Display) (chan : Chan) (coff : UInt32) (rest : List HostOp) : Display :=
  let cget := d.s.io.rd (chan.user + 4)
  let after := d.wrote ⟨cget.2, d.s.winBase⟩ d.left
  if cget.1 &&& 0xffc = coff &&& 0xffc then after.polledAs rest true
  else if d.it + 1 < pollTries then { after with it := d.it + 1 }
  else after.polledAs rest false

def Display.host (d : Display) : Display :=
  match d.left with
  | [] => d
  | .pramin phys val :: rest => d.wrote (nvPraminWr32 d.s phys val) rest
  | .method chan i val :: rest =>
      d.wrote (nvPraminWr32 d.s (chan.pb + UInt64.ofNat i) val) rest
  | .kick chan coff :: rest => d.wrote ⟨d.s.io.wr (chan.user + 0) coff, d.s.winBase⟩ rest
  | .poll chan coff :: rest => d.poll chan coff rest

/-- PUT and GET hold a place in the pushbuffer in bits 11 to 2. -/
def pointer (reg : UInt32) : Nat := (reg &&& 0xffc).toNat / 4

def Display.word (d : Display) (chan : Chan) (slot : Nat) : UInt32 :=
  ld32 d.s.io.vram (chan.pb.toNat + 4 * slot)

def Display.get (d : Display) (chan : Chan) : Nat := pointer (d.s.io.regs (chan.user + 4))
def Display.put (d : Display) (chan : Chan) : Nat := pointer (d.s.io.regs (chan.user + 0))

def Display.packet (d : Display) (chan : Chan) : List UInt32 :=
  (List.range (packetWords (d.word chan (d.get chan)))).map fun i => d.word chan (d.get chan + i)

def setReg (io : Mmio) (off val : UInt32) : Mmio :=
  { io with regs := fun reg => if reg = off then val else io.regs reg }

/-- A channel takes the next packet if all of it lies below PUT. -/
def Display.engine (d : Display) (chan : Chan) : Display :=
  let next := d.get chan + packetWords (d.word chan (d.get chan))
  if next ≤ d.put chan then
    { d with
      s := ⟨setReg d.s.io (chan.user + 4) (UInt32.ofNat (4 * next)), d.s.winBase⟩
      taken := Function.update d.taken chan (d.taken chan ++ [d.packet chan]) }
  else d

def isPointer (reg : UInt32) : Bool :=
  reg == 0x00680000 || reg == 0x00680004 || reg == 0x00690000 || reg == 0x00690004

/-- The instance memory of the display and the two pushbuffers. -/
def ours (a : Nat) : Bool := 0x13400000 ≤ a && a < 0x13413000

/-- The rest of the card changes its own registers and its own memory. -/
def Display.device (d : Display) (regs : UInt32 → UInt32) (vram : Mem) : Display :=
  { d with
    s := ⟨{ d.s.io with
      regs := fun reg => if isPointer reg then d.s.io.regs reg else regs reg
      vram := fun a => if ours a then d.s.io.vram a else vram a }, d.s.winBase⟩ }

inductive Act where
  | host
  | engine (chan : Chan)
  | device (regs : UInt32 → UInt32) (vram : Mem)

def step (d : Display) : Act → Display
  | .host => d.host
  | .engine chan => d.engine chan
  | .device regs vram => d.device regs vram

/-! What the host does. -/

def packets (pb : Stream) : List (List UInt32) := pb.map fun word => [word.1, word.2]

def words (pb : Stream) : List UInt32 := (packets pb).flatten

/-- The methods of `cs` behind the first `done` of them, PUT and the wait. -/
def submit (chan : Chan) (done : Nat) (cs : Stream) : List HostOp :=
  (List.range' (2 * done) (2 * cs.length - 2 * done)).map
      (fun j => .method chan (4 * j) ((words cs).getD j 0)) ++
    [.kick chan (UInt32.ofNat (8 * cs.length)), .poll chan (UInt32.ofNat (8 * cs.length))]

/-- The timing, the output it goes to, the RM client and the surface. -/
structure Modeset where
  mt : NvEdidTiming
  mdSor : UInt32
  mdProto : UInt32
  hcli : UInt32
  fbp : Option Alloc
  fb2 : UInt64
  fbTarget : UInt32

namespace Modeset

variable (m : Modeset)

def pit : UInt32 := m.mt.hact * 4
def fbsz : UInt64 := m.pit.toUInt64 * m.mt.vact.toUInt64
def desc : Mem := scanoutDesc m.fb2 m.fbsz m.fbTarget

/-- What the core channel's buffer holds after the first, second and third submission. -/
def coreInit : Stream := nvGspDispBuildCoreUpdate (nvGspDispBuildCoreInit [] 0) 0

def coreHead : Stream :=
  let cs := nvGspDispBuildCoreSor coreInit m.mdSor 0 m.mdProto
  let cs := nvGspDispBuildCoreModeset cs m.mt 0 m.mdSor m.mdProto
  nvGspDispBuildCoreUpdate cs 0

def coreOutput : Stream :=
  let cs := nvGspDispBuildOutputResource m.coreHead 0 m.mt.hsyncPos.toUInt32 m.mt.vsyncPos.toUInt32
  nvGspDispBuildCoreUpdate cs 0

def windowFlip : Stream := scanoutWindow m.mt.hact m.mt.vact m.pit

/-- The driver's own surface is painted white; one of the platform is left as it is. -/
def fill : List HostOp :=
  match m.fbp with
  | none => (List.range ((m.fbsz.toUInt32.toNat + 3) / 4)).map fun k =>
      .pramin (m.fb2 + UInt64.ofNat (4 * k)) 0x00ffffff
  | some _ => []

def ctxdma : List HostOp :=
  (List.range 6).map fun k =>
    .pramin (dispInst + nvDispCtxdmaOff.toUInt64 + UInt64.ofNat (4 * k)) (ld32 m.desc (4 * k))

def ramht : List HostOp :=
  let entry := nvGspDispRamhtEntry (nvDispChidWindow 0) nvDispHandleVram m.hcli nvDispCtxdmaOff
  let entPhys := dispInst + entry.1.toUInt64 * nvDispRamhtEntry.toUInt64
  [.pramin (entPhys + 0) nvDispHandleVram, .pramin (entPhys + 4) entry.2]

def submissions : List HostOp :=
  submit .core 0 coreInit ++ submit .core coreInit.length m.coreHead ++
    submit .core m.coreHead.length m.coreOutput ++ submit .window 0 m.windowFlip

-- The proofs speak of the streams by what their builders emit.
attribute [irreducible] coreInit coreHead coreOutput windowFlip

def script : List HostOp := m.fill ++ (m.ctxdma ++ m.ramht) ++ m.submissions

end Modeset

/-! The machine of command buffers behind it. -/

/-- Words in a pushbuffer. -/
def pbWords : Nat := 1024

def HostOp.view : HostOp → Op Chan UInt32
  | .pramin _ _ => .other
  | .method chan i val => .store chan (i / 4) val
  | .kick chan coff => .publish chan (pointer coff)
  | .poll chan coff => .look chan (pointer coff) pollTries

def Display.view (d : Display) : Machine Chan UInt32 where
  slots chan slot := if slot < pbWords then d.word chan slot else 0
  put := d.put
  get := d.get
  taken := d.taken
  left := d.left.map HostOp.view
  seen := d.polled
  waited := d.it

def Act.turn : Act → Turn Chan
  | .host => .host
  | .engine chan => .engine chan
  | .device _ _ => .idle

/-- A write through the window within its reach: a word of a pushbuffer, or one
that lies in neither. -/
def HostOp.Fits : HostOp → Prop
  | .pramin phys _ => phys.toNat + 4 ≤ reach ∧
      (phys.toNat + 4 ≤ 0x13410000 ∨ 0x13413000 ≤ phys.toNat)
  | .method _ i _ => 4 ∣ i ∧ i < 4 * pbWords
  | _ => True

structure Ready (d : Display) : Prop where
  coherent : Coherent d.s
  fits : ∀ op ∈ d.left, op.Fits

theorem masked_toNat (reg : UInt32) : (reg &&& 0xffc).toNat = reg.toNat % 2 ^ 12 / 4 * 4 := by
  have parts : reg &&& 0xffc = (reg &&& 0xfff) &&& ~~~3 := by
    rw [UInt32.and_assoc]
    rfl
  have page : (0xfff : UInt32).toNat = 2 ^ 12 - 1 := rfl
  have four : (3 : UInt32).toNat = 2 ^ 2 - 1 := rfl
  rw [parts, and_not_mask_toNat32 _ four, UInt32.toNat_and, page, Nat.and_two_pow_sub_one_eq_mod]
  norm_num

theorem pointer_eq (reg : UInt32) : pointer reg = reg.toNat % 2 ^ 12 / 4 := by
  rw [pointer, masked_toNat, Nat.mul_div_cancel _ (by decide)]

theorem pointer_small (reg : UInt32) : pointer reg < pbWords := by
  have bound : pbWords = 1024 := rfl
  rw [pointer_eq]
  omega

theorem pointer_ofNat {slot : Nat} (small : slot < pbWords) :
    pointer (UInt32.ofNat (4 * slot)) = slot := by
  have room : slot < 1024 := small
  have place : (UInt32.ofNat (4 * slot)).toNat = 4 * slot :=
    UInt32.toNat_ofNat_of_lt' (show 4 * slot < 4294967296 by omega)
  rw [pointer_eq, place]
  omega

/-- GET has come to `coff` exactly when the two point to one place. -/
theorem polled_iff (cget coff : UInt32) :
    cget &&& 0xffc = coff &&& 0xffc ↔ pointer cget = pointer coff := by
  constructor
  · intro same
    rw [pointer, pointer, same]
  · intro same
    rw [pointer_eq, pointer_eq] at same
    apply UInt32.toNat_inj.mp
    rw [masked_toNat, masked_toNat, same]

/-! One step of the driver and the card is one turn of that machine. -/

section Simulation

variable {d : Display}

theorem word_congr {t : Display} {chan : Chan} {slot : Nat}
    (same : ∀ i < 4, t.s.io.vram (chan.pb.toNat + 4 * slot + i) =
      d.s.io.vram (chan.pb.toNat + 4 * slot + i)) : t.word chan slot = d.word chan slot :=
  ld32_congr same

theorem pb_place (chan : Chan) : 0x13410000 ≤ chan.pb.toNat ∧ chan.pb.toNat + 0x1000 ≤ 0x13413000 := by
  cases chan <;> decide

theorem pb_apart {chan other : Chan} (distinct : other ≠ chan) :
    other.pb.toNat + 0x1000 ≤ chan.pb.toNat ∨ chan.pb.toNat + 0x1000 ≤ other.pb.toNat := by
  cases other <;> cases chan <;> first | exact absurd rfl distinct | decide

/-- A write through the window changes one word and nothing of the registers. -/
theorem write_effect (coherent : Coherent d.s) {phys : UInt64} (val : UInt32)
    (inside : phys.toNat + 4 ≤ reach) :
    Coherent (nvPraminWr32 d.s phys val) ∧ (nvPraminWr32 d.s phys val).io.regs = d.s.io.regs ∧
      (nvPraminWr32 d.s phys val).io.vram = store d.s.io.vram phys.toNat 4 val.toNat := by
  have tracks := wr32_tracks d.s _ _ (tracks_self coherent) phys val (by omega)
  exact ⟨tracks.coherent, tracks.regs_eq, tracks.vram_eq⟩

/-- What makes a machine the view of a state. -/
theorem view_eq {t : Display} {m : Machine Chan UInt32}
    (slots : ∀ chan slot, m.slots chan slot = if slot < pbWords then t.word chan slot else 0)
    (put : ∀ chan, m.put chan = t.put chan) (get : ∀ chan, m.get chan = t.get chan)
    (taken : m.taken = t.taken) (left : m.left = t.left.map HostOp.view) (seen : m.seen = t.polled)
    (waited : m.waited = t.it) : t.view = m := by
  obtain ⟨_, _, _, _, _, _, _⟩ := m
  simp only at slots put get taken left seen waited
  obtain rfl := funext fun chan => funext (slots chan)
  obtain rfl := funext put
  obtain rfl := funext get
  subst taken left seen waited
  rfl

theorem put_congr {t : Display} (regs : t.s.io.regs = d.s.io.regs) (chan : Chan) :
    d.put chan = t.put chan := by
  rw [Display.put, Display.put, regs]

theorem get_congr {t : Display} (regs : t.s.io.regs = d.s.io.regs) (chan : Chan) :
    d.get chan = t.get chan := by
  rw [Display.get, Display.get, regs]

/-- A word that the write at `a` does not meet. -/
theorem word_apart {t : Display} {a : Nat} {val : UInt32} {chan : Chan} {slot : Nat}
    (vram : t.s.io.vram = store d.s.io.vram a 4 val.toNat)
    (apart : chan.pb.toNat + 4 * slot + 4 ≤ a ∨ a + 4 ≤ chan.pb.toNat + 4 * slot) :
    t.word chan slot = d.word chan slot := by
  refine word_congr fun i inside => ?_
  rw [vram]
  exact store_outside _ _ _ _ _ (by omega)

theorem wr_user (io : Mmio) (chan : Chan) (val : UInt32) : io.wr (chan.user + 0) val =
    { io with
      regs := fun reg => if reg = chan.user + 0 then val else io.regs reg
      accesses := .regWrite (chan.user + 0) val :: io.accesses } := by
  cases chan <;> rfl

section Host

variable {rest : List HostOp} (coherent : Coherent d.s)
include coherent

theorem host_pramin {phys : UInt64} {val : UInt32} (here : d.left = .pramin phys val :: rest)
    (fits : (HostOp.pramin phys val).Fits) : Coherent d.host.s ∧ d.host.view = d.view.host := by
  obtain ⟨inside, outside⟩ := fits
  obtain ⟨aimed, regs, vram⟩ := write_effect coherent val inside
  have next : d.view.host = { d.view with left := rest.map HostOp.view } := by
    rw [Machine.host, Display.view, here]
    rfl
  have moved : d.host = d.wrote (nvPraminWr32 d.s phys val) rest := by
    rw [Display.host, here]
  rw [next, moved]
  refine ⟨aimed, view_eq (fun chan slot => ?_) (put_congr regs) (get_congr regs) rfl rfl rfl rfl⟩
  by_cases slotted : slot < pbWords
  · have room : slot < 1024 := slotted
    have place := pb_place chan
    exact if_congr Iff.rfl (word_apart vram (by omega)).symm rfl
  · rw [if_neg slotted]
    exact if_neg slotted

theorem host_method {chan : Chan} {i : Nat} {val : UInt32}
    (here : d.left = .method chan i val :: rest) (fits : (HostOp.method chan i val).Fits) :
    Coherent d.host.s ∧ d.host.view = d.view.host := by
  obtain ⟨⟨slot, rfl⟩, below⟩ := fits
  have words : pbWords = 1024 := rfl
  have place := pb_place chan
  have offset : (UInt64.ofNat (4 * slot)).toNat = 4 * slot := ofNat_toNat (by omega)
  have phys : (chan.pb + UInt64.ofNat (4 * slot)).toNat = chan.pb.toNat + 4 * slot := by
    rw [add_toNat (by omega), offset]
  have inside : (chan.pb + UInt64.ofNat (4 * slot)).toNat + 4 ≤ reach := by
    rw [phys]
    simp only [reach]
    omega
  obtain ⟨aimed, regs, vram⟩ := write_effect coherent val inside
  have next : d.view.host =
      { d.view with
        slots := Function.update d.view.slots chan (Function.update (d.view.slots chan) slot val)
        left := rest.map HostOp.view } := by
    rw [Machine.host, Display.view, here]
    simp only [List.map_cons, HostOp.view, Nat.mul_div_cancel_left slot (show 0 < 4 by decide)]
  have moved : d.host =
      d.wrote (nvPraminWr32 d.s (chan.pb + UInt64.ofNat (4 * slot)) val) rest := by
    rw [Display.host, here]
  rw [next, moved]
  refine ⟨aimed, view_eq (fun other at_ => ?_) (put_congr regs) (get_congr regs) rfl rfl rfl rfl⟩
  change Function.update d.view.slots chan (Function.update (d.view.slots chan) slot val) other at_ =
    if at_ < pbWords then
      (d.wrote (nvPraminWr32 d.s (chan.pb + UInt64.ofNat (4 * slot)) val) rest).word other at_
    else 0
  rw [phys] at vram
  by_cases own : other = chan
  · subst own
    rw [Function.update_self]
    by_cases hit : at_ = slot
    · subst hit
      rw [Function.update_self, if_pos (by omega)]
      have written : ld32 (store d.s.io.vram (other.pb.toNat + 4 * at_) 4 val.toNat)
          (other.pb.toNat + 4 * at_) = val := by
        rw [← st32_eq_store, ld32_st32]
      rw [← vram] at written
      exact written.symm
    · rw [Function.update_of_ne hit]
      exact if_congr Iff.rfl (word_apart vram (by omega)).symm rfl
  · rw [Function.update_of_ne own]
    have buffers := pb_apart own
    by_cases slotted : at_ < pbWords
    · exact if_congr Iff.rfl (word_apart vram (by omega)).symm rfl
    · rw [if_neg slotted]
      exact if_neg slotted

theorem host_kick {chan : Chan} {coff : UInt32} (here : d.left = .kick chan coff :: rest) :
    Coherent d.host.s ∧ d.host.view = d.view.host := by
  have next : d.view.host =
      { d.view with
        put := Function.update d.view.put chan (pointer coff)
        left := rest.map HostOp.view } := by
    rw [Machine.host, Display.view, here]
    rfl
  have moved : d.host = d.wrote ⟨d.s.io.wr (chan.user + 0) coff, d.s.winBase⟩ rest := by
    rw [Display.host, here]
  rw [next, moved, wr_user]
  refine ⟨coherent, view_eq (fun _ _ => rfl) (fun other => ?_) (fun other => ?_) rfl rfl rfl rfl⟩
  · change Function.update d.put chan (pointer coff) other =
      pointer (if other.user + 0 = chan.user + 0 then coff else d.s.io.regs (other.user + 0))
    by_cases own : other = chan
    · subst own
      rw [Function.update_self, if_pos rfl]
    · rw [Function.update_of_ne own, if_neg (by cases other <;> cases chan <;> first | exact absurd rfl own | decide)]
      rfl
  · change d.get other = pointer (if other.user + 4 = chan.user + 0 then coff else _)
    rw [if_neg (by cases other <;> cases chan <;> decide)]
    rfl

/-- How a read of GET leaves the view: the wait ends, or one more read is made. -/
theorem host_poll {chan : Chan} {coff : UInt32} (here : d.left = .poll chan coff :: rest) :
    Coherent d.host.s ∧ d.host.view = d.view.host := by
  have read : d.s.io.rd (chan.user + 4) =
      (d.s.io.regs (chan.user + 4),
        { d.s.io with accesses := .regRead (chan.user + 4) :: d.s.io.accesses }) := by
    cases chan <;> rfl
  have moved : d.host = d.poll chan coff rest := by
    rw [Display.host, here]
  have next : d.view.host = d.view.look chan (pointer coff) pollTries (rest.map HostOp.view) := by
    rw [Machine.host, Display.view, here]
    rfl
  rw [next, moved, Display.poll, Machine.look, read]
  simp only
  by_cases there : d.s.io.regs (chan.user + 4) &&& 0xffc = coff &&& 0xffc
  · have same : d.view.get chan = pointer coff := (polled_iff _ _).mp there
    rw [if_pos there, if_pos same]
    exact ⟨coherent, view_eq (fun _ _ => rfl) (fun _ => rfl) (fun _ => rfl) rfl rfl rfl rfl⟩
  · have apart : d.view.get chan ≠ pointer coff := fun same => there ((polled_iff _ _).mpr same)
    rw [if_neg there, if_neg apart]
    by_cases more : d.it + 1 < pollTries
    · rw [if_pos more, if_pos (show d.view.waited + 1 < pollTries from more)]
      exact ⟨coherent, view_eq (fun _ _ => rfl) (fun _ => rfl) (fun _ => rfl) rfl rfl rfl rfl⟩
    · rw [if_neg more, if_neg (show ¬ d.view.waited + 1 < pollTries from more)]
      exact ⟨coherent, view_eq (fun _ _ => rfl) (fun _ => rfl) (fun _ => rfl) rfl rfl rfl rfl⟩

theorem host_simulates (fits : ∀ op ∈ d.left, op.Fits) :
    Coherent d.host.s ∧ d.host.view = d.view.host := by
  cases here : d.left with
  | nil =>
    have idle : d.host = d := by
      rw [Display.host, here]
    have turn : d.view.host = d.view := by
      rw [Machine.host, Display.view, here]
      rfl
    rw [idle, turn]
    exact ⟨coherent, rfl⟩
  | cons op rest =>
    have fit : op.Fits := fits op (here ▸ List.mem_cons_self ..)
    cases op with
    | pramin phys val => exact host_pramin coherent here fit
    | method chan i val => exact host_method coherent here fit
    | kick chan coff => exact host_kick coherent here
    | poll chan coff => exact host_poll coherent here

end Host

/-- The buffer lies where the view shows all of it. -/
theorem packet_view (chan : Chan)
    (inside : d.get chan + packetWords (d.word chan (d.get chan)) ≤ pbWords) :
    d.view.packet packetWords chan = d.packet chan := by
  have first : d.view.slots chan (d.view.get chan) = d.word chan (d.get chan) :=
    if_pos (by have := pointer_small (d.s.io.regs (chan.user + 4)); exact this)
  rw [Machine.packet, first, Display.packet]
  apply List.map_congr_left
  intro i member
  have below := List.mem_range.mp member
  exact if_pos (show d.get chan + i < pbWords by omega)

theorem engine_simulates (chan : Chan) :
    (d.engine chan).view = d.view.engine packetWords chan := by
  have first : d.view.slots chan (d.view.get chan) = d.word chan (d.get chan) :=
    if_pos (by have := pointer_small (d.s.io.regs (chan.user + 4)); exact this)
  rw [Machine.engine, Display.engine, first]
  by_cases shown : d.get chan + packetWords (d.word chan (d.get chan)) ≤ d.put chan
  · have room : d.put chan < pbWords := pointer_small _
    rw [if_pos shown, if_pos (show d.view.get chan + _ ≤ d.view.put chan from shown),
      packet_view chan (by omega)]
    refine view_eq (fun _ _ => rfl) (fun other => ?_) (fun other => ?_) rfl rfl rfl rfl
    · change d.put other =
        pointer (if other.user + 0 = chan.user + 4 then _ else d.s.io.regs (other.user + 0))
      rw [if_neg (by cases other <;> cases chan <;> decide)]
      rfl
    · change Function.update d.get chan _ other =
        pointer (if other.user + 4 = chan.user + 4 then _ else d.s.io.regs (other.user + 4))
      by_cases own : other = chan
      · subst own
        rw [Function.update_self, if_pos rfl, pointer_ofNat (by omega)]
        rfl
      · rw [Function.update_of_ne own,
          if_neg (by cases other <;> cases chan <;> first | exact absurd rfl own | decide)]
        rfl
  · rw [if_neg shown, if_neg (show ¬ d.view.get chan + _ ≤ d.view.put chan from shown)]

theorem device_view (regs : UInt32 → UInt32) (vram : Mem) : (d.device regs vram).view = d.view := by
  refine view_eq (fun chan slot => ?_) (fun chan => ?_) (fun chan => ?_) rfl rfl rfl rfl
  · by_cases slotted : slot < pbWords
    · have room : slot < 1024 := slotted
      have place := pb_place chan
      refine if_congr Iff.rfl (word_congr fun i inside => ?_).symm rfl
      refine if_pos ?_
      simp only [ours, Bool.and_eq_true, decide_eq_true_eq]
      omega
    · rw [if_neg slotted]
      exact if_neg slotted
  · cases chan <;> rfl
  · cases chan <;> rfl

/-- The operations left are those of the script that have not been carried out. -/
theorem step_left (act : Act) : (step d act).left <:+ d.left := by
  cases act with
  | host =>
    change d.host.left <:+ d.left
    rw [Display.host]
    split
    · exact List.suffix_rfl
    all_goals rename_i here
    all_goals rw [here]
    · exact List.suffix_cons ..
    · exact List.suffix_cons ..
    · exact List.suffix_cons ..
    · rw [Display.poll]
      split
      · exact List.suffix_cons ..
      · split
        · exact here ▸ List.suffix_rfl
        · exact List.suffix_cons ..
  | engine chan =>
    change (d.engine chan).left <:+ d.left
    rw [Display.engine]
    split <;> exact List.suffix_rfl
  | device regs vram => exact List.suffix_rfl

theorem step_simulates (ready : Ready d) (act : Act) :
    Ready (step d act) ∧ (step d act).view = CommandStream.step packetWords d.view act.turn := by
  have fits : ∀ op ∈ (step d act).left, op.Fits := fun op member =>
    ready.fits op ((step_left act).subset member)
  cases act with
  | host =>
    obtain ⟨coherent, view⟩ := host_simulates ready.coherent ready.fits
    exact ⟨⟨coherent, fits⟩, view⟩
  | engine chan =>
    have coherent : Coherent (d.engine chan).s := by
      rw [Display.engine]
      split
      · exact ready.coherent
      · exact ready.coherent
    exact ⟨⟨coherent, fits⟩, engine_simulates chan⟩
  | device regs vram => exact ⟨⟨ready.coherent, fits⟩, device_view regs vram⟩

end Simulation

end GspDriver.DisplayModeset
