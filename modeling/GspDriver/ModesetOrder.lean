import GspDriver.DisplayModeset

/-!
The order of a modeset. The host follows the plan of its four submissions, and
what it writes in front of them stays: whatever the two channels, the host and
the rest of the card do in turn, each channel takes the methods of its stream
in their order, none before the waits that precede it, and the window's find
the surface.
-/

namespace GspDriver.DisplayModeset

open Bytes LittleEndian Words Pramin GspDisp RasterTiming DispStreams Scanout Trace CommandStream

/-! The host follows the plan of its four streams. -/

theorem words_length (pb : Stream) : (words pb).length = 2 * pb.length := by
  induction pb with
  | nil => rfl
  | cons word rest ih =>
    change ([word.1, word.2] ++ words rest).length = _
    rw [List.length_append, ih, List.length_cons, List.length_cons, List.length_cons,
      List.length_nil]
    omega

theorem packets_start {pb longer : Stream} (first : pb <+: longer) :
    packets pb <+: packets longer :=
  first.map _

theorem words_start {pb longer : Stream} (first : pb <+: longer) : words pb <+: words longer := by
  obtain ⟨more, rfl⟩ := first
  rw [words, words, packets, packets, List.map_append, List.flatten_append]
  exact List.prefix_append ..

theorem packets_sized {pb : Stream} (heads : ∀ word ∈ pb, headerCount word.1 = 1) :
    ∀ packet ∈ packets pb, ∃ first, packet.head? = some first ∧
      packetWords first = packet.length := by
  intro packet member
  obtain ⟨word, here, rfl⟩ := List.mem_map.mp member
  refine ⟨word.1, rfl, ?_⟩
  rw [packetWords, heads word here]
  rfl

namespace Modeset

variable (m : Modeset)

theorem init_length : coreInit.length = 36 := by
  rw [coreInit, emits_length (core_update_emits 0), emits_length (core_init_emits 0)]
  rfl

theorem head_length : m.coreHead.length = 51 := by
  rw [coreHead, emits_length (core_update_emits 0), emits_length (core_modeset_emits ..),
    emits_length (core_sor_emits ..), init_length]

theorem output_length : m.coreOutput.length = 55 := by
  rw [coreOutput, emits_length (core_update_emits 0), emits_length (output_resource_emits ..),
    head_length]

theorem flip_length : m.windowFlip.length = 16 := by
  rw [windowFlip, scanoutWindow, emits_length (window_update_emits _),
    emits_length (window_image_emits ..)]
  rfl

theorem init_starts : coreInit <+: m.coreHead := by
  rw [coreHead]
  exact (emits_starts (core_sor_emits ..) _).trans
    ((emits_starts (core_modeset_emits ..) _).trans (emits_starts (core_update_emits 0) _))

theorem head_starts : m.coreHead <+: m.coreOutput := by
  rw [coreOutput]
  exact (emits_starts (output_resource_emits ..) _).trans (emits_starts (core_update_emits 0) _)

theorem output_heads : ∀ word ∈ m.coreOutput, headerCount word.1 = 1 := by
  have empty : ∀ word ∈ ([] : Stream), headerCount word.1 = 1 := fun _ member =>
    absurd member List.not_mem_nil
  have init : ∀ word ∈ coreInit, headerCount word.1 = 1 := by
    rw [coreInit]
    exact emits_heads (core_update_emits 0) (emits_heads (core_init_emits 0) empty)
  have sor := emits_heads (core_sor_emits m.mdSor 0 m.mdProto) init
  have mode := emits_heads (core_modeset_emits m.mt 0 m.mdSor m.mdProto) sor
  have head : ∀ word ∈ m.coreHead, headerCount word.1 = 1 := by
    rw [coreHead]
    exact emits_heads (core_update_emits 0) mode
  rw [coreOutput]
  exact emits_heads (core_update_emits 0) (emits_heads (output_resource_emits ..) head)

theorem flip_heads : ∀ word ∈ m.windowFlip, headerCount word.1 = 1 := by
  have empty : ∀ word ∈ ([] : Stream), headerCount word.1 = 1 := fun _ member =>
    absurd member List.not_mem_nil
  rw [windowFlip, scanoutWindow]
  exact emits_heads (window_update_emits _) (emits_heads (window_image_emits ..) empty)

/-- What the core channel may fetch after so many waits. -/
def coreAfter : Nat → Stream
  | 0 => coreInit
  | 1 => m.coreHead
  | _ => m.coreOutput

theorem after_starts : ∀ k, m.coreAfter k <+: m.coreAfter (k + 1)
  | 0 => m.init_starts
  | 1 => m.head_starts
  | _ + 2 => List.prefix_rfl

def windowAfter (k : Nat) : Stream := if k < 3 then [] else m.windowFlip

theorem window_starts (k : Nat) : m.windowAfter k <+: m.windowAfter (k + 1) := by
  rw [windowAfter, windowAfter]
  by_cases early : k < 3
  · rw [if_pos early]
    exact List.nil_prefix
  · rw [if_neg early, if_neg (by omega)]

def after (k : Nat) : Chan → Stream
  | .core => m.coreAfter k
  | .window => m.windowAfter k

def stream : Chan → Stream
  | .core => m.coreOutput
  | .window => m.windowFlip

/-- The channel that each wait is for. -/
def waits : Nat → Option Chan
  | 0 | 1 | 2 => some .core
  | 3 => some .window
  | _ => none

theorem after_grows (chan : Chan) : Monotone fun k => 2 * (m.after k chan).length := by
  apply monotone_nat_of_le_succ
  intro k
  cases chan with
  | core => exact Nat.mul_le_mul_left 2 (m.after_starts k).length_le
  | window => exact Nat.mul_le_mul_left 2 (m.window_starts k).length_le

def plan : Plan Chan packetWords where
  packets chan := packets (m.stream chan)
  sized chan := by
    cases chan with
    | core => exact packets_sized m.output_heads
    | window => exact packets_sized m.flip_heads
  limit chan k := 2 * (m.after k chan).length
  grows := m.after_grows
  looks k := (waits k).map fun chan => (chan, 2 * (m.after k chan).length)

variable {m} {stored put : Chan → Nat} {looked : Nat} {rest : List (Op Chan UInt32)}

/-- A submission stores what the channel lacks of the stream, shows it and waits for it. -/
theorem follows_submit {chan : Chan} {done : Nat} {cs : Stream} (wait : waits looked = some chan)
    (stream : m.after looked chan = cs) (part : cs <+: m.stream chan) (room : cs.length < 512)
    (before : stored chan = 2 * done) (shown : put chan = 2 * done) (more : done ≤ cs.length)
    (follows : m.plan.Follows (Function.update stored chan (2 * cs.length))
      (Function.update put chan (2 * cs.length)) (looked + 1) rest) :
    m.plan.Follows stored put looked ((submit chan done cs).map HostOp.view ++ rest) := by
  have stores : (submit chan done cs).map HostOp.view =
      (List.range' (2 * done) (2 * cs.length - 2 * done)).map
        (fun j => .store chan j ((words cs).getD j 0)) ++
      [.publish chan (pointer (UInt32.ofNat (8 * cs.length))),
        .look chan (pointer (UInt32.ofNat (8 * cs.length))) pollTries] := by
    rw [submit, List.map_append, List.map_map]
    congr 1
    apply List.map_congr_left
    intro j _
    simp only [Function.comp, HostOp.view, Nat.mul_div_cancel_left j (show 0 < 4 by decide)]
  have place : pointer (UInt32.ofNat (8 * cs.length)) = 2 * cs.length := by
    have double : 8 * cs.length = 4 * (2 * cs.length) := by omega
    have inside : 2 * cs.length < pbWords := by
      have words : pbWords = 1024 := rfl
      omega
    rw [double, pointer_ofNat inside]
  have total : 2 * done + (2 * cs.length - 2 * done) = 2 * cs.length := by omega
  rw [stores, place, List.append_assoc]
  refine follows_stores _ before (fun j above below => ?_) ?_
  · rw [total] at below
    have inside : j < (words cs).length := by
      rw [words_length]
      exact below
    have here : (words cs)[j]? = some ((words cs).getD j 0) := by
      rw [List.getD_eq_getElem?_getD, List.getElem?_eq_getElem inside]
      rfl
    obtain ⟨tail, whole⟩ := words_start part
    change (words (m.stream chan))[j]? = _
    rw [← here, ← whole, List.getElem?_append_left inside]
  · rw [total]
    refine follows_wait ?_ ?_ ?_ ?_ follows
    · rw [shown]
      omega
    · rw [Function.update_self]
    · change 2 * cs.length ≤ 2 * (m.after looked chan).length
      rw [stream]
    · change (waits looked).map _ = _
      rw [wait, Option.map_some, stream]

theorem submissions_follow : m.plan.Follows (fun _ => 0) (fun _ => 0) 0
    (m.submissions.map HostOp.view) := by
  have init := init_length
  have head := m.head_length
  have output := m.output_length
  have flip := m.flip_length
  have ends : m.submissions.map HostOp.view =
      (submit .core 0 coreInit).map HostOp.view ++
        ((submit .core coreInit.length m.coreHead).map HostOp.view ++
          ((submit .core m.coreHead.length m.coreOutput).map HostOp.view ++
            ((submit .window 0 m.windowFlip).map HostOp.view ++ []))) := by
    simp only [submissions, List.map_append, List.append_assoc, List.append_nil]
  have apart : ∀ (f : Chan → Nat) count, Function.update f .core count .window = f .window :=
    fun f count => Function.update_of_ne (by decide) ..
  rw [ends]
  refine follows_submit rfl rfl ?_ (by omega) rfl rfl (by omega) ?_
  · exact m.init_starts.trans m.head_starts
  refine follows_submit rfl ?_ ?_ (by omega) ?_ ?_ (by omega) ?_
  · rfl
  · exact m.head_starts
  · rw [Function.update_self]
  · rw [Function.update_self]
  refine follows_submit rfl ?_ ?_ (by omega) ?_ ?_ (by omega) ?_
  · rfl
  · exact List.prefix_rfl
  · rw [Function.update_self]
  · rw [Function.update_self]
  refine follows_submit rfl ?_ ?_ (by omega) ?_ ?_ (by omega) follows_nil
  · rfl
  · exact List.prefix_rfl
  · rw [apart, apart, apart]
  · rw [apart, apart, apart]

/-! The writes in front of the submissions, and where they land. -/

variable (m)

def setup : List HostOp := m.fill ++ (m.ctxdma ++ m.ramht)

/-- The timing comes from an EDID and the surface from the provider, if there is one. -/
structure Given : Prop where
  parsed : ∃ edid, nvEdidParseDtd edid 128 = some m.mt
  provided : scanoutFb m.fbp m.mt.hact m.mt.vact m.pit = some (m.fb2, m.fbTarget)

variable {m}

theorem fill_fits (given : m.Given) : ∀ op ∈ m.fill, op.Fits ∧ ∃ phys val, op = .pramin phys val ∧
    0x14000000 ≤ phys.toNat := by
  obtain ⟨edid, parsed⟩ := given.parsed
  obtain ⟨width, height⟩ := active_small parsed
  obtain ⟨area, small⟩ := surface_toNat width height
  have provided := given.provided
  intro op member
  rw [fill] at member
  split at member
  · rename_i own
    have place : m.fb2 = 0x14000000 := by
      rw [own] at provided
      exact (congrArg Prod.fst (Option.some.inj provided)).symm
    obtain ⟨k, inside, rfl⟩ := List.mem_map.mp member
    have below := List.mem_range.mp inside
    have bytes : m.fbsz.toUInt32.toNat ≤ m.fbsz.toNat := by
      rw [UInt64.toNat_toUInt32]
      exact Nat.mod_le _ _
    have size : m.fbsz.toNat < 2 ^ 26 := by
      rw [fbsz, pit, area]
      exact small
    have offset : (UInt64.ofNat (4 * k)).toNat = 4 * k := ofNat_toNat (by omega)
    have base : (0x14000000 : UInt64).toNat = 0x14000000 := rfl
    have phys : (m.fb2 + UInt64.ofNat (4 * k)).toNat = 0x14000000 + 4 * k := by
      rw [place, add_toNat (by omega), offset, base]
    refine ⟨⟨?_, ?_⟩, _, _, rfl, ?_⟩
    · rw [phys]
      simp only [reach]
      omega
    · rw [phys]
      omega
    · rw [phys]
      exact Nat.le_add_right ..
  · cases member

theorem ctxdma_writes : ∀ op ∈ m.ctxdma, op.Fits ∧ ∃ phys val, op = .pramin phys val ∧
    0x13402000 ≤ phys.toNat := by
  intro op member
  obtain ⟨k, inside, rfl⟩ := List.mem_map.mp member
  have below := List.mem_range.mp inside
  have offset : (UInt64.ofNat (4 * k)).toNat = 4 * k := ofNat_toNat (by omega)
  have base : (dispInst + nvDispCtxdmaOff.toUInt64).toNat = 0x13402000 := rfl
  have phys : (dispInst + nvDispCtxdmaOff.toUInt64 + UInt64.ofNat (4 * k)).toNat =
      0x13402000 + 4 * k := by
    rw [add_toNat (by omega), base, offset]
  refine ⟨⟨?_, ?_⟩, _, _, rfl, ?_⟩
  all_goals rw [phys]
  · simp only [reach]
    omega
  · omega
  · exact Nat.le_add_right ..

/-- The entry of a channel and a handle, in front of the ctx-dmas. -/
theorem entry_place (chid handle : UInt32) (off : UInt64) (word : off.toNat ≤ 4) :
    (dispInst + (nvDispRamhtHash chid handle).toUInt64 * nvDispRamhtEntry.toUInt64 + off).toNat =
      dispInst.toNat + (nvDispRamhtHash chid handle * nvDispRamhtEntry).toNat + off.toNat := by
  have slot : (nvDispRamhtHash chid handle).toNat < 1024 := by
    rw [nvDispRamhtHash, UInt32.toNat_mod]
    exact Nat.mod_lt _ (by decide)
  have eight : nvDispRamhtEntry.toUInt64.toNat = 8 := rfl
  have byte : nvDispRamhtEntry.toNat = 8 := rfl
  have inst : dispInst.toNat = 0x13400000 := rfl
  have wide : ((nvDispRamhtHash chid handle).toUInt64 * nvDispRamhtEntry.toUInt64).toNat =
      (nvDispRamhtHash chid handle).toNat * 8 := by
    rw [mul_toNat] <;> rw [UInt32.toNat_toUInt64, eight]
    omega
  have narrow : (nvDispRamhtHash chid handle * nvDispRamhtEntry).toNat =
      (nvDispRamhtHash chid handle).toNat * 8 := by
    rw [UInt32.toNat_mul, byte]
    omega
  rw [add_toNat, add_toNat, wide, inst, narrow]
  · rw [wide, inst]
    omega
  · rw [add_toNat, wide, inst]
    · omega
    · rw [wide, inst]
      omega

theorem ramht_writes : ∀ op ∈ m.ramht, op.Fits ∧ ∃ phys val, op = .pramin phys val := by
  have inside := ramht_inside (nvDispChidWindow 0) nvDispHandleVram
  have table : nvDispCtxdmaOff.toNat = 0x2000 := rfl
  have inst : dispInst.toNat = 0x13400000 := rfl
  have first := entry_place (nvDispChidWindow 0) nvDispHandleVram 0 (by decide)
  have second := entry_place (nvDispChidWindow 0) nvDispHandleVram 4 (by decide)
  have zero : (0 : UInt64).toNat = 0 := rfl
  have four : (4 : UInt64).toNat = 4 := rfl
  intro op member
  rcases List.mem_cons.mp member with rfl | member
  · refine ⟨⟨?_, ?_⟩, _, _, rfl⟩
    · change (dispInst + (nvDispRamhtHash _ _).toUInt64 * _ + 0).toNat + 4 ≤ reach
      rw [first]
      simp only [reach]
      omega
    · refine Or.inl ?_
      change (dispInst + (nvDispRamhtHash _ _).toUInt64 * _ + 0).toNat + 4 ≤ _
      rw [first]
      omega
  · rw [List.mem_singleton.mp member]
    refine ⟨⟨?_, ?_⟩, _, _, rfl⟩
    · change (dispInst + (nvDispRamhtHash _ _).toUInt64 * _ + 4).toNat + 4 ≤ reach
      rw [second]
      simp only [reach]
      omega
    · refine Or.inl ?_
      change (dispInst + (nvDispRamhtHash _ _).toUInt64 * _ + 4).toNat + 4 ≤ _
      rw [second]
      omega

theorem setup_writes (given : m.Given) : ∀ op ∈ m.setup, op.Fits ∧
    ∃ phys val, op = .pramin phys val := by
  intro op member
  rcases List.mem_append.mp member with filled | placed
  · obtain ⟨fits, phys, val, here, _⟩ := fill_fits given op filled
    exact ⟨fits, phys, val, here⟩
  · rcases List.mem_append.mp placed with desc | entry
    · obtain ⟨fits, phys, val, here, _⟩ := ctxdma_writes op desc
      exact ⟨fits, phys, val, here⟩
    · exact ramht_writes op entry

/-- Words of a pushbuffer, PUT and waits. -/
def Submits : HostOp → Prop
  | .pramin _ _ => False
  | _ => True

theorem submit_fits {chan : Chan} {done : Nat} {cs : Stream} (room : cs.length < 512) :
    ∀ op ∈ submit chan done cs, op.Fits ∧ Submits op := by
  intro op member
  rcases List.mem_append.mp member with word | last
  · obtain ⟨j, inside, rfl⟩ := List.mem_map.mp word
    obtain ⟨above, below⟩ := List.mem_range'_1.mp inside
    have words : pbWords = 1024 := rfl
    exact ⟨⟨Nat.dvd_mul_right 4 j, by omega⟩, trivial⟩
  · rcases List.mem_cons.mp last with rfl | wait
    · exact ⟨trivial, trivial⟩
    · rw [List.mem_singleton.mp wait]
      exact ⟨trivial, trivial⟩

theorem submissions_fit : ∀ op ∈ m.submissions, op.Fits ∧ Submits op := by
  have init := init_length
  have head := m.head_length
  have output := m.output_length
  have flip := m.flip_length
  intro op member
  rcases List.mem_append.mp member with member | last
  · rcases List.mem_append.mp member with member | third
    · rcases List.mem_append.mp member with first | second
      · exact submit_fits (by omega) op first
      · exact submit_fits (by omega) op second
    · exact submit_fits (by omega) op third
  · exact submit_fits (by omega) op last

theorem script_fits (given : m.Given) : ∀ op ∈ m.script, op.Fits := by
  intro op member
  rcases List.mem_append.mp member with before | after
  · exact (setup_writes given op before).1
  · exact (submissions_fit op after).1

theorem script_follows (given : m.Given) : m.plan.Follows (fun _ => 0) (fun _ => 0) 0
    (m.script.map HostOp.view) := by
  rw [script, List.map_append]
  refine follows_others (fun op member => ?_) submissions_follow
  obtain ⟨host, here, rfl⟩ := List.mem_map.mp member
  obtain ⟨_, phys, val, rfl⟩ := setup_writes given host here
  rfl

end Modeset

/-! The instance memory while the host carries its script out. -/

def HostOp.stores (vram : Mem) : HostOp → Mem
  | .pramin phys val => store vram phys.toNat 4 val.toNat
  | .method chan i val => store vram (chan.pb + UInt64.ofNat i).toNat 4 val.toNat
  | _ => vram

def written (ops : List HostOp) (vram : Mem) : Mem := ops.foldl HostOp.stores vram

def HostOp.isPoll : HostOp → Bool
  | .poll _ _ => true
  | _ => false

theorem store_at {m m' : Mem} {a n v x : Nat} (same : m x = m' x) :
    store m a n v x = store m' a n v x := by
  rw [store, store, same]

/-- Part of the script has been carried out, and our memory holds what it wrote. -/
structure Carried (script : List HostOp) (vram : Mem) (d : Display) : Prop where
  ready : Ready d
  past : ∃ past, past ++ d.left = script ∧ past.countP HostOp.isPoll = d.polled.length ∧
    ∀ a, ours a = true → d.s.io.vram a = written past vram a

section Carried

variable {script : List HostOp} {vram : Mem} {d t : Display}

theorem stores_at {m m' : Mem} {x : Nat} (op : HostOp) (same : m x = m' x) :
    op.stores m x = op.stores m' x := by
  cases op with
  | pramin phys val => exact store_at same
  | method chan i val => exact store_at same
  | kick chan coff => exact same
  | poll chan coff => exact same

/-- The next operation of the script is carried out. -/
theorem carried_next {op : HostOp} {rest : List HostOp} (carried : Carried script vram d)
    (here : d.left = op :: rest) (ready : Ready t) (left : t.left = rest)
    (polled : t.polled.length = d.polled.length + if op.isPoll then 1 else 0)
    (memory : t.s.io.vram = op.stores d.s.io.vram) : Carried script vram t := by
  obtain ⟨past, whole, waits, same⟩ := carried.past
  refine ⟨ready, past ++ [op], ?_, ?_, fun a own => ?_⟩
  · rw [left, List.append_assoc, List.singleton_append, ← here, whole]
  · rw [List.countP_append, List.countP_singleton, waits, polled]
  · rw [memory, written, List.foldl_append]
    exact stores_at op (same a own)

theorem carried_same (carried : Carried script vram d) (ready : Ready t) (left : t.left = d.left)
    (polled : t.polled = d.polled)
    (memory : ∀ a, ours a = true → t.s.io.vram a = d.s.io.vram a) : Carried script vram t := by
  obtain ⟨past, whole, waits, same⟩ := carried.past
  refine ⟨ready, past, ?_, ?_, fun a own => (memory a own).trans (same a own)⟩
  · rw [left, whole]
  · rw [polled, waits]

theorem host_carries (carried : Carried script vram d) : Carried script vram d.host := by
  have ready : Ready d.host := (step_simulates carried.ready .host).1
  have coherent := carried.ready.coherent
  cases here : d.left with
  | nil =>
    have idle : d.host = d := by
      rw [Display.host, here]
    rw [idle]
    exact carried
  | cons op rest =>
    have fits : op.Fits := carried.ready.fits op (here ▸ List.mem_cons_self ..)
    cases op with
    | pramin phys val =>
      have moved : d.host = d.wrote (nvPraminWr32 d.s phys val) rest := by
        rw [Display.host, here]
      rw [moved] at ready ⊢
      exact carried_next carried here ready rfl rfl (write_effect coherent _ fits.1).2.2
    | method chan i val =>
      have moved : d.host = d.wrote (nvPraminWr32 d.s (chan.pb + UInt64.ofNat i) val) rest := by
        rw [Display.host, here]
      have place := pb_place chan
      have words : pbWords = 1024 := rfl
      have below := fits.2
      have inside : (chan.pb + UInt64.ofNat i).toNat + 4 ≤ reach := by
        have offset : (UInt64.ofNat i).toNat = i := ofNat_toNat (by omega)
        rw [add_toNat (by omega), offset]
        simp only [reach]
        omega
      rw [moved] at ready ⊢
      exact carried_next carried here ready rfl rfl (write_effect coherent _ inside).2.2
    | kick chan coff =>
      have moved : d.host = d.wrote ⟨d.s.io.wr (chan.user + 0) coff, d.s.winBase⟩ rest := by
        rw [Display.host, here]
      rw [moved, wr_user] at ready ⊢
      exact carried_next carried here ready rfl rfl rfl
    | poll chan coff =>
      have moved : d.host = d.poll chan coff rest := by
        rw [Display.host, here]
      have read : (d.s.io.rd (chan.user + 4)).2.vram = d.s.io.vram := by
        cases chan <;> rfl
      rw [moved] at ready ⊢
      rw [Display.poll] at ready ⊢
      by_cases there : (d.s.io.rd (chan.user + 4)).1 &&& 0xffc = coff &&& 0xffc
      · rw [if_pos there] at ready ⊢
        exact carried_next carried here ready rfl List.length_append read
      · rw [if_neg there] at ready ⊢
        by_cases more : d.it + 1 < pollTries
        · rw [if_pos more] at ready ⊢
          exact carried_same carried ready rfl rfl fun a _ => congrFun read a
        · rw [if_neg more] at ready ⊢
          exact carried_next carried here ready rfl List.length_append read

theorem step_carries (carried : Carried script vram d) (act : Act) :
    Carried script vram (step d act) := by
  have ready : Ready (step d act) := (step_simulates carried.ready act).1
  cases act with
  | host => exact host_carries carried
  | engine chan =>
    refine carried_same carried ready ?_ ?_ fun a _ => ?_
    all_goals rw [step, Display.engine]
    all_goals split
    all_goals rfl
  | device regs memory =>
    refine carried_same carried ready rfl rfl fun a own => ?_
    exact if_pos own

end Carried

/-! The window's surface, found through the handle that its methods name. -/

namespace Modeset

variable (m : Modeset)

structure Surface (vram : Mem) : Prop where
  found : ramhtFind vram dispInst.toNat (nvDispChidWindow 0) nvDispHandleVram =
    some (m.hcli.toNat % 2 ^ 14, nvDispCtxdmaOff.toNat)
  start : load vram (dispInst.toNat + nvDispCtxdmaOff.toNat + 4) 8 = m.fb2.toNat / 256
  limit : load vram (dispInst.toNat + nvDispCtxdmaOff.toNat + 12) 8 =
    (m.fb2 + m.fbsz - 1).toNat / 256

variable {m}

theorem surface_congr {vram vram' : Mem} (surface : m.Surface vram)
    (same : ∀ a, 0x13400000 ≤ a → a < 0x13410000 → vram' a = vram a) : m.Surface vram' := by
  have inst : dispInst.toNat = 0x13400000 := rfl
  have table : nvDispCtxdmaOff.toNat = 0x2000 := rfl
  have inside := ramht_inside (nvDispChidWindow 0) nvDispHandleVram
  refine ⟨?_, ?_, ?_⟩
  · rw [← surface.found, ramhtFind, ramhtFind,
      @ld32_congr vram' vram _ _ fun i below => same _ (by omega) (by omega),
      @ld32_congr vram' vram _ _ fun i below => same _ (by omega) (by omega)]
  · rw [← surface.start]
    exact load_congr _ _ _ _ _ fun i below => same _ (by omega) (by omega)
  · rw [← surface.limit]
    exact load_congr _ _ _ _ _ fun i below => same _ (by omega) (by omega)

/-- The words of the descriptor, one after another, are the descriptor. -/
theorem ctxdma_written (vram : Mem) (count : Nat) (short : count ≤ 6) :
    ∀ i < 4 * count, written ((List.range count).map fun k =>
      .pramin (dispInst + nvDispCtxdmaOff.toUInt64 + UInt64.ofNat (4 * k)) (ld32 m.desc (4 * k)))
        vram (0x13402000 + i) = m.desc i := by
  induction count with
  | zero => exact fun i inside => absurd inside (by omega)
  | succ count ih =>
    intro i inside
    have offset : (UInt64.ofNat (4 * count)).toNat = 4 * count := ofNat_toNat (by omega)
    have base : (dispInst + nvDispCtxdmaOff.toUInt64).toNat = 0x13402000 := rfl
    have phys : (dispInst + nvDispCtxdmaOff.toUInt64 + UInt64.ofNat (4 * count)).toNat =
        0x13402000 + 4 * count := by
      rw [add_toNat (by omega), base, offset]
    rw [List.range_succ, List.map_append, written, List.foldl_append]
    simp only [List.map_singleton, List.foldl_cons, List.foldl_nil, HostOp.stores, phys]
    by_cases old : i < 4 * count
    · rw [store_outside _ _ _ _ _ (by omega)]
      exact ih (by omega) i old
    · have place : 0x13402000 + i = 0x13402000 + 4 * count + (i - 4 * count) := by omega
      have whole : 4 * count + (i - 4 * count) = i := by omega
      rw [place, store_inside _ _ _ _ _ (by omega), ld32_toNat, load_digit _ _ _ _ (by omega),
        whole]

theorem surface_written (vram : Mem) : m.Surface (written (m.ctxdma ++ m.ramht) vram) := by
  have inst : dispInst.toNat = 0x13400000 := rfl
  have table : nvDispCtxdmaOff.toNat = 0x2000 := rfl
  have zero : (0 : UInt64).toNat = 0 := rfl
  have four : (4 : UInt64).toNat = 4 := rfl
  have inside := ramht_inside (nvDispChidWindow 0) nvDispHandleVram
  have first := entry_place (nvDispChidWindow 0) nvDispHandleVram 0 (by decide)
  have second := entry_place (nvDispChidWindow 0) nvDispHandleVram 4 (by decide)
  have shape : written (m.ctxdma ++ m.ramht) vram =
      store (store (written m.ctxdma vram)
          (dispInst.toNat + (nvDispRamhtHash (nvDispChidWindow 0) nvDispHandleVram *
            nvDispRamhtEntry).toNat) 4 nvDispHandleVram.toNat)
        (dispInst.toNat + (nvDispRamhtHash (nvDispChidWindow 0) nvDispHandleVram *
          nvDispRamhtEntry).toNat + 4) 4
        (nvGspDispRamhtEntry (nvDispChidWindow 0) nvDispHandleVram m.hcli nvDispCtxdmaOff).2.toNat
      := by
    rw [zero, Nat.add_zero] at first
    rw [four] at second
    rw [← second, ← first, written, List.foldl_append]
    rfl
  have desc : ∀ i < 24, written (m.ctxdma ++ m.ramht) vram
      (dispInst.toNat + nvDispCtxdmaOff.toNat + i) = m.desc i := by
    intro i below
    rw [shape, store_outside _ _ _ _ _ (by omega), store_outside _ _ _ _ _ (by omega), inst, table]
    exact ctxdma_written vram 6 (Nat.le_refl _) i below
  obtain ⟨start, limit⟩ := ctxdma_fields m.fb2 (m.fb2 + m.fbsz - 1) m.fbTarget
  refine ⟨ramht_finds (by decide) (by decide) (by decide) ?_ ?_, ?_, ?_⟩
  · rw [shape, ← st32_eq_store, ← st32_eq_store, ld32_st32_apart _ _ (by omega), ld32_st32]
  · rw [shape, ← st32_eq_store, ← st32_eq_store, ld32_st32]
  · rw [← start]
    exact load_congr _ _ _ _ _ fun i below => by
      rw [Nat.add_assoc _ 4 i]
      exact desc (4 + i) (by omega)
  · rw [← limit]
    exact load_congr _ _ _ _ _ fun i below => by
      rw [Nat.add_assoc _ 12 i]
      exact desc (12 + i) (by omega)

/-- The submissions write behind the instance memory. -/
theorem submits_apart {ops : List HostOp} (fit : ∀ op ∈ ops, op.Fits ∧ Submits op) {a : Nat}
    (below : a < 0x13410000) : ∀ vram, written ops vram a = vram a := by
  induction ops with
  | nil => exact fun _ => rfl
  | cons op rest ih =>
    intro vram
    have later := ih (fun op member => fit op (List.mem_cons_of_mem _ member)) (op.stores vram)
    have own := fit op (List.mem_cons_self ..)
    refine later.trans ?_
    cases op with
    | pramin phys val => exact absurd own.2 id
    | method chan i val =>
      obtain ⟨_, small⟩ := own.1
      have place := pb_place chan
      have words : pbWords = 1024 := rfl
      have offset : (UInt64.ofNat i).toNat = i := ofNat_toNat (by omega)
      refine store_outside _ _ _ _ _ (Or.inl ?_)
      rw [add_toNat (by omega), offset]
      omega
    | kick chan coff => rfl
    | poll chan coff => rfl

/-- Once a wait has ended the surface is in place, and it stays there. -/
theorem surface_carried (given : m.Given) {vram : Mem} {d : Display}
    (carried : Carried m.script vram d) (waited : 0 < d.polled.length) :
    m.Surface d.s.io.vram := by
  obtain ⟨past, whole, waits, same⟩ := carried.past
  have silent : m.setup.countP HostOp.isPoll = 0 := by
    rw [List.countP_eq_zero]
    intro op member
    obtain ⟨_, phys, val, rfl⟩ := setup_writes given op member
    exact Bool.false_ne_true
  have parts : m.script = m.setup ++ m.submissions := rfl
  rw [parts] at whole
  rcases List.append_eq_append_iff.mp whole with ⟨more, short, _⟩ | ⟨more, long, tail⟩
  · rw [short, List.countP_append] at silent
    omega
  · have fit : ∀ op ∈ more, op.Fits ∧ Submits op := by
      intro op member
      apply submissions_fit
      rw [tail]
      exact List.mem_append_left _ member
    refine surface_congr (surface_written (written m.fill vram)) fun a above below => ?_
    have own : ours a = true := by
      simp only [ours, Bool.and_eq_true, decide_eq_true_eq]
      omega
    have order : written past vram =
        written more (written (m.ctxdma ++ m.ramht) (written m.fill vram)) := by
      rw [long, setup, written, List.foldl_append, List.foldl_append]
      rfl
    rw [same a own, order]
    exact submits_apart fit below _

/-! The theorem. -/

variable (m)

/-- The script is to be carried out; nothing has been fetched or shown yet. -/
structure Begins (d : Display) : Prop where
  coherent : Coherent d.s
  left : d.left = m.script
  put : ∀ chan, d.put chan = 0
  get : ∀ chan, d.get chan = 0
  taken : d.taken = fun _ => []
  polled : d.polled = []

/-- What the channels have taken, against what the host knows of them. -/
structure InOrder (d : Display) : Prop where
  core : d.taken .core <+: packets m.coreOutput
  window : d.taken .window <+: packets m.windowFlip
  coreWaits : (d.taken .core).length ≤ (m.coreAfter d.polled.length).length
  windowWaits : d.taken .window ≠ [] → 3 ≤ d.polled.length
  coreReached : ∀ k < 3, d.polled[k]? = some true → packets (m.coreAfter k) <+: d.taken .core
  windowReached : d.polled[3]? = some true → d.taken .window = packets m.windowFlip
  surface : d.taken .window ≠ [] → m.Surface d.s.io.vram

variable {m}

theorem packets_flatten {pb : Stream} {taken : List (List UInt32)} (first : taken <+: packets pb) :
    taken.flatten.length = 2 * taken.length := by
  have part : taken = packets (pb.take taken.length) := by
    rw [packets, List.map_take]
    exact List.prefix_iff_eq_take.mp first
  have size := words_length (pb.take taken.length)
  rw [words, ← part] at size
  rw [size]
  conv_rhs => rw [part, packets, List.length_map]

theorem after_output : ∀ k, m.coreAfter k <+: m.coreOutput
  | 0 => m.init_starts.trans m.head_starts
  | 1 => m.head_starts
  | _ + 2 => List.prefix_rfl

theorem packet_positive (word : UInt32) : 0 < packetWords word := by
  rw [packetWords]
  omega

theorem view_begins (given : m.Given) {d : Display} (begins : m.Begins d) :
    m.plan.Begins d.view := by
  have put : d.view.put = fun _ => 0 := funext begins.put
  refine ⟨?_, put, funext begins.get, begins.taken, begins.polled⟩
  rw [put]
  change m.plan.Follows _ _ 0 (d.left.map HostOp.view)
  rw [begins.left]
  exact script_follows given

/-- Whatever the order in which the host, the two channels and the rest of the
card take their steps, the modeset is taken in order. -/
theorem channels_in_order (given : m.Given) {d : Display} (begins : m.Begins d)
    (acts : List Act) : m.InOrder (run step d acts) := by
  have ready : Ready d := ⟨begins.coherent, begins.left ▸ script_fits given⟩
  have carried : Carried m.script d.s.io.vram (run step d acts) := by
    refine @run_kept _ _ step d (Carried m.script d.s.io.vram)
      (fun _ act here => step_carries here act) acts ⟨ready, [], begins.left, ?_, fun _ _ => rfl⟩
    rw [begins.polled]
    rfl
  have view := @run_simulates _ _ step d _ _ (CommandStream.step packetWords) Display.view Act.turn
    Ready (fun _ act here => step_simulates here act) acts ready
  have order := packets_in_order packet_positive (view_begins given begins) (acts.map Act.turn)
  rw [← view] at order
  generalize run step d acts = s at carried order
  obtain ⟨channels, reached⟩ := order
  obtain ⟨core, coreLimit⟩ := channels .core
  obtain ⟨window, windowLimit⟩ := channels .window
  change s.taken .core <+: packets m.coreOutput at core
  change s.taken .window <+: packets m.windowFlip at window
  change (s.taken .core).flatten.length ≤ 2 * (m.coreAfter s.polled.length).length at coreLimit
  change (s.taken .window).flatten.length ≤ 2 * (m.windowAfter s.polled.length).length
    at windowLimit
  rw [packets_flatten core] at coreLimit
  rw [packets_flatten window] at windowLimit
  have windowWaits : s.taken .window ≠ [] → 3 ≤ s.polled.length := by
    intro some_
    by_contra early
    rw [windowAfter, if_pos (by omega), List.length_nil] at windowLimit
    exact some_ (List.eq_nil_of_length_eq_zero (by omega))
  refine ⟨core, window, by omega, windowWaits, fun k early seen => ?_, fun seen => ?_,
    fun some_ => surface_carried given carried (by have := windowWaits some_; omega)⟩
  · have look : m.plan.looks k = some (.core, 2 * (m.coreAfter k).length) := by
      interval_cases k <;> rfl
    have far := reached k .core _ seen look
    change 2 * (m.coreAfter k).length ≤ (s.taken .core).flatten.length at far
    rw [packets_flatten core] at far
    refine List.prefix_of_prefix_length_le (packets_start (after_output k)) core ?_
    rw [packets, List.length_map]
    omega
  · have far := reached 3 .window _ seen rfl
    change 2 * m.windowFlip.length ≤ (s.taken .window).flatten.length at far
    rw [packets_flatten window] at far
    refine window.eq_of_length_le ?_
    rw [packets, List.length_map]
    omega

/-- A picture of 1920 by 1080 in a surface of the platform, on a card at rest. -/
def fullHdModeset : Modeset where
  mt := fullHdTiming
  mdSor := 0
  mdProto := 1
  hcli := 0xc1d00000
  fbp := some fun _ _ _ => (0, 0x40000000, 3)
  fb2 := 0x40000000
  fbTarget := 3

def atRest : Display where
  s := ⟨⟨0, fun _ => 0, fun _ => 0, []⟩, ~~~0⟩
  taken := fun _ => []
  left := fullHdModeset.script
  polled := []
  it := 0

/-- The host writes `methods` of them and PUT, the channel takes them, and the host
finds GET where PUT is. -/
def served (chan : Chan) (methods : Nat) : List Act :=
  List.replicate (2 * methods + 1) .host ++ List.replicate methods (.engine chan) ++ [.host]

/-- Eight words of the surface's descriptor, and the four submissions. -/
def wholeModeset : List Act :=
  List.replicate 8 .host ++ served .core 36 ++ served .core 15 ++ served .core 4 ++
    served .window 16

theorem channels_in_order_full_hd : fullHdModeset.InOrder (run step atRest wholeModeset) ∧
    (run step atRest wholeModeset).polled = [true, true, true, true] ∧
    (run step atRest wholeModeset).taken .window = packets fullHdModeset.windowFlip := by
  have parsed : nvEdidParseDtd fullHd 128 = some fullHdTiming := rfl
  have zero : ∀ chan, atRest.put chan = 0 ∧ atRest.get chan = 0 := by
    intro chan
    cases chan <;> exact ⟨rfl, rfl⟩
  have order : fullHdModeset.InOrder (run step atRest wholeModeset) :=
    channels_in_order ⟨⟨fullHd, parsed⟩, rfl⟩
      ⟨Or.inl rfl, rfl, fun chan => (zero chan).1, fun chan => (zero chan).2, rfl, rfl⟩ _
  have polled : (run step atRest wholeModeset).polled = [true, true, true, true] := by
    decide +kernel
  exact ⟨order, polled, order.windowReached (congrArg (fun found => found[3]?) polled)⟩

end Modeset

end GspDriver.DisplayModeset
