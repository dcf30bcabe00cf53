import GspDriver.SessionChannel

/-!
Layer 5 keeps the rules, and a modeset is asked for only on an output that is
connected, described by an EDID and assigned a SOR. At the end are the results
about a whole bring-up.
-/

namespace GspDriver.SessionDisplay

open Bytes LittleEndian GspRpc RmCalls TypedControls GspMemory Conversation RmSession
  BringupSession SessionRules SessionOrder SessionChannel

variable {given : Given} {past later : Past} {n : Nat} {c : Chain}
  {hdisp dmask conn : UInt32} {chosen : Chosen}

/-! The displays and their connectors. -/

theorem enumerate_meets (chained : Chained given past c) (upto : Upto 7 past) :
    Meets (May given) (enumerate c) past fun found later => Upto 8 later ∧
      (found.ok = true → Granted later found.hdisp) := by
  apply meets_then (bare_meets (by decide) upto (by decide) chained.client chained.device)
  rintro disp told grown ⟨upto, got⟩
  have chained := chained_grows chained grown
  apply meets_ite
  · intro ok
    have granted : Granted told disp.handle := by
      rw [(got ok).1]
      exact (got ok).2
    apply meets_then (query_upto (plain_may (by decide) chained.client granted) upto)
    rintro heads _ one ⟨upto, _⟩
    apply meets_then (query_upto (plain_may (by decide) (granted_grows chained.client one)
      (granted_grows granted one)) upto)
    rintro supported _ two ⟨upto, _⟩
    have both := one.trans two
    apply meets_then (query_upto (plain_may (by decide) (granted_grows chained.client both)
      (granted_grows granted both)) upto)
    rintro mask later three ⟨upto, _⟩
    exact meets_pure ⟨upto, fun _ => granted_grows granted (both.trans three)⟩
  · intro _
    exact meets_pure ⟨upto, nofun⟩

theorem connect_meets (chained : Chained given past c) (disp : Granted past hdisp)
    (upto : Upto n past) :
    Meets (May given) (nvGspDispGetConnectState c.hcli hdisp dmask) past fun conn later =>
      Upto n later ∧ ∀ did, conn.value &&& did ≠ 0 → Known (Connects hdisp did) later := by
  apply query_meets (plain_may (by decide) chained.client disp)
  intro a
  refine ⟨upto_control rfl upto, fun did shown => known_here ?_⟩
  cases rc : a.rc with
  | error error =>
      rw [rc] at shown
      exact absurd (UInt32.zero_and) shown
  | ok _ =>
      rw [rc] at shown
      exact ⟨rfl, rfl, rc, shown⟩

/-- A display that a modeset could drive. -/
structure Candidate (past : Past) (hdisp conn did pr : UInt32) (edid : Mem) : Prop where
  connected : conn &&& did ≠ 0
  protocol : Known (Speaks hdisp did pr) past
  described : Known (Describes hdisp did edid) past

/-- The output chosen so far is a candidate. -/
def Fair (past : Past) (hdisp conn : UInt32) (chosen : Chosen) : Prop :=
  chosen.mdEdidOk = true →
    Candidate past hdisp conn chosen.mdDid chosen.mdProto chosen.mdEdid

theorem fair_grows (fair : Fair past hdisp conn chosen) (grown : past <:+ later) :
    Fair later hdisp conn chosen := fun ok =>
  ⟨(fair ok).connected, known_grows (fair ok).protocol grown, known_grows (fair ok).described grown⟩

theorem protocol_meets {did : UInt32} (chained : Chained given past c)
    (disp : Granted past hdisp) (upto : Upto n past) :
    Meets (May given) (nvGspDispOrGetInfo c.hcli hdisp did) past fun pr later =>
      Upto n later ∧ Known (Speaks hdisp did pr.value) later := by
  apply query_meets (plain_may (by decide) chained.client disp)
  intro a
  exact ⟨upto_control rfl upto, known_here ⟨rfl, rfl, ld32_st32 .., rfl⟩⟩

/-- The bytes of a block that a reader gets lie at the front of its buffer. -/
theorem read_front {edid back : Mem} {did : UInt32}
    (large : 128 ≤ (((TypedControls.edid did 256).value back).outSize).toNat) {i : Nat}
    (inside : i < 128) :
    readInto edid ((TypedControls.edid did 256).value back) i = back (16 + i) := by
  have copied := edidCopied_toNat 256 back
  have size : ((TypedControls.edid did 256).value back).outSize = edidSize back := rfl
  have cap : (256 : UInt32).toNat = 256 := rfl
  rw [size] at large
  have length : ((TypedControls.edid did 256).value back).bytes.length =
      (edidCopied 256 back).toNat := by
    show ((List.range _).map _).length = _
    rw [List.length_map, List.length_range]
  rw [readInto, putBytes_apply, if_pos (by omega), bytesAt, Nat.sub_zero]
  show ((List.range _).map _).getD i 0 = _
  rw [List.getD_eq_getElem?_getD, List.getElem?_map, List.getElem?_range (by omega)]
  rfl

theorem connector_meets {b : Nat} (chained : Chained given past c) (disp : Granted past hdisp)
    (fair : Fair past hdisp conn chosen) (upto : Upto n past) :
    Meets (May given) (connector c hdisp dmask conn chosen b) past fun chosen later =>
      Upto n later ∧ Fair later hdisp conn chosen := by
  apply meets_ite
  · intro _
    exact meets_pure ⟨upto, fair⟩
  · intro _
    apply meets_then (protocol_meets chained disp upto)
    rintro pr _ grown ⟨upto, protocol⟩
    apply meets_ite
    · intro _
      exact meets_pure ⟨upto, fair_grows fair grown⟩
    · intro plugged
      apply meets_then (typed_upto (show plain 0x730245 = true by decide)
        (granted_grows chained.client grown) (granted_grows disp grown) upto)
      rintro read later wrote ⟨upto, answered⟩
      refine meets_pure ⟨upto, ?_⟩
      rw [Chosen.offer]
      split
      · rename_i taken
        simp only [Bool.and_eq_true, decide_eq_true_eq] at taken
        refine fun _ => ⟨plugged, known_grows protocol wrote, ?_⟩
        apply accepted_mono (answered taken.1.1)
        rintro sent back ⟨params, value⟩
        have large := UInt32.le_iff_toNat_le.mp taken.1.2
        rw [value] at large
        refine ⟨?_, large, fun i inside => ?_⟩
        · rw [params]
          exact (ld32_st32_apart _ _ (by decide)).trans (ld32_st32 ..)
        · show readInto chosen.edid read.value i = back (16 + i)
          rw [value]
          exact read_front large inside
      · exact fair_grows fair (grown.trans wrote)

theorem connectors_meets (chained : Chained given past c) (disp : Granted past hdisp)
    (upto : Upto n past) :
    Meets (May given) (connectors c hdisp dmask conn) past fun chosen later =>
      Upto n later ∧ Fair later hdisp conn chosen := by
  apply meets_foldlM fun chosen later => Upto n later ∧ Fair later hdisp conn chosen
  · exact ⟨upto, nofun⟩
  · rintro chosen b later grown ⟨upto, fair⟩
    exact connector_meets (chained_grows chained grown) (granted_grows disp grown) fair upto

/-! The SORs. -/

theorem findSor_small (did : UInt32) (p : Mem) {sors : List Nat} (few : ∀ i ∈ sors, i < 4)
    (found : findSor did p sors ≠ noSor) : (findSor did p sors).toNat < 4 := by
  induction sors with
  | nil => exact absurd rfl found
  | cons i rest ih =>
      rw [findSor] at found ⊢
      split
      · have small := few i List.mem_cons_self
        rw [UInt32.toNat_ofNat']
        omega
      · rename_i miss
        rw [if_neg miss] at found
        exact ih (fun j later => few j (List.mem_cons_of_mem i later)) found

/-- The SOR kept for the modeset was assigned to its display. -/
def Assigned (past : Past) (hdisp did sor : UInt32) : Prop :=
  sor ≠ noSor → Known (AssignsSor hdisp did sor) past ∧ sor.toNat < 4

theorem assign_meets {did sor : UInt32} {b : Nat} (chained : Chained given past c)
    (disp : Granted past hdisp) (assigned : Assigned past hdisp did sor) (upto : Upto n past) :
    Meets (May given) (assignOne c hdisp conn did sor b) past fun sor later =>
      Upto n later ∧ Assigned later hdisp did sor := by
  apply meets_ite
  · intro _
    exact meets_pure ⟨upto, assigned⟩
  · intro _
    apply meets_then (typed_upto (show plain 0x731152 = true by decide) chained.client disp upto)
    rintro answer later grown ⟨upto, answered⟩
    refine meets_pure ⟨upto, ?_⟩
    split
    · rename_i ours
      obtain ⟨same, ok, found⟩ := ours
      intro _
      refine ⟨accepted_mono (answered ok) ?_, ?_⟩
      · rintro sent back ⟨params, value⟩
        rw [params, value, ← same]
        exact ⟨ld32_st32 .., rfl⟩
      · obtain ⟨⟨call, a⟩, _, holds⟩ := answered ok
        cases call with
        | control =>
            obtain ⟨_, _, _, _, _, value⟩ := holds
            rw [value] at found ⊢
            exact findSor_small _ _ (fun i => List.mem_range.mp) found
        | _ => cases holds
    · exact fun kept => ⟨known_grows (assigned kept).1 grown, (assigned kept).2⟩

theorem sors_meets {did : UInt32} (chained : Chained given past c) (disp : Granted past hdisp)
    (upto : Upto n past) :
    Meets (May given) (assignSors c hdisp conn did) past fun sor later =>
      Upto n later ∧ Assigned later hdisp did sor := by
  apply meets_foldlM fun sor later => Upto n later ∧ Assigned later hdisp did sor
  · exact ⟨upto, fun none_ => absurd rfl none_⟩
  · rintro sor b later grown ⟨upto, assigned⟩
    exact assign_meets (chained_grows chained grown) (granted_grows disp grown) assigned upto

/-! The instance memory and the pushbuffers. -/

theorem inst_fields (instPhys instSize : UInt64) :
    memdesc (writeInstMemParams instPhys instSize) 0 = (instPhys.toNat, instSize.toNat) := by
  simp (disch := decide) only [writeInstMemParams, memdesc, Nat.reduceAdd, ld64_st32_apart,
    ld64_st64_apart, ld64_st64]

theorem pushbuffer_fields (hclass channelInstance : UInt32) (pbPhys pbLimit : UInt64) :
    let p := pushbufferParams hclass channelInstance pbPhys pbLimit
    ld64 p 8 = pbPhys ∧ ld64 p 16 = pbLimit := by
  simp (disch := decide) only [pushbufferParams, ld64_put_apart, ld64_st32_apart, ld64_st64_apart,
    ld64_st64, and_self]

section Internal

variable {p : Mem} {paramsLen : UInt32} {base size : Nat}

theorem inst_may (chained : Chained given past c) (zeroed : Zeroed (base, size) past)
    (fields : memdesc p 0 = (base, size)) :
    May given past (.control c.si.hClient c.si.hSubdevice nv2080DisplayWriteInstMem (some p)
      paramsLen) := by
  refine ⟨internal_names (by decide) (reported_of_informs chained.info),
    ⟨?_, fun some_ => absurd rfl some_, nofun⟩, nofun⟩
  intro area member
  have here : area = memdesc p 0 := List.mem_singleton.mp member
  rw [here, fields]
  exact zeroed

theorem pushbuffer_may (chained : Chained given past c) (zeroed : Zeroed (base, size) past)
    (fields : (ld64 p 8).toNat = base ∧ (ld64 p 16).toNat + 1 = size) :
    May given past (.control c.si.hClient c.si.hSubdevice nv2080DisplayChannelPushbuffer (some p)
      paramsLen) := by
  refine ⟨internal_names (by decide) (reported_of_informs chained.info),
    ⟨?_, fun some_ => absurd rfl some_, nofun⟩, nofun⟩
  intro area member
  have here : area = ((ld64 p 8).toNat, (ld64 p 16).toNat + 1) := List.mem_singleton.mp member
  rw [here, fields.1, fields.2]
  exact zeroed

end Internal

theorem pushbuffer_meets {hclass : UInt32} {pb : UInt64} (chained : Chained given past c)
    (zeroed : Zeroed (pb.toNat, BringupVram.nvDispPbSize.toUInt32.toNat) past)
    (upto : Upto n past) :
    Meets (May given) (nvGspDispChannelPushbuffer c.si.hClient c.si.hSubdevice hclass 0 pb
      (BringupVram.nvDispPbSize - 1)) past fun _ later => Upto n later := by
  have fields := pushbuffer_fields hclass 0 pb (BringupVram.nvDispPbSize - 1)
  have size : (BringupVram.nvDispPbSize - 1).toNat + 1 =
      BringupVram.nvDispPbSize.toUInt32.toNat := by decide
  apply meets_mono (command_upto (pushbuffer_may chained zeroed
    ⟨congrArg UInt64.toNat fields.1, by rw [fields.2, size]⟩) upto)
  exact fun _ _ _ now => now.1

/-! The modeset. -/

/-- What was published is what the hardware was given with the modeset and then showed. -/
def Shows (scan : Scan) (m : DisplayModeset.Modeset) : Exchange Answer → Prop
  | ⟨.modeset given, driven⟩ =>
      given = m ∧ driven.cdone = true ∧ scan.ok = (driven.hwScanning && driven.hwOrActive) ∧
        scan.geometry = ⟨m.fb2, m.mt.hact, m.mt.vact, m.mt.hact * 4, m.fbTarget⟩
  | _ => False

/-- The scanout of a modeset, with the EDID block of the display that has its SOR. -/
def Published (past : Past) (scan : Scan) : Prop :=
  ∃ m hdisp did, Known (Shows scan m) past ∧ Known (AssignsSor hdisp did m.mdSor) past ∧
    Known (Describes hdisp did scan.edid) past ∧
    GspDisp.nvEdidParseDtd scan.edid 128 = some m.mt

theorem parse_front {e e' : Mem} (same : ∀ i < 128, e i = e' i) :
    GspDisp.nvEdidParseDtd e 256 = GspDisp.nvEdidParseDtd e' 128 := by
  have front : ∀ i < 74, e (54 + i) = e' (54 + i) := fun i below => same (54 + i) (by omega)
  have large : ¬ (256 : UInt32) < 128 := by decide
  have whole : ¬ (128 : UInt32) < 128 := by decide
  rw [GspDisp.nvEdidParseDtd, GspDisp.nvEdidParseDtd, if_neg large, if_neg whole]
  simp only [front _ (by decide : 0 < 74), front _ (by decide : 1 < 74),
    front _ (by decide : 2 < 74), front _ (by decide : 3 < 74), front _ (by decide : 4 < 74),
    front _ (by decide : 5 < 74), front _ (by decide : 6 < 74), front _ (by decide : 7 < 74),
    front _ (by decide : 8 < 74), front _ (by decide : 9 < 74), front _ (by decide : 10 < 74),
    front _ (by decide : 11 < 74), front _ (by decide : 17 < 74)]

/-- Where `surface` puts the pixels, if it does not refuse. -/
def Laid (given : Given) (past : Past) (w h pit : UInt32) (fb : Surface) : Prop :=
  (given.provides = false → fb.fb2 = 0x14000000 ∧ fb.fbTarget = GspDisp.ctxdmaTargetVram) ∧
    (given.provides = true → fb.frc = 0 → Known (Provides w h pit fb.fb2 fb.fbTarget) past)

theorem surface_meets {w h pit : UInt32} :
    Meets (May given) (surface given w h pit) past fun fb later => Laid given later w h pit fb := by
  apply meets_ite
  · intro provides
    apply meets_bind
    apply meets_ask (silent_may rfl)
    rintro ⟨frc, fb2, fbTarget⟩
    refine meets_pure ⟨fun own => ?_, fun _ zero => ?_⟩
    · rw [provides] at own
      cases own
    · have zero : frc = 0 := zero
      rw [zero]
      exact known_here ⟨rfl, rfl, rfl, rfl⟩
  · intro own
    exact meets_pure ⟨fun _ => ⟨rfl, rfl⟩, fun provides => absurd provides own⟩

/-- What the modeset of the chosen display rests on. -/
structure Ready (given : Given) (past : Past) (c : Chain) (hdisp : UInt32) (chosen : Chosen)
    (mdSor : UInt32) (mt : GspDisp.NvEdidTiming) : Prop where
  chained : Chained given past c
  disp : Granted past hdisp
  wanted : given.skips = false
  core : Granted past 0xc77d0000
  window : Granted past 0xc67e0000
  present : Known (Connects hdisp chosen.mdDid) past
  protocol : Known (Speaks hdisp chosen.mdDid chosen.mdProto) past
  timing : Known (Describes hdisp chosen.mdDid chosen.mdEdid) past ∧
    GspDisp.nvEdidParseDtd chosen.mdEdid 128 = some mt
  sor : Known (AssignsSor hdisp chosen.mdDid mdSor) past ∧ mdSor.toNat < 4

theorem ready_grows {mdSor : UInt32} {mt : GspDisp.NvEdidTiming}
    (ready : Ready given past c hdisp chosen mdSor mt) (grown : past <:+ later) :
    Ready given later c hdisp chosen mdSor mt where
  chained := chained_grows ready.chained grown
  disp := granted_grows ready.disp grown
  wanted := ready.wanted
  core := granted_grows ready.core grown
  window := granted_grows ready.window grown
  present := known_grows ready.present grown
  protocol := known_grows ready.protocol grown
  timing := ⟨known_grows ready.timing.1 grown, ready.timing.2⟩
  sor := ⟨known_grows ready.sor.1 grown, ready.sor.2⟩

theorem hdmi_meets {did : UInt32} (chained : Chained given past c) (disp : Granted past hdisp) :
    Meets (May given) (nvGspDispSetHdmiEnable c.hcli hdisp did true) past fun _ later =>
      Known (EnablesHdmi hdisp did) later := by
  apply command_meets (plain_may (by decide) chained.client disp)
  intro a
  refine known_here ⟨rfl, rfl, ?_, rfl⟩
  have word : ld32 (put (st32 zeros 4 did) 8 1) 4 = ld32 (st32 zeros 4 did) 4 :=
    ld32_congr fun i below => if_neg (by omega)
  exact word.trans (ld32_st32 ..)

theorem mode_meets {mdSor : UInt32} {mt : GspDisp.NvEdidTiming}
    (ready : Ready given past c hdisp chosen mdSor mt) :
    Meets (May given) (setMode given c hdisp chosen mdSor mt) past fun found later =>
      ∀ scan, found = some scan → Published later scan := by
  apply meets_then (hdmi_meets ready.chained ready.disp)
  rintro _ _ grown hdmi
  have ready := ready_grows ready grown
  apply meets_then surface_meets
  rintro fb now grown laid
  have ready := ready_grows ready grown
  have hdmi := known_grows hdmi grown
  apply meets_ite
  · rintro ⟨zero, some_⟩
    have backed : Backed given now { mt, mdSor, mdProto := chosen.mdProto, hcli := c.hcli
                                     fbp := fb.fbp, fb2 := fb.fb2, fbTarget := fb.fbTarget } :=
      ⟨ready.wanted, ready.core, ready.window, ⟨hdisp, chosen.mdDid, ready.disp, ready.present,
        ready.protocol, ⟨_, ready.timing⟩, ready.sor, hdmi⟩,
        ⟨laid.1, fun provides => ⟨some_, laid.2 provides zero⟩⟩⟩
    apply meets_bind
    apply meets_ask
    · refine ⟨⟨nofun, nofun, nofun⟩, ⟨nofun, fun some_ => absurd rfl some_, nofun⟩, ?_⟩
      intro other same
      cases same
      exact backed
    · intro driven
      have grown := List.suffix_cons (⟨_, driven⟩ : Exchange Answer) now
      apply meets_bind
      apply query_meets (plain_may (by decide) (granted_grows ready.chained.client grown)
        (granted_grows ready.disp grown))
      intro a
      refine meets_pure fun scan shown => ?_
      split at shown
      · rename_i done
        cases shown
        exact ⟨_, hdisp, chosen.mdDid, known_later (known_here ⟨rfl, done, rfl, rfl⟩),
          known_later (known_grows ready.sor.1 grown),
          known_later (known_grows ready.timing.1 grown), ready.timing.2⟩
      · cases shown
  · intro _
    exact meets_pure nofun

theorem pattern_meets (upto : Upto n past) :
    Meets (May given) (onlyIf given.fbp.isNone () testPattern) past fun _ later =>
      Upto n later := by
  apply onlyIf_meets
  · intro _
    apply meets_bind
    apply meets_ask (silent_may rfl)
    intro _
    apply meets_bind
    apply meets_ask (silent_may rfl)
    intro _
    apply meets_ask (silent_may rfl)
    exact fun _ => upto_same rfl (upto_same rfl (upto_same rfl upto))
  · exact fun _ => upto

theorem window_meets {hroot : UInt32} (chained : Chained given past c)
    (disp : Granted past hdisp) (core : Granted past 0xc77d0000) (root : Granted past hroot)
    (connects : ∀ did, conn &&& did ≠ 0 → Known (Connects hdisp did) past)
    (fair : Fair past hdisp conn chosen) (upto : Upto 10 past) :
    Meets (May given) (windowAndMode given c hdisp conn hroot chosen) past fun found later =>
      ∀ scan, found = some scan → Published later scan := by
  have place : order ((ga102DispWindowChannelDma <<< 16) ||| 0) = 10 := by decide
  apply meets_then (sors_meets chained disp upto)
  rintro mdSor _ one ⟨upto, assigned⟩
  apply meets_then (fill_meets upto)
  rintro _ _ two ⟨upto, zeroed, _⟩
  apply meets_then (pushbuffer_meets (chained_grows chained (one.trans two)) zeroed upto)
  rintro _ _ three upto
  have before := (one.trans two).trans three
  apply meets_then (bare_meets (by decide) upto place (granted_grows chained.client before)
    (granted_grows root before))
  rintro window _ four ⟨upto, got⟩
  apply meets_then (pattern_meets upto)
  rintro _ later five upto
  have since := ((two.trans three).trans four).trans five
  have grown := one.trans since
  apply meets_ite
  · intro _
    exact meets_pure nofun
  · intro wanted
    apply meets_ite
    · intro ok
      simp only [Bool.and_eq_true, bne_iff_ne] at ok
      obtain ⟨⟨ok, edidOk⟩, found⟩ := ok
      have candidate := fair_grows fair grown edidOk
      obtain ⟨sor, small⟩ := assigned found
      split
      · rename_i mt parsed
        refine mode_meets ⟨chained_grows chained grown, granted_grows disp grown,
          Bool.eq_false_of_not_eq_true wanted, granted_grows core grown,
          granted_grows (got ok).2 five, known_grows (connects _ candidate.connected) grown,
          candidate.protocol, ⟨candidate.described, ?_⟩, known_grows sor since,
          small⟩
        rw [← parse_front fun _ _ => rfl]
        exact parsed
      · exact meets_pure nofun
    · intro _
      exact meets_pure nofun

theorem channels_meets (chained : Chained given past c) (disp : Granted past hdisp)
    (connects : ∀ did, conn &&& did ≠ 0 → Known (Connects hdisp did) past)
    (fair : Fair past hdisp conn chosen) (upto : Upto 8 past) :
    Meets (May given) (displayChannels given c hdisp conn chosen) past fun found later =>
      ∀ scan, found = some scan → Published later scan := by
  have rootPlace : order (ad102Disp <<< 16) = 8 := by decide
  have corePlace : order ((ad102DispCoreChannelDma <<< 16) ||| 0) = 9 := by decide
  apply meets_then (fill_meets upto)
  rintro _ _ one ⟨upto, zeroed, _⟩
  apply meets_then (command_upto (inst_may (chained_grows chained one) zeroed (inst_fields ..))
    upto)
  rintro _ _ two ⟨upto, _⟩
  have grown := one.trans two
  apply meets_then (bare_meets (by decide) upto rootPlace (granted_grows chained.client grown)
    (granted_grows chained.device grown))
  rintro root told three ⟨upto, got⟩
  have grown := grown.trans three
  apply meets_ite
  · intro ok
    have root_granted : Granted told root.handle := by
      rw [(got ok).1]
      exact (got ok).2
    apply meets_then (fill_meets upto)
    rintro _ _ four ⟨upto, zeroed, _⟩
    apply meets_then (pushbuffer_meets (chained_grows chained (grown.trans four)) zeroed upto)
    rintro _ _ five upto
    have since := four.trans five
    apply meets_then (bare_meets (by decide) upto corePlace
      (granted_grows chained.client (grown.trans since)) (granted_grows root_granted since))
    rintro core _ six ⟨upto, gotCore⟩
    have since := since.trans six
    have grown := grown.trans since
    apply meets_ite
    · intro okCore
      exact window_meets (chained_grows chained grown) (granted_grows disp grown)
        (gotCore okCore).2 (granted_grows root_granted since)
        (fun did shown => known_grows (connects did shown) grown) (fair_grows fair grown) upto
    · intro _
      exact meets_pure nofun
  · intro _
    exact meets_pure nofun

theorem display_meets (chained : Chained given past c) (upto : Upto 7 past) :
    Meets (May given) (display given c) past fun found later =>
      ∀ scan, found = some scan → Published later scan := by
  apply meets_then (enumerate_meets chained upto)
  rintro found _ one ⟨upto, disp⟩
  apply meets_ite
  · intro ok
    have disp := disp ok
    apply meets_then (connect_meets (chained_grows chained one) disp upto)
    rintro conn _ two ⟨upto, connects⟩
    have grown := one.trans two
    apply meets_then (connectors_meets (chained_grows chained grown) (granted_grows disp two) upto)
    rintro chosen _ three ⟨upto, fair⟩
    exact channels_meets (chained_grows chained (grown.trans three))
      (granted_grows disp (two.trans three))
      (fun did shown => known_grows (connects did shown) three) fair upto
  · intro _
    exact meets_pure nofun

/-! A whole bring-up. -/

/-- What layers 3 to 5 leave behind for the platform. -/
structure Delivers (given : Given) (past : Past) (out : Outcome) : Prop where
  gpu : ∀ gpu, out.gpu = some gpu → gpu.ok = true → Handed given past gpu
  scan : ∀ scan, out.scan = some scan → Published past scan

theorem handed_grows {gpu : Context} (handed : Handed given past gpu) (grown : past <:+ later) :
    Handed given later gpu := by
  obtain ⟨wired, working, pooled⟩ := handed
  obtain ⟨t, va, phys, mapped⟩ := wired.mapped
  obtain ⟨hsub, engine, listed, same⟩ := wired.engine
  refine ⟨⟨granted_grows wired.client grown, granted_grows wired.device grown,
      granted_grows wired.vaspace grown, ⟨t, va, phys, mapped_grows mapped grown⟩,
      ⟨hsub, engine, known_grows listed grown, same⟩, known_grows wired.channel grown,
      known_grows wired.scheduled grown⟩,
    ⟨known_grows working.object grown, known_grows working.classId grown, working.some_class,
      known_grows working.executed grown, fun large => known_grows (working.alive large) grown⟩,
    ⟨pooled.external, fun options external => ?_, fun none_ => ?_, fun external =>
      ⟨known_grows (pooled.probed external).1 grown, known_grows (pooled.probed external).2 grown⟩⟩⟩
  · obtain ⟨si, m, info, planned⟩ := pooled.planned options external
    exact ⟨si, m, known_grows info grown, planned⟩
  · obtain ⟨si, info, rest⟩ := pooled.own none_
    exact ⟨si, known_grows info grown, rest⟩

theorem layers_meets (given : Given) :
    Meets (May given) (layers given) [] fun out later => Delivers given later out := by
  apply meets_then static_meets
  rintro si _ _ ⟨info, upto⟩
  apply meets_then (chain_meets info upto)
  rintro c _ _ ⟨upto, chained⟩
  apply meets_ite
  · intro ok
    have chained := chained ok
    apply meets_then (memory_meets chained upto)
    rintro gpu _ one ⟨upto, handed⟩
    apply meets_then (display_meets (chained_grows chained one) upto)
    rintro scan _ two shown
    exact meets_pure ⟨fun out here good => handed_grows (handed out here good) two, shown⟩
  · intro _
    exact meets_pure ⟨nofun, nofun⟩

end GspDriver.SessionDisplay
