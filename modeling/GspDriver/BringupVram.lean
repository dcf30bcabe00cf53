import GspDriver.GspDisp
import GspDriver.MemoryPlan

/-!
Video memory as `nv_gsp_bringup` uses it without an external address space. One
MiB comes from the first region with room for it, page tables and channel
buffers follow it unchecked, and the display's memory lies at fixed places.
-/

namespace GspDriver.BringupVram

open Words GspDisp GspMemory MemoryPlan

def vsize : UInt64 := 0x100000

/-- 256 MiB into the region, else its start, where one MiB fits there. -/
def tryRegion (r : NvGspFbRegion) : Option UInt64 :=
  if r.reserved ≠ 0 ∨ r.prot ≠ 0 then none
  else
    let base := (r.base + 0xfffff) &&& ~~~0xfffff
    let cand := base + 0x10000000
    if cand + vsize - 1 ≤ r.limit then some cand
    else if base + vsize - 1 ≤ r.limit then some base
    else none

/-- The regions from number `i` on, `left` of them. -/
def searchRegions (si : NvGspStaticInfo) : Nat → Nat → Option UInt64
  | 0, _ => none
  | left + 1, i =>
      match tryRegion (si.regions i) with
      | some vphys => some vphys
      | none => searchRegions si left (i + 1)

def chooseVram (si : NvGspStaticInfo) : Option UInt64 := searchRegions si si.numRegions.toNat 0

structure Area where
  base : UInt64
  size : UInt64

/-- The memory object, the five tables and the channel's buffers. -/
def memoryAreas (vphys : UInt64) : List Area :=
  let ptBase := (vphys + vsize + 0xfff) &&& ~~~0xfff
  let bufBase := ptBase + 0x10000
  [⟨vphys, vsize⟩, ⟨ptBase, 0x1000⟩, ⟨ptBase + 0x1000, 0x1000⟩, ⟨ptBase + 0x2000, 0x1000⟩,
    ⟨ptBase + 0x3000, 0x1000⟩, ⟨ptBase + 0x4000, 0x1000⟩, ⟨bufBase, 0x1000⟩,
    ⟨bufBase + 0x1000, 0x200⟩, ⟨bufBase + 0x2000, 0x5000⟩]

def dispInst : UInt64 := 0x13400000
def corePb : UInt64 := 0x13410000
def winPb : UInt64 := 0x13412000
def fbPhys : UInt64 := 0x14000000
def nvDispInstSize : UInt64 := 0x10000
def nvDispPbSize : UInt64 := 0x1000

/-- The display's instance block and the pushbuffers of its core and window channels. -/
def displayAreas : List Area :=
  [⟨dispInst, nvDispInstSize⟩, ⟨corePb, nvDispPbSize⟩, ⟨winPb, nvDispPbSize⟩]

def frameBytes (w h : UInt32) : UInt64 := (w * 4).toUInt64 * h.toUInt64

/-- Without a provider a test pattern is drawn, and then the picture of the mode
that an EDID was read for, at one place. -/
def framebuffer (provider : Bool) (mode : Option NvEdidTiming) : List Area :=
  if provider then []
  else
    let pattern := frameBytes 1920 1080
    match mode with
    | none => [⟨fbPhys, pattern⟩]
    | some t =>
        let frame := frameBytes t.hact t.vact
        [⟨fbPhys, if pattern ≤ frame then frame else pattern⟩]

/-- Without room for the memory object the source logs that and goes on to the
display, whose places are fixed. -/
def areas (si : NvGspStaticInfo) (provider : Bool) (mode : Option NvEdidTiming) : List Area :=
  (chooseVram si).elim [] memoryAreas ++ displayAreas ++ framebuffer provider mode

/-! What the layout should be. -/

/-- The first and the last byte. -/
abbrev Span := Nat × Nat

def Area.span (a : Area) : Span := (a.base.toNat, a.base.toNat + a.size.toNat - 1)

def Apart (a b : Span) : Prop := a.2 < b.1 ∨ b.2 < a.1

/-- A region that is neither reserved nor protected holds the bytes. -/
def Covers (si : NvGspStaticInfo) (span : Span) : Prop :=
  ∃ i < si.numRegions.toNat, Usable (si.regions i) ∧ (si.regions i).base.toNat ≤ span.1 ∧
    span.2 ≤ (si.regions i).limit.toNat

structure LaidOut (si : NvGspStaticInfo) (spans : List Span) : Prop where
  apart : spans.Pairwise Apart
  covered : ∀ span ∈ spans, Covers si span

/-! The first region with room, in whole MiB. -/

def rounded (r : NvGspFbRegion) : Nat := (r.base.toNat + 0xfffff) / 2 ^ 20 * 2 ^ 20 % 2 ^ 64

def deep (r : NvGspFbRegion) : Nat := (rounded r + 2 ^ 28) % 2 ^ 64

def HasRoom (r : NvGspFbRegion) (place : Nat) : Prop := place + 0xfffff ≤ r.limit.toNat

def Takes (r : NvGspFbRegion) (place : Nat) : Prop :=
  Usable r ∧ (HasRoom r (deep r) ∧ place = deep r ∨
    ¬ HasRoom r (deep r) ∧ HasRoom r (rounded r) ∧ place = rounded r)

def FirstFit (si : NvGspStaticInfo) (place : Nat) : Prop :=
  ∃ i < si.numRegions.toNat, Takes (si.regions i) place ∧
    ∀ j < i, ∀ other, ¬ Takes (si.regions j) other

/-- The bytes from `place + off` on, at addresses of 64 bits. -/
def behind (place off bytes : Nat) : Span :=
  ((place + off) % 2 ^ 64, (place + off) % 2 ^ 64 + bytes - 1)

/-- The regions of a map that suit the fixed places. -/
structure SuitsDisplay (si : NvGspStaticInfo) (fb : Option Nat) : Prop where
  display : Covers si (0x13400000, 0x1340ffff) ∧ Covers si (0x13410000, 0x13410fff) ∧
    Covers si (0x13412000, 0x13412fff)
  picture : ∀ bytes, fb = some bytes → Covers si (0x14000000, 0x14000000 + bytes - 1)

/-- The regions that suit a place and what follows it, and a place that keeps away
from the fixed ones. -/
structure Suits (si : NvGspStaticInfo) (fb : Option Nat) (place : Nat) : Prop where
  memory : Covers si (place, place + 0xfffff)
  tables : ∀ level < 5, Covers si (behind place (0x100000 + level * 0x1000) 0x1000)
  instance_block : Covers si (behind place 0x110000 0x1000)
  userd : Covers si (behind place 0x111000 0x200)
  method_buffer : Covers si (behind place 0x112000 0x5000)
  off_display : place ≠ 0x13300000 ∧ place ≠ 0x13400000
  off_picture : ∀ bytes, fb = some bytes → place < 0x13f00000 ∨ 0x14000000 + bytes ≤ place

def pictureBytes (provider : Bool) (mode : Option NvEdidTiming) : Option Nat :=
  if provider then none
  else some (max 8294400 (mode.elim 0 fun t => (frameBytes t.hact t.vact).toNat))

/-! The search takes the first region that does. -/

theorem round_toNat (x : UInt64) :
    ((x + 0xfffff) &&& ~~~0xfffff).toNat = (x.toNat + 0xfffff) / 2 ^ 20 * 2 ^ 20 % 2 ^ 64 := by
  have mask : (0xfffff : UInt64).toNat = 2 ^ 20 - 1 := by decide
  rw [and_not_mask_toNat _ mask, UInt64.toNat_add, mask]
  omega

theorem rounded_aligned (r : NvGspFbRegion) : 2 ^ 20 ∣ rounded r ∧ 2 ^ 20 ∣ deep r := by
  simp only [rounded, deep]
  omega

theorem room_iff {r : NvGspFbRegion} {x : UInt64} (aligned : 2 ^ 20 ∣ x.toNat) :
    x + vsize - 1 ≤ r.limit ↔ HasRoom r x.toNat := by
  have size : vsize.toNat = 2 ^ 20 := by decide
  have one : (1 : UInt64).toNat = 1 := rfl
  have bound := x.toNat_lt
  have last : (x + vsize - 1).toNat = x.toNat + 0xfffff := by
    rw [UInt64.toNat_sub, UInt64.toNat_add, size, one]
    omega
  rw [HasRoom, UInt64.le_iff_toNat_le, last]

theorem tryRegion_iff (r : NvGspFbRegion) (vphys : UInt64) :
    tryRegion r = some vphys ↔ Takes r vphys.toNat := by
  have base : ((r.base + 0xfffff) &&& ~~~0xfffff).toNat = rounded r := round_toNat r.base
  have step : (0x10000000 : UInt64).toNat = 2 ^ 28 := by decide
  simp only [tryRegion, Takes]
  generalize (r.base + 0xfffff) &&& ~~~0xfffff = start at base ⊢
  have cand : (start + 0x10000000).toNat = deep r := by
    rw [UInt64.toNat_add, base, step, deep]
  obtain ⟨shallowAligned, deepAligned⟩ := rounded_aligned r
  have farIff := room_iff (r := r) (x := start + 0x10000000) (by rw [cand]; exact deepAligned)
  have nearIff := room_iff (r := r) (x := start) (by rw [base]; exact shallowAligned)
  rw [cand] at farIff
  rw [base] at nearIff
  generalize start + 0x10000000 = far at cand farIff ⊢
  by_cases usable : r.reserved ≠ 0 ∨ r.prot ≠ 0
  · have unusable : ¬ Usable r := fun fine => (usable_iff r).mpr fine usable
    rw [if_pos usable]
    exact iff_of_false (fun same => nomatch same) (fun takes => unusable takes.1)
  · have fine := (usable_iff r).mp usable
    rw [if_neg usable]
    -- The deep place comes first, and the region's start only where that has no room.
    by_cases room : HasRoom r (deep r)
    · rw [if_pos (farIff.mpr room)]
      constructor
      · intro same
        cases same
        exact ⟨fine, .inl ⟨room, cand⟩⟩
      · rintro ⟨_, ⟨_, place⟩ | ⟨near, _⟩⟩
        · rw [← cand] at place
          rw [UInt64.toNat_inj.mp place]
        · exact absurd room near
    · rw [if_neg (farIff.not.mpr room)]
      by_cases near : HasRoom r (rounded r)
      · rw [if_pos (nearIff.mpr near)]
        constructor
        · intro same
          cases same
          exact ⟨fine, .inr ⟨room, near, base⟩⟩
        · rintro ⟨_, ⟨deeper, _⟩ | ⟨_, _, place⟩⟩
          · exact absurd deeper room
          · rw [← base] at place
            rw [UInt64.toNat_inj.mp place]
      · rw [if_neg (nearIff.not.mpr near)]
        refine iff_of_false (fun same => nomatch same) ?_
        rintro ⟨_, ⟨deeper, _⟩ | ⟨_, shallow, _⟩⟩
        · exact room deeper
        · exact near shallow

theorem rounded_lt (r : NvGspFbRegion) : rounded r < 2 ^ 64 := by
  rw [rounded]
  exact Nat.mod_lt _ (Nat.two_pow_pos 64)

theorem deep_lt (r : NvGspFbRegion) : deep r < 2 ^ 64 := by
  rw [deep]
  exact Nat.mod_lt _ (Nat.two_pow_pos 64)

theorem takes_small {r : NvGspFbRegion} {place : Nat} (takes : Takes r place) :
    2 ^ 20 ∣ place ∧ place < 2 ^ 64 := by
  obtain ⟨shallowAligned, deepAligned⟩ := rounded_aligned r
  rcases takes.2 with ⟨_, same⟩ | ⟨_, _, same⟩
  · rw [same]
    exact ⟨deepAligned, deep_lt r⟩
  · rw [same]
    exact ⟨shallowAligned, rounded_lt r⟩

theorem search_iff {si : NvGspStaticInfo} (left i : Nat) (vphys : UInt64) :
    searchRegions si left i = some vphys ↔
      ∃ k, i ≤ k ∧ k < i + left ∧ Takes (si.regions k) vphys.toNat ∧
        ∀ j, i ≤ j → j < k → ∀ other, ¬ Takes (si.regions j) other := by
  induction left generalizing i with
  | zero => exact iff_of_false (fun same => nomatch same) (fun ⟨_, _, _, _⟩ => by omega)
  | succ left ih =>
      rw [searchRegions]
      cases tried : tryRegion (si.regions i) with
      | some first =>
          have takes := (tryRegion_iff _ _).mp tried
          constructor
          · intro same
            cases same
            exact ⟨i, Nat.le_refl i, by omega, takes, fun j above below => by omega⟩
          · rintro ⟨k, above, _, taken, passed⟩
            -- A later region is not reached past one that takes the object.
            have here : k = i := by
              by_contra later
              exact passed i (Nat.le_refl i) (by omega) _ takes
            rw [here] at taken
            have same := (tryRegion_iff _ _).mpr taken
            rw [tried] at same
            exact same
      | none =>
          have refuses : ∀ other, ¬ Takes (si.regions i) other := by
            intro other takes
            have word := ofNat_toNat (takes_small takes).2
            have same := (tryRegion_iff (si.regions i) (UInt64.ofNat other)).mpr (by rwa [word])
            rw [tried] at same
            cases same
          simp only [ih]
          constructor
          · rintro ⟨k, above, below, taken, passed⟩
            refine ⟨k, by omega, by omega, taken, fun j from_i below => ?_⟩
            by_cases here : j = i
            · rw [here]
              exact refuses
            · exact passed j (by omega) below
          · rintro ⟨k, above, below, taken, passed⟩
            have later : k ≠ i := fun here => refuses _ (here ▸ taken)
            exact ⟨k, by omega, by omega, taken, fun j above below => passed j (by omega) below⟩

theorem choose_iff (si : NvGspStaticInfo) (vphys : UInt64) :
    chooseVram si = some vphys ↔ FirstFit si vphys.toNat := by
  rw [chooseVram, search_iff, FirstFit]
  constructor
  · rintro ⟨k, _, below, taken, passed⟩
    exact ⟨k, by omega, taken, fun j => passed j (Nat.zero_le j)⟩
  · rintro ⟨k, below, taken, passed⟩
    exact ⟨k, Nat.zero_le k, by omega, taken, fun j _ => passed j⟩

theorem chosen_of_first {si : NvGspStaticInfo} {place : Nat} (first : FirstFit si place) :
    chooseVram si = some (UInt64.ofNat place) ∧ (UInt64.ofNat place).toNat = place := by
  obtain ⟨_, _, takes, _⟩ := id first
  have word := ofNat_toNat (takes_small takes).2
  refine ⟨(choose_iff si _).mpr ?_, word⟩
  rw [word]
  exact first

/-! The spans, as numbers. -/

section Spans

variable {vphys : UInt64} (aligned : 2 ^ 20 ∣ vphys.toNat)
include aligned

theorem memory_spans : (memoryAreas vphys).map Area.span =
    [(vphys.toNat, vphys.toNat + 0xfffff), behind vphys.toNat 0x100000 0x1000,
      behind vphys.toNat 0x101000 0x1000, behind vphys.toNat 0x102000 0x1000,
      behind vphys.toNat 0x103000 0x1000, behind vphys.toNat 0x104000 0x1000,
      behind vphys.toNat 0x110000 0x1000, behind vphys.toNat 0x111000 0x200,
      behind vphys.toNat 0x112000 0x5000] := by
  have mask : (0xfff : UInt64).toNat = 2 ^ 12 - 1 := by decide
  have size : vsize.toNat = 0x100000 := by decide
  have bound := vphys.toNat_lt
  have tables : ((vphys + vsize + 0xfff) &&& ~~~0xfff).toNat =
      (vphys.toNat + 0x100000) % 2 ^ 64 := by
    rw [and_not_mask_toNat _ mask, UInt64.toNat_add, UInt64.toNat_add, mask, size]
    omega
  simp only [memoryAreas, List.map_cons, List.map_nil, Area.span]
  generalize (vphys + vsize + 0xfff) &&& ~~~0xfff = ptBase at tables ⊢
  have table : ∀ off : UInt64, (ptBase + off).toNat =
      (vphys.toNat + (0x100000 + off.toNat)) % 2 ^ 64 := by
    intro off
    rw [UInt64.toNat_add, tables, Nat.mod_add_mod, Nat.add_assoc]
  have buffer : ∀ off : UInt64, (ptBase + 0x10000 + off).toNat =
      (vphys.toNat + (0x110000 + off.toNat)) % 2 ^ 64 := by
    intro off
    rw [UInt64.toNat_add, table, Nat.mod_add_mod, Nat.add_assoc]
    rfl
  have last : vphys.toNat + 0x100000 - 1 = vphys.toNat + 0xfffff := by omega
  rw [buffer, buffer, table, table, table, table, table, tables, size, last]
  rfl

end Spans

theorem display_spans : displayAreas.map Area.span =
    [(0x13400000, 0x1340ffff), (0x13410000, 0x13410fff), (0x13412000, 0x13412fff)] := by
  decide

def pictureSpans (fb : Option Nat) : List Span :=
  (fb.map fun bytes => (0x14000000, 0x14000000 + bytes - 1)).toList

theorem framebuffer_spans (provider : Bool) (mode : Option NvEdidTiming) :
    (framebuffer provider mode).map Area.span = pictureSpans (pictureBytes provider mode) := by
  have pattern : (frameBytes 1920 1080).toNat = 8294400 := by decide
  have place : fbPhys.toNat = 0x14000000 := by decide
  cases provider with
  | true => rfl
  | false =>
      cases mode with
      | none => decide
      | some t =>
          simp only [framebuffer, pictureBytes, pictureSpans, Bool.false_eq_true, if_false,
            Option.elim, Option.map_some, Option.toList_some, List.map_cons, List.map_nil,
            Area.span, place]
          generalize frameBytes 1920 1080 = least at pattern ⊢
          generalize frameBytes t.hact t.vact = frame
          by_cases larger : least ≤ frame
          · have order := UInt64.le_iff_toNat_le.mp larger
            rw [if_pos larger, max_eq_right (by omega)]
          · have order := UInt64.le_iff_toNat_le.not.mp larger
            rw [if_neg larger, pattern, max_eq_left (by omega)]

/-! Where the spans meet. -/

/-- The address behind the memory object. -/
def next (place : Nat) : Nat := (place + 0x100000) % 2 ^ 64

section Meet

variable {place : Nat} (aligned : 2 ^ 20 ∣ place) (small : place < 2 ^ 64)
include aligned small

theorem next_cases : next place = place + 0x100000 ∨
    next place = 0 ∧ place + 0x100000 = 2 ^ 64 := by
  rw [next]
  omega

def spanAt (base off bytes : Nat) : Span := (base + off, base + off + bytes - 1)

omit small in
theorem behind_next (off : Nat) (near : off < 0x100000) (bytes : Nat) :
    behind place (0x100000 + off) bytes = spanAt (next place) off bytes := by
  have sum : (place + (0x100000 + off)) % 2 ^ 64 = next place + off := by
    rw [next]
    omega
  rw [behind, sum, spanAt]

/-- The spans behind the memory object. -/
def behindSpans (q : Nat) : List Span :=
  [spanAt q 0 0x1000, spanAt q 0x1000 0x1000, spanAt q 0x2000 0x1000, spanAt q 0x3000 0x1000,
    spanAt q 0x4000 0x1000, spanAt q 0x10000 0x1000, spanAt q 0x11000 0x200,
    spanAt q 0x12000 0x5000]

omit aligned small in
theorem behind_apart (q : Nat) : (behindSpans q).Pairwise Apart := by
  simp only [behindSpans, List.pairwise_cons, List.forall_mem_cons, Apart, spanAt,
    List.not_mem_nil, false_imp_iff, implies_true, and_true, List.Pairwise.nil]
  omega

omit aligned small in
/-- A span that keeps away from the 92 KiB from `q` on keeps away from all of them. -/
theorem apart_behind {q : Nat} {span : Span} (away : span.2 < q ∨ q + 0x16fff < span.1) :
    ∀ other ∈ behindSpans q, Apart span other := by
  simp only [behindSpans, List.forall_mem_cons, Apart, spanAt, List.not_mem_nil, false_imp_iff,
    implies_true, and_true]
  omega

theorem object_apart :
    ((place, place + 0xfffff) :: behindSpans (next place)).Pairwise Apart := by
  have order := next_cases aligned small
  rw [List.pairwise_cons]
  exact ⟨apart_behind (by simp only; omega), behind_apart _⟩

theorem display_apart :
    (∀ span ∈ (place, place + 0xfffff) :: behindSpans (next place), ∀ other ∈
      [((0x13400000, 0x1340ffff) : Span), (0x13410000, 0x13410fff), (0x13412000, 0x13412fff)],
        Apart span other) ↔ place ≠ 0x13300000 ∧ place ≠ 0x13400000 := by
  have order := next_cases aligned small
  simp only [List.forall_mem_cons, List.not_mem_nil, false_imp_iff, implies_true, and_true, Apart,
    behindSpans, spanAt]
  omega

theorem picture_apart {bytes : Nat} (some : 1 ≤ bytes) :
    (∀ span ∈ (place, place + 0xfffff) :: behindSpans (next place),
      Apart span (0x14000000, 0x14000000 + bytes - 1)) ↔
      place < 0x13f00000 ∨ 0x14000000 + bytes ≤ place := by
  have order := next_cases aligned small
  simp only [List.forall_mem_cons, List.not_mem_nil, false_imp_iff, implies_true, and_true, Apart,
    behindSpans, spanAt]
  omega

omit small in
/-- The spans of the memory object and of what follows it, from one place on. -/
theorem object_spans {vphys : UInt64} (here : vphys.toNat = place) :
    (memoryAreas vphys).map Area.span = (place, place + 0xfffff) :: behindSpans (next place) := by
  rw [memory_spans (by rw [here]; exact aligned), here, behindSpans,
    ← behind_next aligned 0 (by decide), ← behind_next aligned 0x1000 (by decide),
    ← behind_next aligned 0x2000 (by decide),
    ← behind_next aligned 0x3000 (by decide),
    ← behind_next aligned 0x4000 (by decide),
    ← behind_next aligned 0x10000 (by decide),
    ← behind_next aligned 0x11000 (by decide),
    ← behind_next aligned 0x12000 (by decide)]

end Meet

theorem picture_some (provider : Bool) (mode : Option NvEdidTiming) {bytes : Nat}
    (there : pictureBytes provider mode = some bytes) : 1 ≤ bytes := by
  cases provider with
  | true => cases there
  | false =>
      cases there
      exact le_trans (by decide) (le_max_left _ _)

theorem picture_member {fb : Option Nat} {span : Span} (there : span ∈ pictureSpans fb) :
    ∃ bytes, fb = some bytes ∧ span = (0x14000000, 0x14000000 + bytes - 1) := by
  cases fb with
  | none => cases there
  | some bytes => exact ⟨bytes, rfl, List.mem_singleton.mp there⟩

theorem picture_alone (fb : Option Nat) : (pictureSpans fb).Pairwise Apart := by
  cases fb with
  | none => exact List.Pairwise.nil
  | some bytes => exact List.pairwise_singleton Apart _

theorem fixed_apart : [((0x13400000, 0x1340ffff) : Span), (0x13410000, 0x13410fff),
    (0x13412000, 0x13412fff)].Pairwise Apart := by
  simp [Apart]

theorem fixed_below (bytes : Nat) : ∀ span ∈ [((0x13400000, 0x1340ffff) : Span),
    (0x13410000, 0x13410fff), (0x13412000, 0x13412fff)],
    Apart span (0x14000000, 0x14000000 + bytes - 1) := by
  simp [Apart]

/-- The fixed places, with or without a memory object. -/
theorem fixed_laid_out_iff (si : NvGspStaticInfo) (fb : Option Nat) :
    LaidOut si (displayAreas.map Area.span ++ pictureSpans fb) ↔ SuitsDisplay si fb := by
  rw [display_spans]
  constructor
  · rintro ⟨_, covered⟩
    simp only [List.forall_mem_append, List.forall_mem_cons] at covered
    obtain ⟨⟨inst, core, window, _⟩, picture⟩ := covered
    refine ⟨⟨inst, core, window⟩, fun bytes there => ?_⟩
    exact picture _ (by simp [pictureSpans, there])
  · intro suits
    constructor
    · refine List.pairwise_append.mpr ⟨fixed_apart, picture_alone fb, ?_⟩
      intro span member other there
      obtain ⟨bytes, _, rfl⟩ := picture_member there
      exact fixed_below bytes span member
    · simp only [List.forall_mem_append, List.forall_mem_cons]
      refine ⟨⟨suits.display.1, suits.display.2.1, suits.display.2.2, List.forall_mem_nil _⟩, ?_⟩
      intro span there
      obtain ⟨bytes, known, rfl⟩ := picture_member there
      exact suits.picture bytes known

theorem laid_append {si : NvGspStaticInfo} {first second : List Span} :
    LaidOut si (first ++ second) ↔
      LaidOut si first ∧ LaidOut si second ∧ ∀ a ∈ first, ∀ b ∈ second, Apart a b := by
  constructor
  · rintro ⟨apart, covered⟩
    obtain ⟨left, right, between⟩ := List.pairwise_append.mp apart
    obtain ⟨inLeft, inRight⟩ := List.forall_mem_append.mp covered
    exact ⟨⟨left, inLeft⟩, ⟨right, inRight⟩, between⟩
  · rintro ⟨⟨left, inLeft⟩, ⟨right, inRight⟩, between⟩
    exact ⟨List.pairwise_append.mpr ⟨left, right, between⟩,
      List.forall_mem_append.mpr ⟨inLeft, inRight⟩⟩

/-- From one place on, the memory object's part is sound exactly where the map suits it. -/
theorem object_laid_out_iff (si : NvGspStaticInfo) (provider : Bool) (mode : Option NvEdidTiming)
    {vphys : UInt64} (aligned : 2 ^ 20 ∣ vphys.toNat) :
    (LaidOut si ((memoryAreas vphys).map Area.span) ∧
      ∀ a ∈ (memoryAreas vphys).map Area.span, ∀ b ∈ displayAreas.map Area.span ++
        pictureSpans (pictureBytes provider mode), Apart a b) ↔
      Suits si (pictureBytes provider mode) vphys.toNat := by
  have small := vphys.toNat_lt
  have object := object_apart aligned small
  have display := display_apart aligned small
  have list := object_spans aligned rfl
  rw [display_spans]
  constructor
  -- What a sound layout says of each list of areas is a condition of its own.
  · rintro ⟨⟨_, memory⟩, away⟩
    rw [memory_spans aligned] at memory
    rw [list] at away
    simp only [List.forall_mem_cons] at memory
    obtain ⟨whole, pd3, pd2, pd1, pd0, spt, inst, userd, mthd, _⟩ := memory
    refine ⟨whole, ?_, inst, userd, mthd, ?_, ?_⟩
    · intro level below
      interval_cases level
      · exact pd3
      · exact pd2
      · exact pd1
      · exact pd0
      · exact spt
    · exact display.mp fun span member other there =>
        away span member other (List.mem_append_left _ there)
    · intro bytes there
      apply (picture_apart aligned small (picture_some provider mode there)).mp
      intro span member
      exact away span member _ (List.mem_append_right _ (by simp [pictureSpans, there]))
  · intro suits
    refine ⟨⟨?_, ?_⟩, ?_⟩
    · rw [list]
      exact object
    · have level := suits.tables
      rw [memory_spans aligned]
      simp only [List.forall_mem_cons]
      exact ⟨suits.memory, level 0 (by decide), level 1 (by decide), level 2 (by decide),
        level 3 (by decide), level 4 (by decide), suits.instance_block, suits.userd,
        suits.method_buffer, List.forall_mem_nil _⟩
    · rw [list]
      intro span member other there
      rcases List.mem_append.mp there with fixed | picture
      · exact display.mpr suits.off_display span member other fixed
      · obtain ⟨bytes, known, rfl⟩ := picture_member picture
        exact (picture_apart aligned small (picture_some provider mode known)).mpr
          (suits.off_picture bytes known) span member

/-- The layout is sound exactly when the map suits the fixed places, and the place
that its first region with room offers, if one has room. -/
theorem layout_sound_iff (si : NvGspStaticInfo) (provider : Bool) (mode : Option NvEdidTiming) :
    LaidOut si ((areas si provider mode).map Area.span) ↔
      SuitsDisplay si (pictureBytes provider mode) ∧
        ∀ place, FirstFit si place → Suits si (pictureBytes provider mode) place := by
  rw [areas, List.append_assoc, List.map_append, List.map_append, framebuffer_spans, laid_append,
    fixed_laid_out_iff]
  cases chosen : chooseVram si with
  | none =>
      have nowhere : ∀ place, ¬ FirstFit si place := by
        intro place first
        rw [(chosen_of_first first).1] at chosen
        cases chosen
      constructor
      · rintro ⟨_, fixed, _⟩
        exact ⟨fixed, fun place first => absurd first (nowhere place)⟩
      · rintro ⟨fixed, _⟩
        exact ⟨⟨List.Pairwise.nil, List.forall_mem_nil _⟩, fixed, List.forall_mem_nil _⟩
  | some vphys =>
      have first := (choose_iff si vphys).mp chosen
      obtain ⟨_, _, takes, _⟩ := id first
      have object := object_laid_out_iff si provider mode (takes_small takes).1
      constructor
      · rintro ⟨laid, fixed, away⟩
        refine ⟨fixed, fun place fits => ?_⟩
        obtain ⟨again, word⟩ := chosen_of_first fits
        rw [chosen, Option.some_inj] at again
        rw [← word, ← again]
        exact object.mp ⟨laid, away⟩
      · rintro ⟨fixed, suits⟩
        obtain ⟨laid, away⟩ := object.mpr (suits _ first)
        exact ⟨laid, fixed, away⟩

/-- One region that starts at 52 MiB. -/
def regionAt52 : NvGspStaticInfo := ⟨1, fun _ => ⟨0x3400000, 0x3ffffffff, 0, 0⟩⟩

/-- The memory object is put over the display's instance block. -/
theorem object_over_instance_block :
    chooseVram regionAt52 = some dispInst ∧
      ¬ LaidOut regionAt52 ((areas regionAt52 false none).map Area.span) := by
  have chosen : chooseVram regionAt52 = some dispInst := by decide
  refine ⟨chosen, fun laid => ?_⟩
  rw [areas, chosen, List.append_assoc, List.map_append, laid_append] at laid
  obtain ⟨_, _, away⟩ := laid
  have apart := away (Area.span ⟨dispInst, vsize⟩) (by simp [memoryAreas])
    (Area.span ⟨dispInst, nvDispInstSize⟩) (by simp [displayAreas])
  exact absurd apart (by unfold Apart; decide)

def reservedRegion : NvGspStaticInfo := ⟨1, fun _ => ⟨0, 0x3ffffffff, 1, 0⟩⟩

/-- With its only region reserved, nothing is chosen and the display's memory is laid
down in that region all the same. -/
theorem display_over_reserved :
    chooseVram reservedRegion = none ∧
      ¬ LaidOut reservedRegion ((areas reservedRegion false none).map Area.span) := by
  refine ⟨by decide, fun laid => ?_⟩
  obtain ⟨i, _, ⟨free, _⟩, _⟩ := laid.covered (Area.span ⟨dispInst, nvDispInstSize⟩)
    (by simp [areas, displayAreas])
  have reserved : (reservedRegion.regions i).reserved = 1 := rfl
  rw [reserved] at free
  exact absurd free (by decide)

end GspDriver.BringupVram
