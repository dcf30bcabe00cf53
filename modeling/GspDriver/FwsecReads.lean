import GspDriver.FwsecLocate

/-!
The locator again, with every read checked against the end of the buffer. A read
outside is a fault and ends the run, as nothing is known of what C does there.
Offsets are sums of a position inside the buffer and of 32-bit values, far below
the bound of `size_t`.
-/

namespace GspDriver.FwsecReads

open Bytes LittleEndian Checked FwsecLocate

inductive Stop where
  | fault
  | loc (err : LocErr)
  deriving DecidableEq

/-- A field of `n` bytes at `off`. -/
def read {Field : Type} (b : Blob) (off n : Nat) (field : Mem → Nat → Field) :
    Except Stop Field :=
  if off + n ≤ b.len then .ok (field b.bytes off) else .error .fault

def byteAt (m : Mem) (p : Nat) : UInt8 := m p

def imageSizeAndLast (b : Blob) (pcirOff : Nat) (codeType : UInt8) : Except Stop (Nat × Bool) := do
  let pcirLen ← read b (pcirOff + 0x0a) 2 ld16
  let imageBlk ← read b (pcirOff + 0x10) 2 ld16
  let pcirLast ← read b (pcirOff + 0x15) 1 byteAt
  let nbsi := codeType == codeTypeNbsi
  let whole := (imageBlk.toNat * 512, nbsi || pcirLast &&& 0x80 != 0)
  let npdeOff := (pcirOff + pcirLen.toNat + 0x0f) / 16 * 16
  if ¬ fits npdeOff 0x0b b.len then return whole
  else
    let named ← read b npdeOff 4 fun m p => spells m p npde
    if ¬ named then return whole
    else
      let subimg ← read b (npdeOff + 0x08) 2 ld16
      let npdeLast ← read b (npdeOff + 0x0a) 1 byteAt
      if subimg.toNat = 0 then return whole
      else return (subimg.toNat * 512, nbsi || npdeLast &&& 0x80 != 0)

def readImage (b : Blob) (off : Nat) : Except Stop (Option Image) := do
  let pcirPtr ← read b (off + 0x18) 2 ld16
  let pcirAt := off + pcirPtr.toNat
  if ¬ fits pcirAt 0x16 b.len then return none
  else
    let named ← read b pcirAt 4 fun m p => spells m p pcir || spells m p npds
    if ¬ named then return none
    else
      let codeType ← read b (pcirAt + 0x14) 1 byteAt
      let (size, last) ← imageSizeAndLast b pcirAt codeType
      return some { off, size, codeType, last }

def walkImages (b : Blob) : Nat → Nat → Except Stop (List Image)
  | 0, _ => .ok []
  | max + 1, off =>
      if ¬ fits off 0x1a b.len then .ok []
      else do
        let sig ← read b off 2 ld16
        if ¬ pciOrNv sig then return []
        else
          match ← readImage b off with
          | none => return []
          | some im =>
              if im.size = 0 ∨ im.last then return [im]
              else
                let rest ← walkImages b max ((off + im.size + 511) / 512 * 512)
                return im :: rest

def findBit (b : Blob) (img imgLen : Nat) : Except Stop (Option Nat) :=
  if imgLen < 6 then .ok none
  else (List.range (imgLen - 5)).findM? fun i => read b (img + i) 6 fun m p => spells m p bitSig

def scanTable (b : Blob) (base limit : Nat) (id : UInt8) (stride : Nat) :
    Nat → Nat → Except Stop (Option Nat)
  | 0, _ => .ok none
  | count + 1, e =>
      if ¬ fits e 6 limit then .ok none
      else do
        let tag ← read b (base + e) 1 byteAt
        if tag = id then return some e
        else scanTable b base limit id stride count (e + stride)

def descriptorAt (b : Blob) (pciAt fwsec : Image) : Except Stop Nat := do
  let data := pciAt.off
  let size := pciAt.size
  require (fits data size b.len) (.loc .bounds)
  let bit ← findBit b data size
  let bitOff ← orFail bit (.loc .nosig)
  -- the three bytes behind the signature are read without a look at their place
  let bitHeaderSize ← read b (data + bitOff + 8) 1 byteAt
  let bitTokenSize ← read b (data + bitOff + 9) 1 byteAt
  let bitTokenCount ← read b (data + bitOff + 10) 1 byteAt
  let tokens ← scanTable b data size bitTokenFalconData bitTokenSize.toNat bitTokenCount.toNat
    (bitOff + bitHeaderSize.toNat)
  let token ← orFail tokens (.loc .parse)
  let falconTokOff ← read b (data + token + 4) 2 ld16
  require (fits falconTokOff.toNat 4 size) (.loc .bounds)
  let falconPtr ← read b (data + falconTokOff.toNat) 4 ld32
  require (size ≤ falconPtr.toNat) (.loc .bounds)
  let pltAbs := fwsec.off + (falconPtr.toNat - size)
  require (fits pltAbs 4 b.len) (.loc .bounds)
  let pltHdrLen ← read b (pltAbs + 1) 1 byteAt
  let pltEntryLen ← read b (pltAbs + 2) 1 byteAt
  let pltEntries ← read b (pltAbs + 3) 1 byteAt
  let entries ← scanTable b 0 b.len pmuAppidFwsecProd pltEntryLen.toNat pltEntries.toNat
    (pltAbs + pltHdrLen.toNat)
  let entry ← orFail entries (.loc .parse)
  let ucodePtr ← read b (entry + 2) 4 ld32
  require (size ≤ ucodePtr.toNat) (.loc .bounds)
  let descAbs := fwsec.off + (ucodePtr.toNat - size)
  require (fits descAbs 4 b.len) (.loc .bounds)
  return descAbs

def nvFwsecLocate (vbios : Blob) : Except Stop Nat := do
  let imgs ← walkImages vbios 32 0
  require (imgs ≠ []) (.loc .nosig)
  let pciAt ← orFail (firstOf codeTypePciat imgs) (.loc .noimg)
  let fwsec ← orFail (firstOf codeTypeFwsec imgs) (.loc .noimg)
  descriptorAt vbios pciAt fwsec

/-- Every read stays inside and a descriptor's first word does so too. -/
structure Safe (vbios : Blob) : Prop where
  reads : nvFwsecLocate vbios ≠ .error .fault
  descriptor : ∀ descAbs, nvFwsecLocate vbios = .ok descAbs → descAbs + 4 ≤ vbios.len

/-- The header of eleven bytes that starts with the BIT signature lies in the buffer,
where the search comes to it. -/
def HeaderWithin (vbios : Blob) (pciAt : Image) : Prop :=
  ∀ bitOff, fits pciAt.off pciAt.size vbios.len →
    FwsecLocate.findBit vbios.bytes pciAt.off pciAt.size = some bitOff →
      pciAt.off + bitOff + 11 ≤ vbios.len

def BitWithin (vbios : Blob) : Prop :=
  ∀ pciAt fwsec, firstOf codeTypePciat (FwsecLocate.walkImages vbios 32) = some pciAt →
    firstOf codeTypeFwsec (FwsecLocate.walkImages vbios 32) = some fwsec →
      HeaderWithin vbios pciAt

/-- The outcome of a search that had no fault. -/
def outcome (found : Except LocErr Nat) : Except Stop Nat := found.mapError .loc

/-! Reads inside give what the plain model reads. -/

variable {b : Blob}

theorem read_inside {Field : Type} (b : Blob) (off n : Nat) (inside : off + n ≤ b.len)
    (field : Mem → Nat → Field) : read b off n field = .ok (field b.bytes off) := if_pos inside

theorem read_outside {Field : Type} {off n : Nat} (past : b.len < off + n)
    (field : Mem → Nat → Field) : read b off n field = .error .fault :=
  if_neg (Nat.not_le.mpr past)

theorem imageSizeAndLast_inside {pcirOff : Nat} (inside : pcirOff + 0x16 ≤ b.len)
    (codeType : UInt8) :
    imageSizeAndLast b pcirOff codeType =
      .ok (FwsecLocate.imageSizeAndLast b pcirOff codeType) := by
  have length := read_inside b (pcirOff + 0x0a) 2 (by omega) ld16
  have blocks := read_inside b (pcirOff + 0x10) 2 (by omega) ld16
  have lastByte := read_inside b (pcirOff + 0x15) 1 (by omega) byteAt
  simp only [imageSizeAndLast, FwsecLocate.imageSizeAndLast, length, blocks, lastByte, ok_bind]
  generalize (pcirOff + (ld16 b.bytes (pcirOff + 0x0a)).toNat + 0x0f) / 16 * 16 = npdeOff
  by_cases room : fits npdeOff 0x0b b.len
  · have bound := fits_iff.mp room
    have name := read_inside b npdeOff 4 (by omega) fun m p => spells m p npde
    have count := read_inside b (npdeOff + 0x08) 2 (by omega) ld16
    have npdeLast := read_inside b (npdeOff + 0x0a) 1 (by omega) byteAt
    simp only [room, name, count, npdeLast, ok_bind, not_true, if_false, true_and]
    by_cases named : spells b.bytes npdeOff npde
    · simp only [named, not_true, if_false, true_and]
      by_cases empty : (ld16 b.bytes (npdeOff + 0x08)).toNat = 0
      · simp only [empty, if_true, ne_eq, not_true, if_false]
        rfl
      · simp only [empty, if_false, ne_eq, not_false_iff, if_true]
        rfl
    · simp only [named]
      rfl
  · simp only [room, not_false_iff, if_true, false_and, if_false]
    rfl

theorem readImage_inside {off : Nat} (header : off + 0x1a ≤ b.len) :
    readImage b off = .ok (FwsecLocate.readImage b off) := by
  have pointer := read_inside b (off + 0x18) 2 (by omega) ld16
  simp only [readImage, FwsecLocate.readImage, pointer, ok_bind]
  generalize off + (ld16 b.bytes (off + 0x18)).toNat = pcirAt
  by_cases room : fits pcirAt 0x16 b.len
  · have bound := fits_iff.mp room
    have name := read_inside b pcirAt 4 (by omega)
      fun m p => spells m p pcir || spells m p npds
    have code := read_inside b (pcirAt + 0x14) 1 (by omega) byteAt
    simp only [room, name, code, ok_bind, imageSizeAndLast_inside bound, not_true, if_false,
      true_and, Bool.or_eq_true]
    by_cases named : spells b.bytes pcirAt pcir = true ∨ spells b.bytes pcirAt npds = true
    · simp only [named, not_true, if_false, if_true]
      rfl
    · simp only [named, not_false_iff, if_true, if_false]
      rfl
  · simp only [room, not_false_iff, if_true, false_and, if_false]
    rfl

theorem walkImages_inside (max off : Nat) :
    walkImages b max off = .ok (walkFrom pciOrNv b max off) := by
  induction max generalizing off with
  | zero => rfl
  | succ max ih =>
      rw [walkImages, walkFrom]
      by_cases room : fits off 0x1a b.len
      · have bound := fits_iff.mp room
        have magic := read_inside b off 2 (by omega) ld16
        rw [if_neg (not_not.mpr room), if_neg (not_not.mpr room), magic, ok_bind]
        by_cases accepted : pciOrNv (ld16 b.bytes off) = true
        · rw [if_neg (not_not.mpr accepted), if_neg (not_not.mpr accepted),
            readImage_inside bound, ok_bind]
          cases FwsecLocate.readImage b off with
          | none => rfl
          | some im =>
              by_cases ends : im.size = 0 ∨ im.last
              · simp only [if_pos ends]
                rfl
              · simp only [if_neg ends, ih, ok_bind]
                rfl
        · rw [if_pos accepted, if_pos accepted]
          rfl
      · rw [if_pos room, if_pos room]

theorem findM_inside {Item : Type} {test : Item → Except Stop Bool} {plain : Item → Bool}
    (items : List Item) (agree : ∀ item ∈ items, test item = .ok (plain item)) :
    items.findM? test = .ok (items.find? plain) := by
  induction items with
  | nil => rfl
  | cons item rest ih =>
      have here := agree item (by simp)
      have later := ih fun other member => agree other (List.mem_cons_of_mem item member)
      rw [List.findM?, here, ok_bind, List.find?]
      cases plain item with
      | true => rfl
      | false => exact later

theorem findBit_inside {img imgLen : Nat} (within : img + imgLen ≤ b.len) :
    findBit b img imgLen = .ok (FwsecLocate.findBit b.bytes img imgLen) := by
  rw [findBit, FwsecLocate.findBit]
  by_cases short : imgLen < 6
  · rw [if_pos short, if_pos short]
  · rw [if_neg short, if_neg short]
    apply findM_inside
    intro i member
    have bound := List.mem_range.mp member
    exact read_inside b _ _ (by omega) _

theorem scanTable_inside {base limit : Nat} (within : base + limit ≤ b.len) (id : UInt8)
    (stride count e : Nat) :
    scanTable b base limit id stride count e =
      .ok (FwsecLocate.scanTable b.bytes base limit id stride count e) := by
  induction count generalizing e with
  | zero => rfl
  | succ count ih =>
      rw [scanTable, FwsecLocate.scanTable]
      by_cases room : fits e 6 limit
      · have bound := fits_iff.mp room
        have tag := read_inside b (base + e) 1 (by omega) byteAt
        rw [if_neg (not_not.mpr room), if_neg (not_not.mpr room), tag, ok_bind, byteAt]
        by_cases hit : b.bytes (base + e) = id
        · rw [if_pos hit, if_pos hit]
          rfl
        · rw [if_neg hit, if_neg hit]
          exact ih (e + stride)
      · rw [if_pos room, if_pos room]

/-- An entry that a scan returns lies below the limit of the table. -/
theorem scanTable_fits {m : Mem} {base limit : Nat} {id : UInt8} {stride count e entry : Nat}
    (hit : FwsecLocate.scanTable m base limit id stride count e = some entry) :
    entry + 6 ≤ limit := by
  induction count generalizing e with
  | zero => cases hit
  | succ count ih =>
      rw [FwsecLocate.scanTable] at hit
      split at hit
      · cases hit
      · next room =>
        split at hit
        · cases hit
          exact fits_iff.mp (not_not.mp room)
        · exact ih hit

/-! The outcome passes through the checks. -/

theorem outcome_require {condition : Prop} [Decidable condition] (err : LocErr)
    (next : Unit → Except LocErr Nat) :
    outcome (require condition err >>= next) =
      require condition (.loc err) >>= fun held => outcome (next held) := by
  by_cases holds : condition
  · rw [require_pass holds, require_pass holds]
  · rw [require_stop holds, require_stop holds]
    rfl

theorem outcome_orFail {Value : Type} (found : Option Value) (err : LocErr)
    (next : Value → Except LocErr Nat) :
    outcome (orFail found err >>= next) =
      orFail found (.loc err) >>= fun value => outcome (next value) := by
  cases found with
  | none => rfl
  | some value => rfl

/-- The second half of the search, from the table at `pltAbs` on. -/
theorem table_within (size pltAbs fwsecOff : Nat) :
    (require (fits pltAbs 4 b.len) (Stop.loc .bounds) >>= fun _ =>
      read b (pltAbs + 1) 1 byteAt >>= fun pltHdrLen =>
      read b (pltAbs + 2) 1 byteAt >>= fun pltEntryLen =>
      read b (pltAbs + 3) 1 byteAt >>= fun pltEntries =>
      scanTable b 0 b.len pmuAppidFwsecProd pltEntryLen.toNat pltEntries.toNat
        (pltAbs + pltHdrLen.toNat) >>= fun entries =>
      orFail entries (Stop.loc .parse) >>= fun entry =>
      read b (entry + 2) 4 ld32 >>= fun ucodePtr =>
      require (size ≤ ucodePtr.toNat) (Stop.loc .bounds) >>= fun _ =>
      require (fits (fwsecOff + (ucodePtr.toNat - size)) 4 b.len) (Stop.loc .bounds) >>= fun _ =>
      pure (fwsecOff + (ucodePtr.toNat - size))) =
    (require (fits pltAbs 4 b.len) (Stop.loc .bounds) >>= fun _ =>
      orFail (FwsecLocate.scanTable b.bytes 0 b.len pmuAppidFwsecProd
        (b.bytes (pltAbs + 2)).toNat (b.bytes (pltAbs + 3)).toNat
        (pltAbs + (b.bytes (pltAbs + 1)).toNat)) (Stop.loc .parse) >>= fun entry =>
      require (size ≤ (ld32 b.bytes (entry + 2)).toNat) (Stop.loc .bounds) >>= fun _ =>
      require (fits (fwsecOff + ((ld32 b.bytes (entry + 2)).toNat - size)) 4 b.len)
        (Stop.loc .bounds) >>= fun _ =>
      outcome (pure (fwsecOff + ((ld32 b.bytes (entry + 2)).toNat - size)))) := by
  -- The table's header is checked before it is read, and the scan checks each entry.
  by_cases room : fits pltAbs 4 b.len
  case neg => rw [require_stop room, require_stop room]
  have bound := fits_iff.mp room
  have header := read_inside b (pltAbs + 1) 1 (by omega) byteAt
  have stride := read_inside b (pltAbs + 2) 1 (by omega) byteAt
  have count := read_inside b (pltAbs + 3) 1 (by omega) byteAt
  have whole : 0 + b.len ≤ b.len := by omega
  simp only [require_pass room, header, stride, count, ok_bind, scanTable_inside whole, byteAt]
  cases hit : FwsecLocate.scanTable b.bytes 0 b.len pmuAppidFwsecProd
      (b.bytes (pltAbs + 2)).toNat (b.bytes (pltAbs + 3)).toNat
      (pltAbs + (b.bytes (pltAbs + 1)).toNat) with
  | none => rfl
  | some entry =>
      have below := scanTable_fits hit
      have pointer := read_inside b (entry + 2) 4 (by omega) ld32
      simp only [orFail, ok_bind, pointer]
      rfl

theorem descriptorAt_within {pciAt : Image} (within : HeaderWithin b pciAt) (fwsec : Image) :
    descriptorAt b pciAt fwsec = outcome (FwsecLocate.descriptorAt b pciAt fwsec) := by
  simp only [descriptorAt, FwsecLocate.descriptorAt, outcome_require, outcome_orFail]
  by_cases placed : fits pciAt.off pciAt.size b.len
  case neg => rw [require_stop placed, require_stop placed]
  have bound := fits_iff.mp placed
  rw [require_pass placed, require_pass placed, findBit_inside bound, ok_bind]
  cases bit : FwsecLocate.findBit b.bytes pciAt.off pciAt.size with
  | none => rfl
  | some bitOff =>
      have header := within bitOff placed bit
      have size := read_inside b (pciAt.off + bitOff + 8) 1 (by omega) byteAt
      have stride := read_inside b (pciAt.off + bitOff + 9) 1 (by omega) byteAt
      have count := read_inside b (pciAt.off + bitOff + 10) 1 (by omega) byteAt
      simp only [orFail, ok_bind, size, stride, count, scanTable_inside bound, byteAt]
      cases tokens : FwsecLocate.scanTable b.bytes pciAt.off pciAt.size bitTokenFalconData
          (b.bytes (pciAt.off + bitOff + 9)).toNat (b.bytes (pciAt.off + bitOff + 10)).toNat
          (bitOff + (b.bytes (pciAt.off + bitOff + 8)).toNat) with
      | none => rfl
      | some token =>
          have below := scanTable_fits tokens
          have offset := read_inside b (pciAt.off + token + 4) 2 (by omega) ld16
          simp only [ok_bind, offset]
          generalize (ld16 b.bytes (pciAt.off + token + 4)).toNat = falconTokOff
          by_cases held : fits falconTokOff 4 pciAt.size
          case neg => rw [require_stop held, require_stop held]
          have word := fits_iff.mp held
          have pointer := read_inside b (pciAt.off + falconTokOff) 4 (by omega)
            ld32
          rw [require_pass held, require_pass held, pointer, ok_bind]
          generalize (ld32 b.bytes (pciAt.off + falconTokOff)).toNat = falconPtr
          by_cases past : pciAt.size ≤ falconPtr
          case neg => rw [require_stop past, require_stop past]
          rw [require_pass past, require_pass past]
          exact table_within pciAt.size (fwsec.off + (falconPtr - pciAt.size)) fwsec.off

/-- The search stops at the first byte behind the buffer where the header runs past it. -/
theorem descriptorAt_past {pciAt : Image} (past : ¬ HeaderWithin b pciAt) (fwsec : Image) :
    descriptorAt b pciAt fwsec = .error .fault := by
  rw [HeaderWithin] at past
  push Not at past
  obtain ⟨bitOff, placed, bit, outside⟩ := past
  simp only [descriptorAt, require_pass placed, findBit_inside (fits_iff.mp placed), bit, orFail,
    ok_bind]
  by_cases eighth : b.len < pciAt.off + bitOff + 8 + 1
  · rw [read_outside eighth]
    rfl
  · rw [read_inside b _ _ (Nat.le_of_not_lt eighth), ok_bind]
    by_cases ninth : b.len < pciAt.off + bitOff + 9 + 1
    · rw [read_outside ninth]
      rfl
    · rw [read_inside b _ _ (Nat.le_of_not_lt ninth), ok_bind, read_outside (n := 1) (by omega)]
      rfl

theorem locate_within (within : BitWithin b) :
    nvFwsecLocate b = outcome (FwsecLocate.nvFwsecLocate b) := by
  have walked : walkImages b 32 0 = .ok (FwsecLocate.walkImages b 32) := walkImages_inside 32 0
  simp only [nvFwsecLocate, FwsecLocate.nvFwsecLocate, walked, ok_bind, outcome_require,
    outcome_orFail]
  by_cases any : FwsecLocate.walkImages b 32 ≠ []
  case neg => rw [require_stop any, require_stop any]
  rw [require_pass any, require_pass any]
  cases first : firstOf codeTypePciat (FwsecLocate.walkImages b 32) with
  | none => rfl
  | some pciAt =>
      cases second : firstOf codeTypeFwsec (FwsecLocate.walkImages b 32) with
      | none => rfl
      | some fwsec => exact descriptorAt_within (within pciAt fwsec first second) fwsec

theorem locate_past (past : ¬ BitWithin b) : nvFwsecLocate b = .error .fault := by
  rw [BitWithin] at past
  push Not at past
  obtain ⟨pciAt, fwsec, first, second, outside⟩ := past
  have any : FwsecLocate.walkImages b 32 ≠ [] := by
    intro empty
    rw [empty] at first
    cases first
  have walked : walkImages b 32 0 = .ok (FwsecLocate.walkImages b 32) := walkImages_inside 32 0
  simp only [nvFwsecLocate, walked, ok_bind, require_pass any, first, second, orFail]
  exact descriptorAt_past outside fwsec

theorem outcome_fault (found : Except LocErr Nat) : outcome found ≠ .error .fault := by
  cases found with
  | error err => exact fun same => nomatch same
  | ok descAbs => exact fun same => nomatch same

theorem outcome_ok {found : Except LocErr Nat} {descAbs : Nat}
    (same : outcome found = .ok descAbs) : found = .ok descAbs := by
  cases found with
  | error err => cases same
  | ok value =>
      cases same
      rfl

/-- The locator is safe on exactly the buffers where the BIT header, once found,
does not run past the end. -/
theorem locator_safe_iff (vbios : Blob) : Safe vbios ↔ BitWithin vbios := by
  constructor
  · intro safe
    by_contra past
    exact safe.reads (locate_past past)
  · intro within
    have same := locate_within within
    constructor
    · rw [same]
      exact outcome_fault _
    · intro descAbs found
      rw [same] at found
      obtain ⟨pciAt, fwsec, _, _, there⟩ := located (outcome_ok found)
      exact descriptor_fits there

/-- A FWSEC image, and behind it a PciAt image whose last bytes are the BIT signature. -/
def bitAtEnd : Blob where
  len := 1024
  bytes := overlay [(0x00, [0x56, 0x4e]), (0x18, [0x20]), (0x20, npds), (0x2a, [0x18]), (0x30, [1]),
    (0x34, [codeTypeFwsec]),
    (0x200, [0x55, 0xaa]), (0x218, [0x20]), (0x220, pcir), (0x22a, [0x18]), (0x230, [1]),
    (0x234, [codeTypePciat, 0x80]), (0x3fa, bitSig)]

theorem bit_read_past : nvFwsecLocate bitAtEnd = .error .fault ∧ ¬ Safe bitAtEnd := by
  have fault : nvFwsecLocate bitAtEnd = .error .fault := by decide +kernel
  exact ⟨fault, fun safe => safe.reads fault⟩

end GspDriver.FwsecReads
