import GspDriver.Base.Checked
import GspDriver.LittleEndian

/-!
The section lookup of elf64.c and the two sections of the GSP image. Every read
goes through `read`, for which a byte outside the file is a fault, so that a
search without a fault has read nothing else. A name is given without its NUL.
-/

namespace GspDriver.Elf64

open Words Bytes LittleEndian Checked

inductive ElfErr where
  | format
  | bounds
  | nosec
  | fault
  deriving DecidableEq

/-- A field of `n` bytes at `off`. -/
def read {Field : Type} (b : Blob) (off n : Nat) (field : Mem → Nat → Field) :
    Except ElfErr Field :=
  if off + n ≤ b.len then .ok (field b.bytes off) else .error .fault

def r64 (m : Mem) (p : Nat) : UInt64 :=
  (ld32 m p).toUInt64 ||| ((ld32 m (p + 4)).toUInt64 <<< (32 : UInt64))

def bytesAt (n : Nat) (m : Mem) (p : Nat) : List UInt8 := (List.range n).map fun i => m (p + i)

/-- Whether a header's name is `name` and its NUL lies within the string table. -/
def namedAs (b : Blob) (name : List UInt8) (strOff strSize shName : Nat) : Except ElfErr Bool :=
  if shName ≥ strSize then .ok false
  else
    let s := strOff + shName
    let maxn := strSize - shName
    if name.length + 1 > maxn then .ok false
    else do
      let text ← read b s name.length (bytesAt name.length)
      if text ≠ name then return false
      else
        let nul ← read b (s + name.length) 1 fun m p => m p
        return nul == 0

/-- The loop over the headers, `left` of them from `i` on. -/
def searchHeaders (b : Blob) (name : List UInt8) (shoff shentsz strOff strSize : Nat) :
    Nat → Nat → Except ElfErr (UInt64 × UInt64)
  | 0, _ => .error .nosec
  | left + 1, i => do
      let sh := shoff + i * shentsz
      let shName ← read b sh 4 ld32
      let named ← namedAs b name strOff strSize shName.toNat
      if ¬ named then searchHeaders b name shoff shentsz strOff strSize left (i + 1)
      else
        let so ← read b (sh + 0x18) 8 r64
        let ss ← read b (sh + 0x20) 8 r64
        require (fits so.toNat ss.toNat b.len) .bounds
        return (so, ss)

def search (b : Blob) (name : List UInt8) : Except ElfErr (UInt64 × UInt64) := do
  require (64 ≤ b.len) .bounds
  let magic ← read b 0 4 (bytesAt 4)
  require (magic = [0x7f, 0x45, 0x4c, 0x46]) .format
  let ident ← read b 4 2 (bytesAt 2)
  require (ident = [2, 1]) .format
  let shoff ← read b 0x28 8 r64
  let shentsz ← read b 0x3a 2 ld16
  let shnum ← read b 0x3c 2 ld16
  let shstrnd ← read b 0x3e 2 ld16
  require (64 ≤ shentsz.toNat ∧ shnum ≠ 0) .format
  require (fits shoff.toNat (shnum.toNat * shentsz.toNat) b.len) .bounds
  require (shstrnd < shnum) .format
  let strsh := shoff.toNat + shstrnd.toNat * shentsz.toNat
  let strOff ← read b (strsh + 0x18) 8 r64
  let strSize ← read b (strsh + 0x20) 8 r64
  require (fits strOff.toNat strSize.toNat b.len) .bounds
  searchHeaders b name shoff.toNat shentsz.toNat strOff.toNat strSize.toNat shnum.toNat 0

def nvElfOk : Int := 0
def nvElfErrFormat : Int := -2
def nvElfErrBounds : Int := -3
def nvElfErrNosec : Int := -4

/-- Return code and the outputs, `none` after a fault. The outputs are written
together with the code for success. -/
def nvElf64Section (b : Blob) (name : List UInt8) (out : UInt64 × UInt64) :
    Option (Int × UInt64 × UInt64) :=
  match search b name with
  | .ok found => some (nvElfOk, found)
  | .error .format => some (nvElfErrFormat, out)
  | .error .bounds => some (nvElfErrBounds, out)
  | .error .nosec => some (nvElfErrNosec, out)
  | .error .fault => none

/-! The two sections of the GSP image. -/

def nvGspOk : Int := 0
def nvGspErrBounds : Int := -2
def nvGspErrFormat : Int := -3
def nvGspErrNosec : Int := -4

structure NvGspSections where
  fwimageOff : UInt64
  fwimageSize : UInt64
  sigOff : UInt64
  sigSize : UInt64
  deriving DecidableEq

/-- The text `.fwimage`. -/
def fwimageName : List UInt8 := [0x2e, 0x66, 0x77, 0x69, 0x6d, 0x61, 0x67, 0x65]

def sectionsErr (rc : Int) : Int :=
  if rc = nvElfErrNosec then nvGspErrNosec
  else if rc = nvElfErrBounds then nvGspErrBounds
  else nvGspErrFormat

def nvGspRmSections (elf : Blob) (chipSig : List UInt8) (out : NvGspSections) :
    Option (Int × NvGspSections) := do
  let (rc, off, size) ← nvElf64Section elf fwimageName (out.fwimageOff, out.fwimageSize)
  let out := { out with fwimageOff := off, fwimageSize := size }
  if rc ≠ nvElfOk then return (sectionsErr rc, out)
  else
    let (rc, off, size) ← nvElf64Section elf chipSig (out.sigOff, out.sigSize)
    let out := { out with sigOff := off, sigSize := size }
    if rc ≠ nvElfOk then return (sectionsErr rc, out) else return (nvGspOk, out)

/-! The header's fields and the names, as numbers and texts. -/

section Fields

variable (b : Blob)

def shoff : Nat := load b.bytes 0x28 8
def shentsize : Nat := load b.bytes 0x3a 2
def shnum : Nat := load b.bytes 0x3c 2
def shstrndx : Nat := load b.bytes 0x3e 2
def header (i : Nat) : Nat := shoff b + i * shentsize b
def strOff : Nat := load b.bytes (header b (shstrndx b) + 0x18) 8
def strSize : Nat := load b.bytes (header b (shstrndx b) + 0x20) 8
def sectionOff (i : Nat) : Nat := load b.bytes (header b i + 0x18) 8
def sectionSize (i : Nat) : Nat := load b.bytes (header b i + 0x20) 8

/-- The bytes up to the first NUL among the `room` bytes from `start` on. -/
def cString (m : Mem) (start : Nat) : Nat → Option (List UInt8)
  | 0 => none
  | room + 1 =>
      if m start = 0 then some [] else (cString m (start + 1) room).map (m start :: ·)

def sectionName (i : Nat) : Option (List UInt8) :=
  let name := load b.bytes (header b i) 4
  cString b.bytes (strOff b + name) (strSize b - name)

/-- An ELF64 little-endian file whose section headers and names lie within it. -/
structure WellFormed : Prop where
  length : 64 ≤ b.len
  magic : bytesAt 4 b.bytes 0 = [0x7f, 0x45, 0x4c, 0x46]
  ident : bytesAt 2 b.bytes 4 = [2, 1]
  entry : 64 ≤ shentsize b
  nonempty : 0 < shnum b
  headers : shoff b + shnum b * shentsize b ≤ b.len
  strings : shstrndx b < shnum b
  names : strOff b + strSize b ≤ b.len

/-- The first header from `start` on with the name. -/
def FirstFrom (start : Nat) (name : List UInt8) (i : Nat) : Prop :=
  start ≤ i ∧ i < shnum b ∧ sectionName b i = some name ∧
    ∀ j, start ≤ j → j < i → sectionName b j ≠ some name

end Fields

theorem read_ok {Field : Type} {b : Blob} {off n : Nat} (field : Mem → Nat → Field)
    (inside : off + n ≤ b.len) : read b off n field = .ok (field b.bytes off) := by
  rw [read, if_pos inside]

theorem r64_toNat (m : Mem) (p : Nat) : (r64 m p).toNat = load m p 8 := by
  have low := ld32_toNat m p
  have high := ld32_toNat m (p + 4)
  have lowBound := (ld32 m p).toNat_lt
  have highBound := (ld32 m (p + 4)).toNat_lt
  have shift : (32 : UInt64).toNat = 32 := rfl
  have shifted : ((ld32 m (p + 4)).toUInt64 <<< (32 : UInt64)).toNat =
      (ld32 m (p + 4)).toNat * 2 ^ 32 := by
    rw [shl_toNat (by rw [shift]; omega) (by rw [shift, UInt32.toNat_toUInt64]; omega), shift,
      UInt32.toNat_toUInt64]
  have split := load_add m p 4 4
  have swapped : r64 m p =
      ((ld32 m (p + 4)).toUInt64 <<< (32 : UInt64)) ||| (ld32 m p).toUInt64 := by
    rw [r64, UInt64.or_comm]
  rw [swapped, or_toNat (k := 32) (by rw [shifted]; exact Nat.dvd_mul_left _ _)
    (by rw [UInt32.toNat_toUInt64]; exact lowBound), shifted, UInt32.toNat_toUInt64, low, high,
    split]
  omega

theorem ld16_toNat (m : Mem) (p : Nat) : (ld16 m p).toNat = load m p 2 := by
  have low := (m p).toNat_lt
  have high := (m (p + 1)).toNat_lt
  have shift : (8 : UInt16).toNat % 16 = 8 := rfl
  have fits : (m (p + 1)).toNat * 2 ^ 8 < 2 ^ 16 := by omega
  rw [ld16, UInt16.toNat_or, UInt16.toNat_shiftLeft, shift, UInt8.toNat_toUInt16,
    UInt8.toNat_toUInt16, Nat.shiftLeft_eq, Nat.mod_eq_of_lt fits, Nat.mul_comm, Nat.or_comm,
    ← Nat.two_pow_add_eq_or_of_lt low]
  simp only [load, Nat.add_zero]
  omega

/-! A text without NUL ends where its NUL is. -/

theorem bytesAt_succ (n : Nat) (m : Mem) (p : Nat) :
    bytesAt (n + 1) m p = m p :: bytesAt n m (p + 1) := by
  have next : ∀ i, m (p + (i + 1)) = m (p + 1 + i) := fun i => congrArg m (by omega)
  simp only [bytesAt, List.range_succ_eq_map, List.map_cons, List.map_map, Nat.add_zero,
    Function.comp_def, Nat.succ_eq_add_one, next]

theorem cString_iff (m : Mem) {name : List UInt8} (text : 0 ∉ name) (start room : Nat) :
    cString m start room = some name ↔ name.length < room ∧
      bytesAt name.length m start = name ∧ m (start + name.length) = 0 := by
  -- Byte by byte: the string ends exactly where the name does.
  induction room generalizing name start with
  | zero => simp [cString]
  | succ room ih =>
      rw [cString]
      by_cases ends : m start = 0
      · rw [if_pos ends]
        cases name with
        | nil => simp [bytesAt, ends]
        | cons byte rest =>
            have differs : m start ≠ byte := by
              rw [ends]
              exact fun same => text (same ▸ List.mem_cons_self)
            simp [bytesAt_succ, differs]
      · rw [if_neg ends]
        cases name with
        | nil => simp [ends]
        | cons byte rest =>
            have later := @ih rest (fun member => text (List.mem_cons_of_mem _ member)) (start + 1)
            have place : start + (rest.length + 1) = start + 1 + rest.length := by omega
            simp only [Option.map_eq_some_iff, List.length_cons, bytesAt_succ, List.cons.injEq,
              Nat.add_lt_add_iff_right, place]
            constructor
            · rintro ⟨_, tail, rfl, rfl⟩
              obtain ⟨room, same, nul⟩ := later.mp tail
              exact ⟨room, ⟨rfl, same⟩, nul⟩
            · rintro ⟨room, ⟨rfl, same⟩, nul⟩
              exact ⟨rest, later.mpr ⟨room, same, nul⟩, rfl, rfl⟩

section Search

variable {b : Blob} {name : List UInt8} (text : 0 ∉ name) (names : strOff b + strSize b ≤ b.len)
include text names

/-- The checks of one header's name decide whether its name is the one sought. -/
theorem namedAs_spec (shName : Nat) :
    namedAs b name (strOff b) (strSize b) shName =
      .ok (decide (cString b.bytes (strOff b + shName) (strSize b - shName) = some name)) := by
  rw [namedAs]
  by_cases outside : shName ≥ strSize b
  · have none : strSize b - shName = 0 := by omega
    rw [if_pos outside, none]
    simp [cString]
  rw [if_neg outside]
  have spells := cString_iff b.bytes text (strOff b + shName) (strSize b - shName)
  by_cases long : name.length + 1 > strSize b - shName
  · have differs : ¬ cString b.bytes (strOff b + shName) (strSize b - shName) = some name := by
      rw [spells]
      omega
    rw [if_pos long, decide_eq_false differs]
  rw [if_neg long, read_ok _ (by omega)]
  by_cases same : bytesAt name.length b.bytes (strOff b + shName) = name
  · change (if bytesAt name.length b.bytes (strOff b + shName) ≠ name then _ else _) = _
    rw [if_neg (not_not_intro same), read_ok _ (by omega)]
    have ends : (b.bytes (strOff b + shName + name.length) == 0) =
        decide (cString b.bytes (strOff b + shName) (strSize b - shName) = some name) := by
      rw [Bool.eq_iff_iff, beq_iff_eq, decide_eq_true_iff, spells]
      exact ⟨fun nul => ⟨by omega, same, nul⟩, fun found => found.2.2⟩
    exact congrArg Except.ok ends
  · have differs : ¬ cString b.bytes (strOff b + shName) (strSize b - shName) = some name :=
      fun found => same (spells.mp found).2.1
    change (if bytesAt name.length b.bytes (strOff b + shName) ≠ name then _ else _) = _
    rw [if_pos same, decide_eq_false differs]
    rfl

end Search

/-- What a search from header `start` on may answer. -/
def Answers (b : Blob) (name : List UInt8) (start : Nat) : Except ElfErr (UInt64 × UInt64) → Prop
  | .ok (so, ss) => ∃ i, FirstFrom b start name i ∧ so.toNat = sectionOff b i ∧
      ss.toNat = sectionSize b i ∧ sectionOff b i + sectionSize b i ≤ b.len
  | .error .bounds => ∃ i, FirstFrom b start name i ∧ b.len < sectionOff b i + sectionSize b i
  | .error .nosec => ∀ i, start ≤ i → i < shnum b → sectionName b i ≠ some name
  | .error _ => False

theorem first_later {b : Blob} {name : List UInt8} {start i : Nat}
    (differs : sectionName b start ≠ some name) (first : FirstFrom b (start + 1) name i) :
    FirstFrom b start name i := by
  obtain ⟨above, below, named, least⟩ := first
  refine ⟨by omega, below, named, fun j from_start before => ?_⟩
  by_cases here : j = start
  · exact here ▸ differs
  · exact least j (by omega) before

theorem answers_later {b : Blob} {name : List UInt8} {start : Nat}
    (differs : sectionName b start ≠ some name) {answer : Except ElfErr (UInt64 × UInt64)}
    (later : Answers b name (start + 1) answer) : Answers b name start answer := by
  cases answer with
  | ok found =>
      obtain ⟨i, first, fields⟩ := later
      exact ⟨i, first_later differs first, fields⟩
  | error failure =>
      cases failure with
      | bounds =>
          obtain ⟨i, first, outside⟩ := later
          exact ⟨i, first_later differs first, outside⟩
      | nosec =>
          intro i from_start below
          by_cases here : i = start
          · exact here ▸ differs
          · exact later i (by omega) below
      | format => exact later
      | fault => exact later

theorem header_inside {b : Blob} (formed : WellFormed b) {i : Nat} (below : i < shnum b) :
    header b i + 64 ≤ b.len := by
  have headers := formed.headers
  have entry := formed.entry
  have rows : (i + 1) * shentsize b ≤ shnum b * shentsize b := Nat.mul_le_mul_right _ below
  rw [Nat.succ_mul] at rows
  rw [header]
  omega

theorem search_headers_spec {b : Blob} (formed : WellFormed b) {name : List UInt8}
    (text : 0 ∉ name) (left i : Nat) (rest : i + left = shnum b) :
    Answers b name i
      (searchHeaders b name (shoff b) (shentsize b) (strOff b) (strSize b) left i) := by
  induction left generalizing i with
  | zero =>
      intro j above below
      omega
  | succ left ih =>
      have inside := header_inside formed (i := i) (by omega)
      have here := namedAs_spec text formed.names (ld32 b.bytes (header b i)).toNat
      rw [ld32_toNat] at here
      rw [searchHeaders, ← header, read_ok _ (by omega)]
      rw [ok_bind, ld32_toNat, here, ok_bind]
      -- The first header with the name decides, whether its data lies within or not.
      by_cases named : sectionName b i = some name
      · have first : FirstFrom b i name i :=
          ⟨Nat.le_refl _, by omega, named, fun j above before => by omega⟩
        have found : decide (cString b.bytes (strOff b + load b.bytes (header b i) 4)
            (strSize b - load b.bytes (header b i) 4) = some name) = true :=
          decide_eq_true named
        rw [if_neg (not_not_intro found), read_ok _ (by omega), ok_bind, read_ok _ (by omega),
          ok_bind]
        have offset : (r64 b.bytes (header b i + 0x18)).toNat = sectionOff b i := r64_toNat _ _
        have size : (r64 b.bytes (header b i + 0x20)).toNat = sectionSize b i := r64_toNat _ _
        by_cases within : sectionOff b i + sectionSize b i ≤ b.len
        · rw [require_pass (fits_iff.mpr (by rw [offset, size]; exact within))]
          exact ⟨i, first, offset, size, within⟩
        · rw [require_stop (fun fit => within (by rw [fits_iff, offset, size] at fit; exact fit))]
          exact ⟨i, first, by omega⟩
      · have missed : ¬ decide (cString b.bytes (strOff b + load b.bytes (header b i) 4)
            (strSize b - load b.bytes (header b i) 4) = some name) = true :=
          fun found => named (of_decide_eq_true found)
        rw [if_pos missed]
        exact answers_later named (ih (i + 1) (by omega))

/-- A malformed file is refused, a well-formed one is searched. -/
theorem search_spec (b : Blob) {name : List UInt8} (text : 0 ∉ name) :
    (WellFormed b ∧ Answers b name 0 (search b name)) ∨
      (¬ WellFormed b ∧
        (search b name = .error .bounds ∨ search b name = .error .format)) := by
  have shoffEq : (r64 b.bytes 0x28).toNat = shoff b := r64_toNat _ _
  have shentsizeEq : (ld16 b.bytes 0x3a).toNat = shentsize b := ld16_toNat _ _
  have shnumEq : (ld16 b.bytes 0x3c).toNat = shnum b := ld16_toNat _ _
  have shstrndxEq : (ld16 b.bytes 0x3e).toNat = shstrndx b := ld16_toNat _ _
  have nonzero : ld16 b.bytes 0x3c ≠ 0 ↔ 0 < shnum b := by
    rw [Nat.pos_iff_ne_zero, ← shnumEq, ne_eq, ne_eq, ← UInt16.toNat_inj, UInt16.toNat_zero]
  rw [search]
  -- One case for each check, in the order in which the parser makes them.
  by_cases length : 64 ≤ b.len
  case neg =>
    rw [require_stop length]
    exact Or.inr ⟨fun formed => length formed.length, Or.inl rfl⟩
  rw [require_pass length, read_ok _ (by omega), ok_bind]
  by_cases magic : bytesAt 4 b.bytes 0 = [0x7f, 0x45, 0x4c, 0x46]
  case neg =>
    rw [require_stop magic]
    exact Or.inr ⟨fun formed => magic formed.magic, Or.inr rfl⟩
  rw [require_pass magic, read_ok _ (by omega), ok_bind]
  by_cases ident : bytesAt 2 b.bytes 4 = [2, 1]
  case neg =>
    rw [require_stop ident]
    exact Or.inr ⟨fun formed => ident formed.ident, Or.inr rfl⟩
  rw [require_pass ident, read_ok _ (by omega), ok_bind, read_ok _ (by omega), ok_bind,
    read_ok _ (by omega), ok_bind, read_ok _ (by omega), ok_bind]
  simp only [shoffEq, shentsizeEq, shnumEq, shstrndxEq]
  by_cases table : 64 ≤ shentsize b ∧ ld16 b.bytes 0x3c ≠ 0
  case neg =>
    rw [require_stop table]
    exact Or.inr ⟨fun formed => table ⟨formed.entry, nonzero.mpr formed.nonempty⟩, Or.inr rfl⟩
  rw [require_pass table]
  by_cases headers : shoff b + shnum b * shentsize b ≤ b.len
  case neg =>
    rw [require_stop (mt fits_iff.mp headers)]
    exact Or.inr ⟨fun formed => headers formed.headers, Or.inl rfl⟩
  rw [require_pass (fits_iff.mpr headers)]
  by_cases strings : shstrndx b < shnum b
  case neg =>
    have refused : ¬ ld16 b.bytes 0x3e < ld16 b.bytes 0x3c := by
      rw [UInt16.lt_iff_toNat_lt, shstrndxEq, shnumEq]
      exact strings
    rw [require_stop refused]
    exact Or.inr ⟨fun formed => strings formed.strings, Or.inr rfl⟩
  have admitted : ld16 b.bytes 0x3e < ld16 b.bytes 0x3c := by
    rw [UInt16.lt_iff_toNat_lt, shstrndxEq, shnumEq]
    exact strings
  -- The string table's header is one of the rows that were checked.
  have rows : (shstrndx b + 1) * shentsize b ≤ shnum b * shentsize b :=
    Nat.mul_le_mul_right _ strings
  have entry := table.1
  rw [Nat.succ_mul] at rows
  have strOffEq : (r64 b.bytes (shoff b + shstrndx b * shentsize b + 0x18)).toNat = strOff b :=
    r64_toNat _ _
  have strSizeEq : (r64 b.bytes (shoff b + shstrndx b * shentsize b + 0x20)).toNat = strSize b :=
    r64_toNat _ _
  rw [require_pass admitted, read_ok _ (by omega), ok_bind, read_ok _ (by omega), ok_bind]
  simp only [strOffEq, strSizeEq]
  by_cases names : strOff b + strSize b ≤ b.len
  case neg =>
    rw [require_stop (mt fits_iff.mp names)]
    exact Or.inr ⟨fun formed => names formed.names, Or.inl rfl⟩
  rw [require_pass (fits_iff.mpr names)]
  have formed : WellFormed b :=
    ⟨length, magic, ident, entry, nonzero.mp table.2, headers, strings, names⟩
  exact Or.inl ⟨formed, search_headers_spec formed text _ 0 (Nat.zero_add _)⟩

theorem first_unique {b : Blob} {name : List UInt8} {start i j : Nat}
    (first : FirstFrom b start name i) (other : FirstFrom b start name j) : i = j := by
  rcases Nat.lt_trichotomy i j with below | same | above
  · exact absurd first.2.2.1 (other.2.2.2 i first.1 below)
  · exact same
  · exact absurd other.2.2.1 (first.2.2.2 j other.1 above)

/-- The section that a lookup finds: the first header with the name, its data within the file. -/
def Section (b : Blob) (name : List UInt8) (off size : Nat) : Prop :=
  ∃ i, FirstFrom b 0 name i ∧ off = sectionOff b i ∧ size = sectionSize b i ∧ off + size ≤ b.len

theorem section_spec (b : Blob) {name : List UInt8} (text : 0 ∉ name) (out : UInt64 × UInt64) :
    (∃ found, nvElf64Section b name out = some (nvElfOk, found) ∧ WellFormed b ∧
      Section b name found.1.toNat found.2.toNat) ∨
    (∃ rc, nvElf64Section b name out = some (rc, out) ∧ rc ≠ nvElfOk ∧
      ¬ (WellFormed b ∧ ∃ off size, Section b name off size)) := by
  rw [nvElf64Section]
  rcases search_spec b text with ⟨formed, answers⟩ | ⟨malformed, refused⟩
  · cases searched : search b name with
    | ok found =>
        rw [searched] at answers
        obtain ⟨i, first, off, size, within⟩ := answers
        exact Or.inl ⟨found, rfl, formed, i, first, off, size, by rw [off, size]; exact within⟩
    | error failure =>
        rw [searched] at answers
        cases failure with
        | bounds =>
            obtain ⟨i, first, outside⟩ := answers
            refine Or.inr ⟨nvElfErrBounds, rfl, by decide, ?_⟩
            rintro ⟨_, off, size, j, other, rfl, rfl, within⟩
            obtain rfl := first_unique first other
            omega
        | nosec =>
            refine Or.inr ⟨nvElfErrNosec, rfl, by decide, ?_⟩
            rintro ⟨_, _, _, j, first, _⟩
            exact answers j first.1 first.2.1 first.2.2.1
        | format => exact answers.elim
        | fault => exact answers.elim
  · rcases refused with refused | refused
    · rw [refused]
      exact Or.inr ⟨nvElfErrBounds, rfl, by decide, fun present => malformed present.1⟩
    · rw [refused]
      exact Or.inr ⟨nvElfErrFormat, rfl, by decide, fun present => malformed present.1⟩

theorem sections_spec (elf : Blob) {chipSig : List UInt8} (text : 0 ∉ chipSig)
    (out : NvGspSections) :
    ∃ rc found, nvGspRmSections elf chipSig out = some (rc, found) ∧ (rc = nvGspOk →
      Section elf fwimageName found.fwimageOff.toNat found.fwimageSize.toNat ∧
        Section elf chipSig found.sigOff.toNat found.sigSize.toNat) := by
  have plain : (0 : UInt8) ∉ fwimageName := by decide
  have failed : ∀ rc, sectionsErr rc ≠ nvGspOk := by
    intro rc
    rw [sectionsErr]
    split
    · decide
    · split
      · decide
      · decide
  rw [nvGspRmSections]
  rcases section_spec elf plain (out.fwimageOff, out.fwimageSize) with
    ⟨image, returned, _, first⟩ | ⟨rc, returned, error, _⟩
  · rcases section_spec elf text (out.sigOff, out.sigSize) with
      ⟨sig, signed, _, second⟩ | ⟨rc, signed, error, _⟩
    · rw [returned]
      change ∃ rc found, (nvElf64Section elf chipSig (out.sigOff, out.sigSize) >>= _) = _ ∧ _
      rw [signed]
      exact ⟨nvGspOk, ⟨image.1, image.2, sig.1, sig.2⟩, rfl, fun _ => ⟨first, second⟩⟩
    · rw [returned]
      change ∃ rc found, (nvElf64Section elf chipSig (out.sigOff, out.sigSize) >>= _) = _ ∧ _
      rw [signed]
      exact ⟨sectionsErr rc, _, if_pos error, fun ok => absurd ok (failed rc)⟩
  · rw [returned]
    exact ⟨sectionsErr rc, _, if_pos error, fun ok => absurd ok (failed rc)⟩

/-- The lookup reads within the file, finds exactly the section that is there,
and leaves its outputs alone otherwise; so the image's two sections lie within
the file. -/
theorem section_lookup_exact (b : Blob) {name : List UInt8} (text : 0 ∉ name) :
    (∀ out, ∃ rc found, nvElf64Section b name out = some (rc, found) ∧
      (rc = nvElfOk ↔ WellFormed b ∧ ∃ off size, Section b name off size) ∧
      (rc = nvElfOk → Section b name found.1.toNat found.2.toNat) ∧
      (rc ≠ nvElfOk → found = out)) ∧
    ∀ out, ∃ rc found, nvGspRmSections b name out = some (rc, found) ∧
      (rc = nvGspOk →
        found.fwimageOff.toNat + found.fwimageSize.toNat ≤ b.len ∧
          found.sigOff.toNat + found.sigSize.toNat ≤ b.len) := by
  constructor
  · intro out
    rcases section_spec b text out with ⟨found, returned, formed, here⟩ |
      ⟨rc, returned, error, missing⟩
    · refine ⟨nvElfOk, found, returned, ⟨fun _ => ⟨formed, _, _, here⟩, fun _ => rfl⟩,
        fun _ => here, ?_⟩
      exact fun error => absurd rfl error
    · refine ⟨rc, out, returned, ⟨fun ok => absurd ok error, fun present => absurd present missing⟩,
        ?_⟩
      exact ⟨fun ok => absurd ok error, fun _ => rfl⟩
  · intro out
    obtain ⟨rc, found, returned, slices⟩ := sections_spec b text out
    refine ⟨rc, found, returned, fun ok => ?_⟩
    obtain ⟨⟨_, _, _, _, image⟩, ⟨_, _, _, _, sig⟩⟩ := slices ok
    exact ⟨image, sig⟩

/-- Two headers from 64 on; the string table with the name `.fwimage` is the first section. -/
def tinyElf : Blob :=
  { len := 202
    bytes := fun x => ([(0, 0x7f), (1, 0x45), (2, 0x4c), (3, 0x46), (4, 2), (5, 1), (0x28, 64),
      (0x3a, 64), (0x3c, 2), (0x58, 192), (0x60, 10), (0x80, 1), (0xa0, 64)] ++
      fwimageName.zipIdx.map fun (byte : UInt8 × Nat) => (193 + byte.2, byte.1)).lookup x |>.getD 0 }

example : search tinyElf fwimageName = .ok (0, 64) := by decide +kernel

theorem section_lookup_exact_tiny :
    ∃ found, nvElf64Section tinyElf fwimageName (7, 7) = some (nvElfOk, found) ∧
      Section tinyElf fwimageName found.1.toNat found.2.toNat := by
  have named : 0 ∉ fwimageName := by decide
  obtain ⟨rc, found, returned, _, present, _⟩ := (section_lookup_exact tinyElf named).1 (7, 7)
  have fine : (nvElf64Section tinyElf fwimageName (7, 7)).map Prod.fst = some nvElfOk := by
    decide +kernel
  rw [returned, Option.map_some] at fine
  obtain rfl : rc = nvElfOk := Option.some_inj.mp fine
  exact ⟨found, returned, present rfl⟩

end GspDriver.Elf64
