import GspDriver.Base.Words
import GspDriver.Base.Loop

/-!
The video-memory pool of vram.c. Metadata only: `allocations` is a table whose
size is a parameter, an entry with handle 0 is empty. Out-parameters are
returned, 0 when the source leaves them 0; pointer arguments are always
present. The placement loop takes fuel. The `Arith` lists give every 64-bit
addition and subtraction that a call performs, in order.
-/

namespace GspDriver.Vram

open Loop

def nvVramPageBytes : UInt64 := 4096
def nvVramMaxAllocs : Nat := 128
def uint64Max : UInt64 := 0xffffffffffffffff

structure NvVramAllocation where
  handle : UInt64
  offset : UInt64
  size : UInt64
  deriving DecidableEq

def NvVramAllocation.zero : NvVramAllocation := ⟨0, 0, 0⟩

/-- A pool with a table of `n` entries; the driver's has `nvVramMaxAllocs`. -/
structure NvVramPool (n : Nat) where
  phys : UInt64
  va : UInt64
  size : UInt64
  used : UInt64
  nextHandle : UInt64
  allocations : Fin n → NvVramAllocation

variable {n : Nat}

def slots : List (Fin n) := List.finRange n

def spanValid (base size : UInt64) : Bool := size ≠ 0 && size ≤ uint64Max - base

def alignmentValid (alignment : UInt64) : Bool :=
  nvVramPageBytes ≤ alignment && alignment &&& (alignment - 1) == 0

def alignUp (value alignment : UInt64) : Option UInt64 :=
  if value > uint64Max - (alignment - 1) then none
  else some ((value + alignment - 1) &&& ~~~(alignment - 1))

def nvVramPoolInit (phys va size : UInt64) : Int × Option (NvVramPool n) :=
  if ((phys ||| va ||| size) &&& (nvVramPageBytes - 1)) ≠ 0 ∨
      ¬ spanValid phys size ∨ ¬ spanValid va size then (-1, none)
  else (0, some ⟨phys, va, size, 0, 1, fun _ => .zero⟩)

/-- One step of the collision loop: `next` moves past the end of `a` when `a`
overlaps the candidate. -/
def raise (candidate bytes next : UInt64) (a : NvVramAllocation) : UInt64 :=
  if a.handle ≠ 0 ∧ candidate < a.offset + a.size ∧ a.offset < candidate + bytes ∧
      a.offset + a.size > next then a.offset + a.size
  else next

def collide (p : NvVramPool n) (bytes candidate : UInt64) : UInt64 :=
  slots.foldl (fun next i => raise candidate bytes next (p.allocations i)) candidate

/-- One round of the placement loop; it stops with a candidate or with none. -/
def scanTurn (p : NvVramPool n) (bytes alignment candidate : UInt64) :
    Turn UInt64 (Option UInt64) :=
  if candidate ≤ p.size ∧ bytes ≤ p.size - candidate then
    let next := collide p bytes candidate
    if next = candidate then .stop (some candidate)
    else match alignUp (p.va + next) alignment with
      | none => .stop none
      | some address => .again (address - p.va)
  else .stop none

def scanFuel (p : NvVramPool n) : Nat := p.size.toNat + 1

def freeSlot (p : NvVramPool n) : Option (Fin n) :=
  slots.find? fun i => (p.allocations i).handle = 0

def findHandle (p : NvVramPool n) (handle : UInt64) : Option (Fin n) :=
  slots.find? fun i => (p.allocations i).handle = handle

def place (p : NvVramPool n) (slot : Fin n) (candidate bytes : UInt64) :
    NvVramPool n :=
  { p with
    nextHandle := p.nextHandle + 1
    allocations := Function.update p.allocations slot ⟨p.nextHandle, candidate, bytes⟩
    used := p.used + bytes }

/-- Return code, `*handle` and the pool; `none` when the scan has not ended. -/
def nvVramAlloc (p : NvVramPool n) (bytes alignment : UInt64) :
    Option (Int × UInt64 × NvVramPool n) :=
  if p.size = 0 ∨ bytes = 0 ∨ ¬ alignmentValid alignment then some (-1, 0, p)
  else match alignUp bytes nvVramPageBytes with
    | none => some (-1, 0, p)
    | some bytes =>
      if p.nextHandle = 0 ∨ p.nextHandle = uint64Max ∨ p.used > p.size ∨
          bytes > p.size - p.used then some (-2, 0, p)
      else match freeSlot p, alignUp p.va alignment with
        | none, _ => some (-2, 0, p)
        | some _, none => some (-2, 0, p)
        | some slot, some address =>
          (whileFuel (scanTurn p bytes alignment) (scanFuel p) (address - p.va)).map fun
            | none => (-2, 0, p)
            | some candidate => (0, p.nextHandle, place p slot candidate bytes)

def evict (p : NvVramPool n) (i : Fin n) : NvVramPool n :=
  { p with
    used := p.used - (p.allocations i).size
    allocations := Function.update p.allocations i .zero }

def nvVramFree (p : NvVramPool n) (handle : UInt64) : Int × NvVramPool n :=
  if handle = 0 then (-1, p)
  else match findHandle p handle with
    | some i => (0, evict p i)
    | none => (-1, p)

/-- Return code, `*phys` and `*va`. -/
def nvVramResolve (p : NvVramPool n) (handle offset bytes : UInt64) : Int × UInt64 × UInt64 :=
  if handle = 0 ∨ bytes = 0 then (-1, 0, 0)
  else match findHandle p handle with
    | none => (-1, 0, 0)
    | some i =>
      let a := p.allocations i
      if offset > a.size ∨ bytes > a.size - offset then (-1, 0, 0)
      else (0, p.phys + a.offset + offset, p.va + a.offset + offset)

/-! The arithmetic of each call. `sumUp` and `decUp` are the two operations of
`value + alignment - 1` in `align_up`; the rest is `add` and `sub`. -/

inductive Arith where
  | add (x y : UInt64)
  | sub (x y : UInt64)
  | sumUp (value alignment : UInt64)
  | decUp (value alignment : UInt64)
  deriving DecidableEq

def Arith.Wraps : Arith → Prop
  | .add x y | .sumUp x y => 2 ^ 64 ≤ x.toNat + y.toNat
  | .sub x y => x.toNat < y.toNat
  | .decUp x y => (x + y).toNat < 1

def alignmentArith (alignment : UInt64) : List Arith :=
  if nvVramPageBytes ≤ alignment then [.sub alignment 1] else []

def alignUpArith (value alignment : UInt64) : List Arith :=
  [.sub alignment 1, .sub uint64Max (alignment - 1)] ++
    if value > uint64Max - (alignment - 1) then []
    else [.sumUp value alignment, .decUp value alignment, .sub alignment 1]

def raiseArith (candidate bytes next : UInt64) (a : NvVramAllocation) : List Arith :=
  if a.handle = 0 then []
  else .add a.offset a.size ::
    if ¬ candidate < a.offset + a.size then []
    else .add candidate bytes ::
      if ¬ a.offset < candidate + bytes then []
      else .add a.offset a.size ::
        if a.offset + a.size > next then [.add a.offset a.size] else []

def collideArithFrom (p : NvVramPool n) (candidate bytes : UInt64) :
    UInt64 → List (Fin n) → List Arith
  | _, [] => []
  | next, i :: rest =>
      raiseArith candidate bytes next (p.allocations i) ++
        collideArithFrom p candidate bytes (raise candidate bytes next (p.allocations i)) rest

def collideArith (p : NvVramPool n) (bytes candidate : UInt64) : List Arith :=
  collideArithFrom p candidate bytes candidate slots

def scanArith (p : NvVramPool n) (bytes alignment candidate : UInt64) : List Arith :=
  (if candidate ≤ p.size then [.sub p.size candidate] else []) ++
    if candidate ≤ p.size ∧ bytes ≤ p.size - candidate then
      let next := collide p bytes candidate
      collideArith p bytes candidate ++
        if next = candidate then [.add p.nextHandle 1, .add p.used bytes]
        else .add p.va next :: alignUpArith (p.va + next) alignment ++
          match alignUp (p.va + next) alignment with
          | none => []
          | some address => [.sub address p.va]
    else []

def allocArith (p : NvVramPool n) (bytes alignment : UInt64) : List Arith :=
  if p.size = 0 ∨ bytes = 0 then []
  else alignmentArith alignment ++
    if ¬ alignmentValid alignment then []
    else alignUpArith bytes nvVramPageBytes ++
      match alignUp bytes nvVramPageBytes with
      | none => []
      | some bytes =>
        if p.nextHandle = 0 ∨ p.nextHandle = uint64Max ∨ p.used > p.size then []
        else .sub p.size p.used ::
          if bytes > p.size - p.used then []
          else match freeSlot p with
            | none => []
            | some _ => alignUpArith p.va alignment ++
                match alignUp p.va alignment with
                | none => []
                | some address => .sub address p.va ::
                    whileLog (scanTurn p bytes alignment) (scanArith p bytes alignment)
                      (scanFuel p) (address - p.va)

def freeArith (p : NvVramPool n) (handle : UInt64) : List Arith :=
  if handle = 0 then []
  else match findHandle p handle with
    | some i => [.sub p.used (p.allocations i).size]
    | none => []

def resolveArith (p : NvVramPool n) (handle offset bytes : UInt64) : List Arith :=
  if handle = 0 ∨ bytes = 0 then []
  else match findHandle p handle with
    | none => []
    | some i =>
      let a := p.allocations i
      if offset > a.size then []
      else .sub a.size offset ::
        if bytes > a.size - offset then []
        else [.add p.phys a.offset, .add (p.phys + a.offset) offset,
          .add p.va a.offset, .add (p.va + a.offset) offset]

end GspDriver.Vram
