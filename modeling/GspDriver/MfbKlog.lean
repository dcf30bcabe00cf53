import GspDriver.Base.Bytes
import GspDriver.Base.Trace

/-!
The log of mfb_klog.cpp, from `mfb_klog_init` on. Lines are appended to a buffer
under the lock; a flush truncates the file and writes the buffer into it. A call
of a flush is a sequence of steps, each of which makes one access to what the
threads share, and between two steps any other thread may run. A step brings
what the kernel makes of it.
-/

namespace GspDriver.MfbKlog

open Bytes

def klogSize : Nat := 512 * 1024
def klogLine : Nat := 1024
def klogTries : Int := 64

/-- The mark behind a log that has dropped a line. -/
def tail : List UInt8 := "\n[журнал переполнен — хвост обрезан]\n".toUTF8.toList

structure Klog where
  gBuf : Mem
  gLen : Nat
  gOverflow : Bool
  gTriesLeft : Int
  gFlushedLen : Nat

/-- What `vsnprintf` leaves of a formatted text. -/
def cut (text : List UInt8) : List UInt8 := text.take (klogLine - 1)

def mfbKlogVprintf (s : Klog) (text : List UInt8) : Klog :=
  let line := cut text
  if line.length = 0 then s
  else if s.gLen + line.length + 1 ≥ klogSize then { s with gOverflow := true }
  else
    { s with
      gBuf := put (blit s.gBuf s.gLen line.length (line.getD · 0)) (s.gLen + line.length) 0
      gLen := s.gLen + line.length }

structure File where
  bytes : Mem
  size : Nat

/-- The file behind `O_TRUNC`; a hole reads as zero. -/
def File.truncated : File := { bytes := fun _ => 0, size := 0 }

def File.write (f : File) (off count : Nat) (data : Nat → UInt8) : File :=
  if count = 0 then f
  else { bytes := blit f.bytes off count data, size := max f.size (off + count) }

/-- Whether the context is created and the file opens; how many bytes a call of
`vn_rdwr` can place, and whether it reports an error. -/
structure Outcome where
  opens : Bool
  room : Nat
  error : Bool
  deriving DecidableEq

/-- Where a thread stands. The first four places are those of the lazy flush
before it calls the flush, the last two those behind it. -/
inductive Pc where
  | idle
  | checkTries
  | loadLen
  | compare (len : Nat)
  | spend
  | checkEmpty
  | opening
  | snapshot
  | writing (len off : Nat)
  | checkOverflow (len off : Nat)
  | marking (len off : Nat)
  | closing (rc : Int) (len : Nat)
  | loadFlushed
  | storeFlushed (len : Nat)
  deriving DecidableEq

structure Thread where
  isLazy : Bool
  pc : Pc
  deriving DecidableEq

/-- One step of `mfb_klog_flush`, or of `mfb_klog_flush_lazy` around it. -/
def flushStep (s : Klog) (f : File) (isLazy : Bool) (o : Outcome) : Pc → Klog × File × Pc
  | .idle => (s, f, .idle)
  | .checkTries => (s, f, if s.gTriesLeft ≤ 0 then .idle else .loadLen)
  | .loadLen => (s, f, .compare s.gLen)
  | .compare len => (s, f, if len = s.gFlushedLen ∧ s.gFlushedLen ≠ 0 then .idle else .spend)
  | .spend => ({ s with gTriesLeft := s.gTriesLeft - 1 }, f, .checkEmpty)
  | .checkEmpty => (s, f, if s.gLen = 0 then .idle else .opening)
  | .opening => if o.opens then (s, .truncated, .snapshot) else (s, f, .idle)
  | .snapshot => (s, f, .writing s.gLen 0)
  | .writing len off =>
    if off < len then
      let put := min o.room (len - off)
      let f := f.write off put fun i => s.gBuf (off + i)
      -- An error and an empty write both give the file up.
      if o.error ∨ put = 0 then (s, f, .closing (-1) len) else (s, f, .writing len (off + put))
    else (s, f, .checkOverflow len off)
  | .checkOverflow len off => (s, f, if s.gOverflow then .marking len off else .closing 0 len)
  | .marking len off => (s, f.write off (min o.room tail.length) (tail.getD · 0), .closing 0 len)
  | .closing rc len =>
    (if rc = 0 then { s with gFlushedLen := len } else s, f,
      if rc = 0 ∧ isLazy then .loadFlushed else .idle)
  | .loadFlushed => (s, f, .storeFlushed s.gLen)
  | .storeFlushed len => ({ s with gFlushedLen := len }, f, .idle)

/-- The log with the threads that flush it. Two fields are kept for the record:
the lines that were appended, and whether the last flush that opened the file
has returned 0. -/
structure World where
  log : Klog
  file : File
  threads : Nat → Thread
  lines : List (List UInt8)
  settled : Bool

/-- Some thread appends a line, calls a flush, or makes the next step of its call. -/
inductive Action where
  | printf (text : List UInt8)
  | call (thread : Nat) (isLazy : Bool)
  | step (thread : Nat) (o : Outcome)

def settles (settled : Bool) (o : Outcome) : Pc → Bool
  | .opening => if o.opens then false else settled
  | .closing rc _ => rc = 0 || settled
  | _ => settled

def act (w : World) : Action → World
  | .printf text => { w with log := mfbKlogVprintf w.log text, lines := w.lines ++ [cut text] }
  | .call thread isLazy =>
    if (w.threads thread).pc = .idle then
      let pc := if isLazy then Pc.checkTries else .checkEmpty
      { w with threads := Function.update w.threads thread ⟨isLazy, pc⟩ }
    else w
  | .step thread o =>
    let t := w.threads thread
    let next := flushStep w.log w.file t.isLazy o t.pc
    { w with
      log := next.1
      file := next.2.1
      threads := Function.update w.threads thread ⟨t.isLazy, next.2.2⟩
      settled := settles w.settled o t.pc }

/-- The log after `mfb_klog_init`, with the file of an earlier boot. -/
def start (file : File) (tries : Int) : World :=
  { log := ⟨fun _ => 0, 0, false, tries, 0⟩, file := file, threads := fun _ => ⟨false, .idle⟩
    lines := [], settled := false }

end GspDriver.MfbKlog
