import GspDriver.MfbKlog

/-!
What the persisted log is worth. The buffer holds the lines from the first on;
a flush that has the file for itself fills it with a start of the buffer; and
the flushed length counts bytes that are in the file. The last two hold only
while no append falls between the snapshot of the length and the one that is
stored for it, and while no rewrite is given up halfway.
-/

namespace GspDriver.KlogFlush

open Bytes Trace MfbKlog

/-- The log in the buffer. -/
def logged (s : Klog) : List UInt8 := flatRead s.gBuf 0 s.gLen

def contents (f : File) : List UInt8 := flatRead f.bytes 0 f.size

/-- The call has opened the file and has not returned. -/
def Busy : Pc → Prop
  | .snapshot | .writing .. | .checkOverflow .. | .marking .. | .closing .. | .loadFlushed
  | .storeFlushed _ => True
  | _ => False

def Resting (w : World) : Prop := ∀ thread, ¬ Busy (w.threads thread).pc

/-- What the log promises of a state. -/
structure Faithful (w : World) : Prop where
  concatenated : ∃ n, logged w.log = (w.lines.take n).flatten
  persisted : w.settled = true → ∃ n ≤ w.log.gLen, contents w.file = (logged w.log).take n ∨
    w.log.gOverflow = true ∧ contents w.file = (logged w.log).take n ++ tail
  covered : w.log.gFlushedLen ≤ w.log.gLen ∧
    (logged w.log).take w.log.gFlushedLen <+: contents w.file
  complete : w.log.gLen = w.log.gFlushedLen → logged w.log <+: contents w.file

/-! The condition on each action. -/

/-- The mark goes in whole or not at all; a rewrite that is given up has kept
what was flushed before; nothing was appended since the snapshot. -/
def InOrder (s : Klog) (f : File) (o : Outcome) : Pc → Prop
  | .marking _ _ => o.room = 0 ∨ tail.length ≤ o.room
  | .closing rc _ => rc ≠ 0 → s.gFlushedLen ≤ f.size
  | .loadFlushed => s.gLen = s.gFlushedLen
  | _ => True

/-- No line fits behind a dropped one, and a flush opens the file when no other
call has it. -/
def Orderly (w : World) : Action → Prop
  | .printf text => w.log.gOverflow = true →
      cut text = [] ∨ klogSize ≤ w.log.gLen + (cut text).length + 1
  | .call .. => True
  | .step thread o => InOrder w.log w.file o (w.threads thread).pc ∧
      ((w.threads thread).pc = .opening → o.opens = true → Resting w)

/-- The file is truncated only before the first flush has succeeded. -/
def Fresh (w : World) : Action → Prop
  | .step thread o =>
      (w.threads thread).pc = .opening → o.opens = true → w.log.gFlushedLen = 0
  | _ => True

/-! What is in the file. -/

/-- The first `k` bytes of the buffer are in the file. -/
structure Stored (s : Klog) (f : File) (k : Nat) : Prop where
  inBuffer : k ≤ s.gLen
  inFile : k ≤ f.size
  same : ∀ i < k, f.bytes i = s.gBuf i

def Marked (f : File) (k : Nat) : Prop :=
  f.size = k + tail.length ∧ ∀ i < tail.length, f.bytes (k + i) = tail.getD i 0

/-- The file is the first `k` bytes of the buffer, with or without the mark. -/
structure Whole (s : Klog) (f : File) (k : Nat) : Prop where
  stored : Stored s f k
  ends : f.size = k ∨ s.gOverflow = true ∧ Marked f k

section Files

variable {s : Klog} {f : File} {k off put : Nat}

theorem stored_zero (s : Klog) (f : File) : Stored s f 0 :=
  ⟨Nat.zero_le _, Nat.zero_le _, fun _ none => absurd none (Nat.not_lt_zero _)⟩

theorem stored_flushed (stored : Stored s f k) (len : Nat) :
    Stored { s with gFlushedLen := len } f k :=
  ⟨stored.inBuffer, stored.inFile, stored.same⟩

theorem stored_le (stored : Stored s f k) {less : Nat} (le : less ≤ k) : Stored s f less :=
  ⟨le.trans stored.inBuffer, le.trans stored.inFile, fun i inside => stored.same i (by omega)⟩

/-- A write behind them leaves them in place. -/
theorem stored_behind (stored : Stored s f k) (behind : k ≤ off) (data : Nat → UInt8) :
    Stored s (f.write off put data) k := by
  rw [File.write]
  split
  · exact stored
  · refine ⟨stored.inBuffer, le_max_of_le_left stored.inFile, ?_⟩
    intro i inside
    exact (blit_outside f.bytes off put data i (by omega)).trans (stored.same i inside)

theorem stored_write (stored : Stored s f off) (size : f.size = off) (short : off + put ≤ s.gLen) :
    Stored s (f.write off put fun i => s.gBuf (off + i)) (off + put) ∧
      (f.write off put fun i => s.gBuf (off + i)).size = off + put := by
  rw [File.write]
  split
  · rename_i empty
    rw [empty, Nat.add_zero]
    exact ⟨stored, size⟩
  · have ends : max f.size (off + put) = off + put := by omega
    refine ⟨⟨short, ends.ge, ?_⟩, ends⟩
    intro i inside
    by_cases earlier : i < off
    · have byte := blit_outside f.bytes off put (fun i => s.gBuf (off + i)) i (by omega)
      exact byte.trans (stored.same i earlier)
    · have byte := blit_inside f.bytes off put (fun i => s.gBuf (off + i)) i (by omega)
      rw [Nat.add_sub_of_le (by omega)] at byte
      exact byte

theorem whole_mark (stored : Stored s f k) (size : f.size = k) (overflow : s.gOverflow = true)
    {room : Nat} (whole : room = 0 ∨ tail.length ≤ room) :
    Whole s (f.write k (min room tail.length) (tail.getD · 0)) k := by
  refine ⟨stored_behind stored le_rfl _, ?_⟩
  rcases whole with rfl | whole
  · rw [Nat.zero_min, File.write, if_pos rfl]
    exact Or.inl size
  · rw [Nat.min_eq_right whole, File.write]
    split
    · exact Or.inl size
    · refine Or.inr ⟨overflow, by simp only [size]; omega, ?_⟩
      intro i inside
      have byte := blit_inside f.bytes k tail.length (tail.getD · 0) (k + i) (by omega)
      rw [Nat.add_sub_cancel_left] at byte
      exact byte

theorem stored_prefix (stored : Stored s f k) : (logged s).take k <+: contents f := by
  obtain ⟨rest, size⟩ := Nat.exists_eq_add_of_le stored.inFile
  have same : flatRead s.gBuf 0 k = flatRead f.bytes 0 k := by
    apply flatRead_congr
    intro i inside
    rw [Nat.zero_add]
    exact (stored.same i inside).symm
  rw [logged, flatRead_take _ _ stored.inBuffer, contents, size, flatRead_add, same]
  exact List.prefix_append _ _

theorem whole_contents (whole : Whole s f k) : contents f = (logged s).take k ∨
    s.gOverflow = true ∧ contents f = (logged s).take k ++ tail := by
  obtain ⟨rest, joined⟩ := stored_prefix whole.stored
  have taken : ((logged s).take k).length = k := by
    rw [logged, flatRead_take _ _ whole.stored.inBuffer, flatRead_length]
  have total : k + rest.length = f.size := by
    rw [← taken, ← List.length_append, joined, contents, flatRead_length]
  rcases whole.ends with size | ⟨overflow, size, mark⟩
  · left
    have none : rest = [] := List.eq_nil_of_length_eq_zero (by omega)
    rw [← joined, none, List.append_nil]
  · right
    refine ⟨overflow, ?_⟩
    rw [contents, size, flatRead_add, Nat.zero_add, flatRead_list mark]
    rw [contents, size, flatRead_add] at joined
    rw [(List.append_inj joined (by rw [taken, flatRead_length])).1]

end Files

/-! One step of a call, and the place where it leaves the thread. -/

/-- What holds at each place of a call that has the file for itself. -/
def Phase (s : Klog) (f : File) (settled : Bool) : Pc → Prop
  | .snapshot => settled = false ∧ f.size = 0
  | .writing len off =>
      settled = false ∧ off ≤ len ∧ len ≤ s.gLen ∧ f.size = off ∧ Stored s f off
  | .checkOverflow len off => settled = false ∧ off = len ∧ f.size = len ∧ Stored s f len
  | .marking len off =>
      settled = false ∧ off = len ∧ f.size = len ∧ Stored s f len ∧ s.gOverflow = true
  | .closing rc len => if rc = 0 then Whole s f len else Stored s f f.size
  | .loadFlushed => Stored s f s.gFlushedLen
  | .storeFlushed len => Stored s f len
  | _ => True

section Steps

variable {s : Klog} {f : File} {isLazy settled : Bool} {o : Outcome} {pc : Pc}

theorem phase_free (free : ¬ Busy pc) : Phase s f settled pc := by
  cases pc with
  | idle | checkTries | loadLen | compare | spend | checkEmpty | opening => trivial
  | snapshot | writing | checkOverflow | marking | closing | loadFlushed | storeFlushed =>
      exact absurd trivial free

/-- A step of a flush leaves the buffer alone. -/
theorem step_buffer : (flushStep s f isLazy o pc).1.gBuf = s.gBuf ∧
    (flushStep s f isLazy o pc).1.gLen = s.gLen ∧
    (flushStep s f isLazy o pc).1.gOverflow = s.gOverflow := by
  cases pc with
  | closing rc len =>
      simp only [flushStep]
      split <;> exact ⟨rfl, rfl, rfl⟩
  | opening =>
      simp only [flushStep]
      split <;> exact ⟨rfl, rfl, rfl⟩
  | writing len off =>
      simp only [flushStep]
      split
      · split <;> exact ⟨rfl, rfl, rfl⟩
      · exact ⟨rfl, rfl, rfl⟩
  | _ => exact ⟨rfl, rfl, rfl⟩

/-- Before it opens the file a call changes nothing of what is flushed. -/
theorem step_quiet (free : ¬ Busy pc) (shut : pc = .opening → o.opens = false) :
    (flushStep s f isLazy o pc).2.1 = f ∧
      (flushStep s f isLazy o pc).1.gFlushedLen = s.gFlushedLen ∧
      settles settled o pc = settled ∧ ¬ Busy (flushStep s f isLazy o pc).2.2 := by
  cases pc with
  | idle | loadLen | spend => exact ⟨rfl, rfl, rfl, id⟩
  | checkTries | compare | checkEmpty =>
      refine ⟨rfl, rfl, rfl, ?_⟩
      simp only [flushStep]
      split <;> exact id
  | opening =>
      simp only [flushStep, settles, shut rfl, Bool.false_eq_true, ↓reduceIte]
      exact ⟨trivial, trivial, trivial, id⟩
  | snapshot | writing | checkOverflow | marking | closing | loadFlushed | storeFlushed =>
      exact absurd trivial free

theorem step_phase (busy : Busy pc) (phase : Phase s f settled pc) (inOrder : InOrder s f o pc) :
    Phase (flushStep s f isLazy o pc).1 (flushStep s f isLazy o pc).2.1 (settles settled o pc)
      (flushStep s f isLazy o pc).2.2 := by
  cases pc with
  | idle | checkTries | loadLen | compare | spend | checkEmpty | opening => exact absurd busy id
  | snapshot => exact ⟨phase.1, Nat.zero_le _, le_rfl, phase.2, stored_zero s f⟩
  | writing len off =>
      obtain ⟨open_, short, inBuffer, size, stored⟩ := phase
      simp only [flushStep]
      split
      · obtain ⟨more, ends⟩ :=
          @stored_write s f off (min o.room (len - off)) stored size (by omega)
        split
        · simp only [Phase, ends]
          exact more
        · exact ⟨open_, by omega, inBuffer, ends, more⟩
      · obtain rfl : off = len := by omega
        exact ⟨open_, rfl, size, stored⟩
  | checkOverflow len off =>
      obtain ⟨open_, rfl, size, stored⟩ := phase
      simp only [flushStep]
      split
      · rename_i overflow
        exact ⟨open_, rfl, size, stored, overflow⟩
      · exact ⟨stored, Or.inl size⟩
  | marking len off =>
      obtain ⟨_, rfl, size, stored, overflow⟩ := phase
      exact whole_mark stored size overflow inOrder
  | closing rc len =>
      simp only [flushStep]
      by_cases success : rc = 0
      · simp only [Phase, if_pos success] at phase
        cases isLazy with
        | false =>
            simp only [success, Bool.false_eq_true, and_false, ↓reduceIte]
            trivial
        | true =>
            simp only [success, and_self, ↓reduceIte]
            exact stored_flushed phase.stored len
      · simp only [success, false_and, ↓reduceIte]
        trivial
  | loadFlushed =>
      have same : s.gLen = s.gFlushedLen := inOrder
      simp only [flushStep, Phase, same]
      exact phase
  | storeFlushed => trivial

/-- The flushed length follows the file, at every step or once the call returns. -/
theorem step_covered (busy : Busy pc) (phase : Phase s f settled pc) (inOrder : InOrder s f o pc)
    (before : Stored s f s.gFlushedLen ∨ ¬ Busy (flushStep s f isLazy o pc).2.2) :
    Stored (flushStep s f isLazy o pc).1 (flushStep s f isLazy o pc).2.1
      (flushStep s f isLazy o pc).1.gFlushedLen := by
  cases pc with
  | idle | checkTries | loadLen | compare | spend | checkEmpty | opening => exact absurd busy id
  -- Up to the mark the call stays in the file, and writes only behind its end.
  | snapshot => exact before.resolve_right (not_not_intro trivial)
  | writing len off =>
      obtain ⟨_, _, _, size, _⟩ := phase
      have inside : Busy (flushStep s f isLazy o (.writing len off)).2.2 := by
        simp only [flushStep]
        split
        · split <;> trivial
        · trivial
      have covered := before.resolve_right (not_not_intro inside)
      simp only [flushStep]
      split
      · split <;> exact stored_behind covered (size ▸ covered.inFile) _
      · exact covered
  | checkOverflow len off =>
      have inside : Busy (flushStep s f isLazy o (.checkOverflow len off)).2.2 := by
        simp only [flushStep]
        split <;> trivial
      exact before.resolve_right (not_not_intro inside)
  | marking len off =>
      obtain ⟨_, rfl, size, _⟩ := phase
      have covered := before.resolve_right (not_not_intro trivial)
      exact stored_behind covered (size ▸ covered.inFile) _
  | closing rc len =>
      by_cases success : rc = 0
      · simp only [Phase, if_pos success] at phase
        simp only [flushStep, if_pos success]
        exact stored_flushed phase.stored len
      · simp only [Phase, if_neg success] at phase
        simp only [flushStep, if_neg success]
        exact stored_le phase (inOrder success)
  | loadFlushed => exact phase
  | storeFlushed len => exact stored_flushed phase len

/-- A successful return leaves a whole file, and nothing writes to it after. -/
theorem step_settled (busy : Busy pc) (phase : Phase s f settled pc)
    (before : settled = true → ∃ k, Whole s f k) (after : settles settled o pc = true) :
    ∃ k, Whole (flushStep s f isLazy o pc).1 (flushStep s f isLazy o pc).2.1 k := by
  cases pc with
  | idle | checkTries | loadLen | compare | spend | checkEmpty | opening => exact absurd busy id
  | snapshot | writing | checkOverflow | marking =>
      exact absurd (phase.1.symm.trans after) Bool.false_ne_true
  | closing rc len =>
      by_cases success : rc = 0
      · simp only [Phase, if_pos success] at phase
        simp only [flushStep, if_pos success]
        exact ⟨len, stored_flushed phase.stored len, phase.ends⟩
      · simp only [settles, success, decide_false, Bool.false_or] at after
        simp only [flushStep, if_neg success]
        exact before after
  | loadFlushed => exact before after
  | storeFlushed len =>
      obtain ⟨k, stored, ends⟩ := before after
      exact ⟨k, stored_flushed stored len, ends⟩

end Steps

/-! An append. -/

section Append

variable {s : Klog} {f : File} {settled : Bool} {text : List UInt8} {k : Nat}

/-- An append leaves the buffer that was there, and what is said of it. -/
structure Grows (s s' : Klog) : Prop where
  length : s.gLen ≤ s'.gLen
  same : ∀ i < s.gLen, s'.gBuf i = s.gBuf i
  overflow : s.gOverflow = true → s'.gOverflow = true
  flushed : s'.gFlushedLen = s.gFlushedLen

/-- The line is kept behind the others, or the buffer stays as it is. -/
theorem append_cases (s : Klog) (text : List UInt8) :
    (cut text = [] ∧ mfbKlogVprintf s text = s) ∨
    (klogSize ≤ s.gLen + (cut text).length + 1 ∧
      mfbKlogVprintf s text = { s with gOverflow := true }) ∨
    (cut text ≠ [] ∧ s.gLen + (cut text).length + 1 < klogSize ∧
      Grows s (mfbKlogVprintf s text) ∧ (mfbKlogVprintf s text).gOverflow = s.gOverflow ∧
      (mfbKlogVprintf s text).gLen = s.gLen + (cut text).length ∧
      logged (mfbKlogVprintf s text) = logged s ++ cut text) := by
  rw [mfbKlogVprintf]
  by_cases empty : (cut text).length = 0
  · left
    exact ⟨List.eq_nil_of_length_eq_zero empty, if_pos empty⟩
  right
  by_cases full : s.gLen + (cut text).length + 1 ≥ klogSize
  · left
    refine ⟨full, ?_⟩
    rw [if_neg empty, if_pos full]
  · right
    simp only [if_neg empty, if_neg full]
    have byte : ∀ i < s.gLen + (cut text).length,
        put (blit s.gBuf s.gLen (cut text).length ((cut text).getD · 0))
          (s.gLen + (cut text).length) 0 i =
        blit s.gBuf s.gLen (cut text).length ((cut text).getD · 0) i := by
      intro i inside
      exact if_neg (by omega)
    have old : ∀ i < s.gLen, put (blit s.gBuf s.gLen (cut text).length ((cut text).getD · 0))
        (s.gLen + (cut text).length) 0 i = s.gBuf i := by
      intro i inside
      rw [byte i (by omega), blit_outside _ _ _ _ _ (by omega)]
    refine ⟨fun none => empty (none ▸ rfl), by omega, ⟨by simp, old, id, rfl⟩, trivial, trivial, ?_⟩
    simp only [logged, flatRead_add, Nat.zero_add]
    congr 1
    · apply flatRead_congr
      intro i inside
      rw [Nat.zero_add]
      exact old i inside
    · apply flatRead_list
      intro i inside
      rw [byte _ (by omega), blit_inside _ _ _ _ _ (by omega), Nat.add_sub_cancel_left]

theorem append_grows (s : Klog) (text : List UInt8) : Grows s (mfbKlogVprintf s text) := by
  rcases append_cases s text with ⟨_, same⟩ | ⟨_, dropped⟩ | ⟨_, _, grows, _⟩
  · rw [same]
    exact ⟨le_rfl, fun _ _ => rfl, id, rfl⟩
  · rw [dropped]
    exact ⟨le_rfl, fun _ _ => rfl, fun _ => rfl, rfl⟩
  · exact grows

theorem stored_grows {s' : Klog} (grows : Grows s s') (stored : Stored s f k) : Stored s' f k := by
  refine ⟨stored.inBuffer.trans grows.length, stored.inFile, ?_⟩
  intro i inside
  rw [grows.same i (lt_of_lt_of_le inside stored.inBuffer)]
  exact stored.same i inside

theorem whole_grows {s' : Klog} (grows : Grows s s') (whole : Whole s f k) : Whole s' f k :=
  ⟨stored_grows grows whole.stored, whole.ends.imp id fun ⟨overflow, mark⟩ =>
    ⟨grows.overflow overflow, mark⟩⟩

theorem phase_grows {s' : Klog} (grows : Grows s s') {pc : Pc} (phase : Phase s f settled pc) :
    Phase s' f settled pc := by
  cases pc with
  | idle | checkTries | loadLen | compare | spend | checkEmpty | opening => trivial
  | snapshot => exact phase
  | writing len off =>
      obtain ⟨open_, short, inBuffer, size, stored⟩ := phase
      exact ⟨open_, short, inBuffer.trans grows.length, size, stored_grows grows stored⟩
  | checkOverflow len off =>
      obtain ⟨open_, whole, size, stored⟩ := phase
      exact ⟨open_, whole, size, stored_grows grows stored⟩
  | marking len off =>
      obtain ⟨open_, whole, size, stored, overflow⟩ := phase
      exact ⟨open_, whole, size, stored_grows grows stored, grows.overflow overflow⟩
  | closing rc len =>
      by_cases success : rc = 0
      · simp only [Phase, if_pos success] at phase ⊢
        exact whole_grows grows phase
      · simp only [Phase, if_neg success] at phase ⊢
        exact stored_grows grows phase
  | loadFlushed =>
      simp only [Phase, grows.flushed] at phase ⊢
      exact stored_grows grows phase
  | storeFlushed len => exact stored_grows grows phase

end Append

/-! The invariant of every run. If `strict`, the flushed length is right in every
state, else in those in which no call has the file open. -/

structure Inv (strict : Prop) (w : World) : Prop where
  room : w.log.gLen + 1 < klogSize
  all : w.log.gOverflow = false → logged w.log = w.lines.flatten
  first : ∃ n, logged w.log = (w.lines.take n).flatten
  alone : Exclusive (fun t : Thread => Busy t.pc) w.threads
  phase : ∀ thread, Phase w.log w.file w.settled (w.threads thread).pc
  settled : w.settled = true → ∃ k, Whole w.log w.file k
  covered : strict ∨ Resting w → Stored w.log w.file w.log.gFlushedLen

section World

variable {strict : Prop} {w : World}

theorem inv_faithful (inv : Inv strict w) (visible : strict ∨ Resting w) : Faithful w := by
  have covered := inv.covered visible
  have stored := stored_prefix covered
  refine ⟨inv.first, ?_, ⟨covered.inBuffer, stored⟩, ?_⟩
  · intro settled
    obtain ⟨k, whole⟩ := inv.settled settled
    exact ⟨k, whole.stored.inBuffer, whole_contents whole⟩
  · intro flushed
    rw [← flushed, List.take_of_length_le (by rw [logged, flatRead_length])] at stored
    exact stored

theorem inv_start (strict : Prop) (file : File) (tries : Int) : Inv strict (start file tries) where
  room := show 0 + 1 < klogSize by decide
  all := fun _ => rfl
  first := ⟨0, rfl⟩
  alone := fun _ _ busy => absurd busy id
  phase := fun _ => trivial
  settled := fun none => absurd none Bool.false_ne_true
  covered := fun _ => stored_zero _ _

theorem inv_printf {text : List UInt8} (orderly : Orderly w (.printf text)) (inv : Inv strict w) :
    Inv strict (act w (.printf text)) := by
  have grows := append_grows w.log text
  obtain ⟨room, all, ⟨n, first⟩, alone, phase, settled, covered⟩ := inv
  -- The lines so far keep their places when one more is appended.
  have kept : (w.lines.take n).flatten =
      ((w.lines ++ [cut text]).take (min n w.lines.length)).flatten := by
    rw [List.take_append_of_le_length (min_le_right _ _), ← List.take_take, List.take_length]
  have appended : (mfbKlogVprintf w.log text).gLen + 1 < klogSize ∧
      ((mfbKlogVprintf w.log text).gOverflow = false →
        logged (mfbKlogVprintf w.log text) = (w.lines ++ [cut text]).flatten) ∧
      ∃ n, logged (mfbKlogVprintf w.log text) = ((w.lines ++ [cut text]).take n).flatten := by
    rw [List.flatten_append, List.flatten_singleton]
    rcases append_cases w.log text with ⟨empty, same⟩ | ⟨full, dropped⟩ |
      ⟨some, fits, _, flag, length, longer⟩
    · rw [same]
      refine ⟨room, ?_, _, first.trans kept⟩
      intro clear
      rw [empty, List.append_nil]
      exact all clear
    · rw [dropped]
      exact ⟨room, fun clear => absurd clear.symm Bool.false_ne_true, _, first.trans kept⟩
    · have clear : w.log.gOverflow = false := by
        by_contra overflow
        rcases orderly (Bool.eq_true_of_not_eq_false overflow) with empty | full
        · exact some empty
        · omega
      rw [length, longer, all clear]
      refine ⟨by omega, fun _ => rfl, w.lines.length + 1, ?_⟩
      rw [List.take_of_length_le (by simp), List.flatten_append, List.flatten_singleton]
  exact ⟨appended.1, appended.2.1, appended.2.2, alone,
    fun thread => phase_grows grows (phase thread),
    fun success => (settled success).imp fun _ whole => whole_grows grows whole,
    fun visible => grows.flushed ▸ stored_grows grows (covered visible)⟩

/-- A thread that moves between places outside of the file. -/
theorem resting_move {threads : Nat → Thread} {thread : Nat} {isLazy : Bool} {pc : Pc}
    (before : ¬ Busy (threads thread).pc)
    (resting : ∀ other, ¬ Busy (Function.update threads thread ⟨isLazy, pc⟩ other).pc) :
    ∀ other, ¬ Busy (threads other).pc := by
  intro other
  by_cases same : other = thread
  · rw [same]
    exact before
  · have there := resting other
    rw [Function.update_of_ne same] at there
    exact there

theorem resting_here {threads : Nat → Thread} {thread : Nat} {isLazy : Bool} {pc : Pc}
    (resting : ∀ other, ¬ Busy (Function.update threads thread ⟨isLazy, pc⟩ other).pc) :
    ¬ Busy pc := by
  have here := resting thread
  rw [Function.update_self] at here
  exact here

/-- What each thread keeps when one of them moves. -/
theorem phase_move {s : Klog} {f : File} {settled : Bool} {threads : Nat → Thread} {thread : Nat}
    {isLazy : Bool} {pc : Pc} (here : Phase s f settled pc)
    (others : ∀ other, other ≠ thread → Phase s f settled (threads other).pc) (other : Nat) :
    Phase s f settled (Function.update threads thread ⟨isLazy, pc⟩ other).pc := by
  by_cases same : other = thread
  · rw [same, Function.update_self]
    exact here
  · rw [Function.update_of_ne same]
    exact others other same

theorem inv_call {thread : Nat} {isLazy : Bool} (inv : Inv strict w) :
    Inv strict (act w (.call thread isLazy)) := by
  rw [act]
  split
  · rename_i idle
    have free : ¬ Busy (w.threads thread).pc := by
      rw [idle]
      exact id
    have outside : ¬ Busy (if isLazy then Pc.checkTries else .checkEmpty) := by
      cases isLazy <;> exact id
    exact ⟨inv.room, inv.all, inv.first,
      exclusive_move inv.alone fun enters => absurd enters outside,
      phase_move (phase_free outside) fun other _ => inv.phase other, inv.settled,
      fun visible => inv.covered (visible.imp id (resting_move free))⟩
  · exact inv

theorem logged_step {f : File} {isLazy : Bool} {o : Outcome} {pc : Pc} (s : Klog) :
    logged (flushStep s f isLazy o pc).1 = logged s := by
  obtain ⟨buffer, length, _⟩ := @step_buffer s f isLazy o pc
  rw [logged, buffer, length, logged]

/-- A step outside of the file changes only what its own thread knows. -/
theorem inv_quiet {thread : Nat} {o : Outcome} (free : ¬ Busy (w.threads thread).pc)
    (shut : (w.threads thread).pc = .opening → o.opens = false) (inv : Inv strict w) :
    Inv strict (act w (.step thread o)) := by
  obtain ⟨buffer, length, overflow⟩ :=
    @step_buffer w.log w.file (w.threads thread).isLazy o (w.threads thread).pc
  obtain ⟨file, flushed, settled, outside⟩ := @step_quiet w.log w.file
    (w.threads thread).isLazy w.settled o (w.threads thread).pc free shut
  have grows : Grows w.log
      (flushStep w.log w.file (w.threads thread).isLazy o (w.threads thread).pc).1 :=
    ⟨length.ge, fun i _ => by rw [buffer], fun set => overflow.trans set, flushed⟩
  rw [act]
  simp only [file, settled]
  refine ⟨length ▸ inv.room, ?_, ?_, exclusive_move inv.alone fun enters => absurd enters outside,
    phase_move (phase_free outside) fun other _ => phase_grows grows (inv.phase other),
    fun success => (inv.settled success).imp fun _ whole => whole_grows grows whole, ?_⟩
  · intro clear
    rw [logged_step]
    exact inv.all (overflow ▸ clear)
  · rw [logged_step]
    exact inv.first
  · intro visible
    rw [flushed]
    exact stored_grows grows (inv.covered (visible.imp id (resting_move free)))

/-- The file is truncated while no other call has it. -/
theorem inv_opening {thread : Nat} {o : Outcome} (here : (w.threads thread).pc = .opening)
    (opens : o.opens = true) (resting : Resting w) (fresh : strict → w.log.gFlushedLen = 0)
    (inv : Inv strict w) : Inv strict (act w (.step thread o)) := by
  rw [act]
  simp only [here, flushStep, settles, opens, ↓reduceIte]
  refine ⟨inv.room, inv.all, inv.first, exclusive_move inv.alone fun _ => Or.inr resting,
    phase_move ⟨rfl, rfl⟩ fun other _ => phase_free (resting other),
    fun success => absurd success Bool.false_ne_true, ?_⟩
  rintro (always | rests)
  · rw [fresh always]
    exact stored_zero _ _
  · exact absurd trivial (resting_here rests)

/-- A step of the call that has the file. -/
theorem inv_busy {thread : Nat} {o : Outcome} (busy : Busy (w.threads thread).pc)
    (inOrder : InOrder w.log w.file o (w.threads thread).pc) (inv : Inv strict w) :
    Inv strict (act w (.step thread o)) := by
  obtain ⟨_, length, overflow⟩ :=
    @step_buffer w.log w.file (w.threads thread).isLazy o (w.threads thread).pc
  have phase := inv.phase thread
  have others : ∀ other, other ≠ thread → ¬ Busy (w.threads other).pc :=
    fun other distinct there => distinct (inv.alone other thread there busy)
  rw [act]
  refine ⟨length ▸ inv.room, ?_, ?_, exclusive_move inv.alone fun _ => Or.inl busy,
    phase_move (step_phase busy phase inOrder) fun other distinct =>
      phase_free (others other distinct),
    step_settled busy phase inv.settled, ?_⟩
  · intro clear
    rw [logged_step]
    exact inv.all (overflow ▸ clear)
  · rw [logged_step]
    exact inv.first
  · intro visible
    apply step_covered busy phase inOrder
    rcases visible with always | resting
    · exact Or.inl (inv.covered (Or.inl always))
    · exact Or.inr (resting_here resting)

theorem inv_act (w : World) (action : Action) (orderly : Orderly w action)
    (fresh : strict → Fresh w action) (inv : Inv strict w) : Inv strict (act w action) := by
  cases action with
  | printf text => exact inv_printf orderly inv
  | call thread isLazy => exact inv_call inv
  | step thread o =>
      by_cases busy : Busy (w.threads thread).pc
      · exact inv_busy busy orderly.1 inv
      · by_cases opens : (w.threads thread).pc = .opening ∧ o.opens = true
        · exact inv_opening opens.1 opens.2 (orderly.2 opens.1 opens.2)
            (fun always => fresh always opens.1 opens.2) inv
        · exact inv_quiet busy (fun here => by simpa [here] using opens) inv

/-- Only the step that opens the file asks for the other threads. -/
theorem orderly_elsewhere {thread : Nat} {o : Outcome} (here : (w.threads thread).pc ≠ .opening)
    (inOrder : InOrder w.log w.file o (w.threads thread).pc) : Orderly w (.step thread o) :=
  ⟨inOrder, fun there => absurd there here⟩

theorem elsewhere {thread : Nat} {o : Outcome} (here : (w.threads thread).pc ≠ .opening)
    (inOrder : InOrder w.log w.file o (w.threads thread).pc) :
    Orderly w (.step thread o) ∧ Fresh w (.step thread o) :=
  ⟨orderly_elsewhere here inOrder, fun there => absurd there here⟩

end World

/-- In every run whose actions meet the condition the log is what it promises,
in every state; if the file is truncated again, in every state in which no call
has it open. -/
theorem persisted_log_faithful (file : File) (tries : Int) (actions : List Action) :
    (Admitted act (fun w action => Orderly w action ∧ Fresh w action) (start file tries) actions →
      Faithful (run act (start file tries) actions)) ∧
    (Admitted act Orderly (start file tries) actions →
      Resting (run act (start file tries) actions) →
      Faithful (run act (start file tries) actions)) := by
  constructor
  · intro admitted
    have inv : Inv True (run act (start file tries) actions) :=
      run_invariant (fun w action allowed inv =>
        inv_act w action allowed.1 (fun _ => allowed.2) inv) admitted (inv_start True file tries)
    exact inv_faithful inv (Or.inl trivial)
  · intro admitted resting
    have inv : Inv False (run act (start file tries) actions) :=
      run_invariant (fun w action allowed inv =>
        inv_act w action allowed False.elim inv) admitted (inv_start False file tries)
    exact inv_faithful inv (Or.inr resting)

def fine : Outcome := { opens := true, room := 4096, error := false }

/-- A lazy flush of two lines. The second line comes before it takes its length, and
another caller waits with a flush of its own. -/
def lazyFlush : List Action :=
  [.printf [97], .call 0 true, .step 0 fine, .step 0 fine, .printf [98], .call 1 false,
    .step 0 fine, .step 1 fine] ++ List.replicate 10 (.step 0 fine)

/-- The other caller's flush, of three lines, with a fourth one while it writes. -/
def nextFlush : List Action :=
  [.printf [99], .step 1 fine, .step 1 fine, .printf [100]] ++ List.replicate 4 (.step 1 fine)

theorem lazyFlush_admitted :
    Admitted act (fun w action => Orderly w action ∧ Fresh w action) (start .truncated klogTries)
      lazyFlush := by
  have clear : Resting (run act (start .truncated klogTries) (lazyFlush.take 10)) := by
    rintro (_ | _ | other) <;> exact id
  refine ⟨⟨fun set => absurd set Bool.false_ne_true, trivial⟩, ⟨trivial, trivial⟩,
    elsewhere (by decide) trivial, elsewhere (by decide) trivial,
    ⟨fun set => absurd set Bool.false_ne_true, trivial⟩, ⟨trivial, trivial⟩,
    elsewhere (by decide) trivial, elsewhere (by decide) trivial, elsewhere (by decide) trivial,
    elsewhere (by decide) trivial, ⟨⟨trivial, fun _ _ => clear⟩, fun _ _ => rfl⟩, ?_⟩
  exact ⟨elsewhere (by decide) trivial, elsewhere (by decide) trivial,
    elsewhere (by decide) trivial, elsewhere (by decide) trivial,
    elsewhere (by decide) fun fails => absurd rfl fails, elsewhere (by decide) rfl,
    elsewhere (by decide) trivial, trivial⟩

theorem nextFlush_admitted : Admitted act Orderly
    (run act (start .truncated klogTries) lazyFlush) nextFlush := by
  have clear : Resting (run act (start .truncated klogTries) (lazyFlush ++ nextFlush.take 1)) := by
    rintro (_ | _ | other) <;> exact id
  exact ⟨fun set => absurd set Bool.false_ne_true, ⟨trivial, fun _ _ => clear⟩,
    orderly_elsewhere (by decide) trivial, fun set => absurd set Bool.false_ne_true,
    orderly_elsewhere (by decide) trivial, orderly_elsewhere (by decide) trivial,
    orderly_elsewhere (by decide) trivial,
    orderly_elsewhere (by decide) fun fails => absurd rfl fails, trivial⟩

/-- Both hold of what two callers and four lines make of the file. -/
theorem persisted_log_faithful_two_callers :
    (Faithful (run act (start .truncated klogTries) lazyFlush) ∧
      (run act (start .truncated klogTries) lazyFlush).log.gFlushedLen = 2) ∧
    Faithful (run act (start .truncated klogTries) (lazyFlush ++ nextFlush)) ∧
      (run act (start .truncated klogTries) (lazyFlush ++ nextFlush)).log.gFlushedLen = 3 ∧
      (run act (start .truncated klogTries) (lazyFlush ++ nextFlush)).log.gLen = 4 := by
  have first := lazyFlush_admitted
  have whole : Admitted act Orderly (start .truncated klogTries) (lazyFlush ++ nextFlush) :=
    admitted_append.mpr ⟨admitted_weaken (fun _ _ both => both.1) first, nextFlush_admitted⟩
  have resting : Resting (run act (start .truncated klogTries) (lazyFlush ++ nextFlush)) := by
    rintro (_ | _ | other) <;> exact id
  exact ⟨⟨(persisted_log_faithful .truncated klogTries lazyFlush).1 first, rfl⟩,
    (persisted_log_faithful .truncated klogTries (lazyFlush ++ nextFlush)).2 whole resting,
    rfl, rfl⟩

/-- A second line comes while the first one is written by a lazy flush. -/
def lateLine : List Action :=
  [.printf [97], .call 0 true] ++ List.replicate 8 (.step 0 fine) ++ [.printf [98]] ++
    List.replicate 5 (.step 0 fine)

theorem late_line_counted :
    (run act (start .truncated klogTries) lateLine).log.gLen = 2 ∧
      (run act (start .truncated klogTries) lateLine).log.gFlushedLen = 2 ∧
      (run act (start .truncated klogTries) lateLine).file.size = 1 ∧
      ((run act (start .truncated klogTries) lateLine).threads 0).pc = .idle ∧
      ¬ Faithful (run act (start .truncated klogTries) lateLine) := by
  refine ⟨rfl, rfl, rfl, rfl, ?_⟩
  intro faithful
  have whole := (faithful.complete rfl).length_le
  rw [logged, contents, flatRead_length, flatRead_length] at whole
  exact absurd whole (by decide)

end GspDriver.KlogFlush
