import GspDriver.Base.Trace

/-!
Command buffers of a host and its engines. For every channel the host stores
the words of one program, publishes how far they go and looks whether the
engine has come there; after some looks it goes on in any case. An engine takes
packet after packet, each as long as its first word says, and only what has
been published. A host that follows a plan is never overtaken, whatever the
order of their turns.
-/

namespace GspDriver.CommandStream

open Trace

universe u v
variable {Chan : Type u} {Word : Type v} [DecidableEq Chan]

inductive Op (Chan : Type u) (Word : Type v) where
  | store (chan : Chan) (slot : Nat) (word : Word)
  | publish (chan : Chan) (count : Nat)
  | look (chan : Chan) (count tries : Nat)
  | other

/-- `seen` is how the looks ended, oldest first, and `waited` counts those in
vain since the last one that ended. -/
structure Machine (Chan : Type u) (Word : Type v) where
  slots : Chan → Nat → Word
  put : Chan → Nat
  get : Chan → Nat
  taken : Chan → List (List Word)
  left : List (Op Chan Word)
  seen : List Bool
  waited : Nat

inductive Turn (Chan : Type u) where
  | host
  | engine (chan : Chan)
  | idle

def Machine.looked (m : Machine Chan Word) (rest : List (Op Chan Word)) (found : Bool) :
    Machine Chan Word :=
  { m with left := rest, seen := m.seen ++ [found], waited := 0 }

def Machine.look (m : Machine Chan Word) (chan : Chan) (count tries : Nat)
    (rest : List (Op Chan Word)) : Machine Chan Word :=
  if m.get chan = count then m.looked rest true
  else if m.waited + 1 < tries then { m with waited := m.waited + 1 }
  else m.looked rest false

def Machine.host (m : Machine Chan Word) : Machine Chan Word :=
  match m.left with
  | [] => m
  | .store chan slot word :: rest =>
      { m with
        slots := Function.update m.slots chan (Function.update (m.slots chan) slot word)
        left := rest }
  | .publish chan count :: rest =>
      { m with put := Function.update m.put chan count, left := rest }
  | .look chan count tries :: rest => m.look chan count tries rest
  | .other :: rest => { m with left := rest }

variable (size : Word → Nat)

def Machine.packet (m : Machine Chan Word) (chan : Chan) : List Word :=
  (List.range (size (m.slots chan (m.get chan)))).map fun i => m.slots chan (m.get chan + i)

def Machine.engine (m : Machine Chan Word) (chan : Chan) : Machine Chan Word :=
  let next := m.get chan + size (m.slots chan (m.get chan))
  if next ≤ m.put chan then
    { m with
      get := Function.update m.get chan next
      taken := Function.update m.taken chan (m.taken chan ++ [m.packet size chan]) }
  else m

def step (m : Machine Chan Word) : Turn Chan → Machine Chan Word
  | .host => m.host
  | .engine chan => m.engine size chan
  | .idle => m

/-- What a host means to send: the packets of every channel, how many words may
be public after so many looks, and what each look is for. -/
structure Plan (Chan : Type u) {Word : Type v} (size : Word → Nat) where
  packets : Chan → List (List Word)
  sized : ∀ chan, ∀ packet ∈ packets chan, ∃ first, packet.head? = some first ∧
    size first = packet.length
  limit : Chan → Nat → Nat
  grows : ∀ chan, Monotone (limit chan)
  looks : Nat → Option (Chan × Nat)

variable {size} (plan : Plan Chan size)

/-- The operations store the words in order, each once, and publish no word
that is not there or that has to wait for a look. -/
def Plan.Follows : (Chan → Nat) → (Chan → Nat) → Nat → List (Op Chan Word) → Prop
  | _, _, _, [] => True
  | stored, put, looked, .store chan slot word :: rest =>
      slot = stored chan ∧ (plan.packets chan).flatten[slot]? = some word ∧
        Plan.Follows (Function.update stored chan (slot + 1)) put looked rest
  | stored, put, looked, .publish chan count :: rest =>
      put chan ≤ count ∧ count ≤ stored chan ∧ count ≤ plan.limit chan looked ∧
        Plan.Follows stored (Function.update put chan count) looked rest
  | stored, put, looked, .look chan count _ :: rest =>
      plan.looks looked = some (chan, count) ∧ Plan.Follows stored put (looked + 1) rest
  | stored, put, looked, .other :: rest => Plan.Follows stored put looked rest

section Scripts

variable {plan} {stored put : Chan → Nat} {looked : Nat} {rest : List (Op Chan Word)}

/-- A loop that stores the next words of the program. -/
theorem follows_stores {chan : Chan} {word : Nat → Word} (count : Nat) :
    ∀ {stored : Chan → Nat} {first : Nat}, stored chan = first →
      (∀ j, first ≤ j → j < first + count →
        (plan.packets chan).flatten[j]? = some (word j)) →
      plan.Follows (Function.update stored chan (first + count)) put looked rest →
      plan.Follows stored put looked
        ((List.range' first count).map (fun j => .store chan j (word j)) ++ rest) := by
  induction count with
  | zero =>
    intro stored first here _ follows
    rw [Nat.add_zero, ← here, Function.update_eq_self] at follows
    exact follows
  | succ count ih =>
    intro stored first here words follows
    refine ⟨here.symm, words first (Nat.le_refl _) (by omega), ih ?_ ?_ ?_⟩
    · exact Function.update_self ..
    · intro j above below
      exact words j (by omega) (by omega)
    · rw [Function.update_idem]
      have sum : first + 1 + count = first + (count + 1) := by omega
      rw [sum]
      exact follows

theorem follows_others {others : List (Op Chan Word)} (alien : ∀ op ∈ others, op = .other)
    (follows : plan.Follows stored put looked rest) :
    plan.Follows stored put looked (others ++ rest) := by
  induction others with
  | nil => exact follows
  | cons op others ih =>
    obtain rfl := alien op (List.mem_cons_self ..)
    exact ih fun op member => alien op (List.mem_cons_of_mem _ member)

/-- What has been stored is published and waited for. -/
theorem follows_wait {chan : Chan} {count tries : Nat} (forth : put chan ≤ count)
    (there : count ≤ stored chan) (limited : count ≤ plan.limit chan looked)
    (asked : plan.looks looked = some (chan, count))
    (follows : plan.Follows stored (Function.update put chan count) (looked + 1) rest) :
    plan.Follows stored put looked (.publish chan count :: .look chan count tries :: rest) :=
  ⟨forth, there, limited, asked, follows⟩

theorem follows_nil : plan.Follows stored put looked [] := trivial

end Scripts

/-- The place of a packet's words in the program. -/
theorem flatten_at {packets : List (List Word)} {k : Nat} {packet : List Word}
    (here : packets[k]? = some packet) {i : Nat} (inside : i < packet.length) :
    packets.flatten[(packets.take k).flatten.length + i]? = packet[i]? := by
  obtain ⟨short, rfl⟩ := List.getElem?_eq_some_iff.mp here
  have parts : packets.flatten =
      (packets.take k).flatten ++ (packets[k] ++ (packets.drop (k + 1)).flatten) := by
    conv_lhs => rw [← List.take_append_drop k packets, List.drop_eq_getElem_cons short]
    rw [List.flatten_append, List.flatten_cons]
  rw [parts, List.getElem?_append_right (Nat.le_add_right ..), Nat.add_sub_cancel_left,
    List.getElem?_append_left inside]

/-- One channel of a machine whose host has stored `stored` words of the program. -/
structure Plan.Tracks (m : Machine Chan Word) (stored : Nat) (chan : Chan) : Prop where
  behind : m.get chan ≤ m.put chan
  published : m.put chan ≤ stored
  limited : m.put chan ≤ plan.limit chan m.seen.length
  inside : stored ≤ (plan.packets chan).flatten.length
  words : ∀ i < stored, (plan.packets chan).flatten[i]? = some (m.slots chan i)
  read : ∃ k, m.taken chan = (plan.packets chan).take k ∧
    m.get chan = ((plan.packets chan).take k).flatten.length

structure Plan.Sound (m : Machine Chan Word) : Prop where
  tracks : ∃ stored : Chan → Nat, plan.Follows stored m.put m.seen.length m.left ∧
    ∀ chan, plan.Tracks m (stored chan) chan
  reached : ∀ k chan count, m.seen[k]? = some true → plan.looks k = some (chan, count) →
    count ≤ m.get chan

section Step

variable {plan} {m : Machine Chan Word} {stored : Nat} {chan : Chan}

omit [DecidableEq Chan] in
/-- A channel does not mind what happens to the others. -/
theorem tracks_congr {t : Machine Chan Word} (tracks : plan.Tracks m stored chan)
    (slots : t.slots chan = m.slots chan) (put : t.put chan = m.put chan)
    (get : t.get chan = m.get chan) (taken : t.taken chan = m.taken chan)
    (seen : m.seen.length ≤ t.seen.length) : plan.Tracks t stored chan := by
  refine ⟨?_, ?_, ?_, tracks.inside, ?_, ?_⟩
  · rw [get, put]
    exact tracks.behind
  · rw [put]
    exact tracks.published
  · rw [put]
    exact tracks.limited.trans (plan.grows chan seen)
  · rw [slots]
    exact tracks.words
  · rw [taken, get]
    exact tracks.read

/-- A word stored behind the last one. -/
theorem tracks_store {word : Word} {rest : List (Op Chan Word)}
    (tracks : plan.Tracks m stored chan)
    (next : (plan.packets chan).flatten[stored]? = some word) :
    plan.Tracks
      { m with
        slots := Function.update m.slots chan (Function.update (m.slots chan) stored word)
        left := rest } (stored + 1) chan := by
  refine ⟨tracks.behind, tracks.published.trans (Nat.le_succ _), tracks.limited, ?_, ?_,
    tracks.read⟩
  · exact (List.getElem?_eq_some_iff.mp next).1
  · intro i below
    simp only [Function.update_self]
    by_cases last : i = stored
    · rw [last, Function.update_self, next]
    · rw [Function.update_of_ne last]
      exact tracks.words i (by omega)

theorem tracks_publish {count : Nat} {rest : List (Op Chan Word)}
    (tracks : plan.Tracks m stored chan) (forth : m.put chan ≤ count) (there : count ≤ stored)
    (limited : count ≤ plan.limit chan m.seen.length) :
    plan.Tracks { m with put := Function.update m.put chan count, left := rest } stored chan := by
  refine ⟨?_, ?_, ?_, tracks.inside, tracks.words, tracks.read⟩
  all_goals simp only [Function.update_self]
  · exact tracks.behind.trans forth
  · exact there
  · exact limited

/-- The packet an engine takes is the next one of the program, and it is all there. -/
theorem tracks_engine (positive : ∀ word, 0 < size word) (tracks : plan.Tracks m stored chan) :
    plan.Tracks (m.engine size chan) stored chan ∧ m.get chan ≤ (m.engine size chan).get chan := by
  by_cases shown : m.get chan + size (m.slots chan (m.get chan)) ≤ m.put chan
  · obtain ⟨k, taken, get⟩ := tracks.read
    have first := positive (m.slots chan (m.get chan))
    have ahead : m.get chan < stored := by
      have published := tracks.published
      omega
    -- there is a packet left, or else all of the program would be taken
    have short : k < (plan.packets chan).length := by
      by_contra all
      rw [List.take_of_length_le (Nat.le_of_not_lt all)] at get
      have inside := tracks.inside
      omega
    have here : (plan.packets chan)[k]? = some (plan.packets chan)[k] :=
      List.getElem?_eq_getElem short
    generalize (plan.packets chan)[k] = packet at here
    obtain ⟨head, starts, sized⟩ := plan.sized chan packet (List.mem_of_getElem? here)
    have nonempty : 0 < packet.length := by
      rw [← sized]
      exact positive head
    have start : m.slots chan (m.get chan) = head := by
      have word := flatten_at here nonempty
      rw [Nat.add_zero, ← get, tracks.words _ ahead, ← List.head?_eq_getElem?, starts] at word
      exact Option.some.inj word
    have same : m.packet size chan = packet := by
      apply List.ext_getElem?
      intro i
      rw [Machine.packet, start, sized]
      by_cases inside : i < packet.length
      · rw [List.getElem?_map, List.getElem?_range inside, ← flatten_at here inside, ← get,
          tracks.words]
        · rfl
        · have published := tracks.published
          rw [start, sized] at shown
          omega
      · rw [List.getElem?_eq_none (by simpa using inside), List.getElem?_eq_none (by omega)]
    have longer : (plan.packets chan).take (k + 1) = (plan.packets chan).take k ++ [packet] := by
      rw [List.take_add_one, here]
      rfl
    rw [Machine.engine, if_pos shown]
    refine ⟨⟨?_, tracks.published, tracks.limited, tracks.inside, tracks.words, k + 1, ?_, ?_⟩, ?_⟩
    all_goals simp only [Function.update_self]
    · exact shown
    · rw [same, taken, longer]
    · rw [longer, List.flatten_append, List.length_append, ← get, start, sized,
        List.flatten_singleton]
    · exact Nat.le_add_right ..
  · rw [Machine.engine, if_neg shown]
    exact ⟨tracks, Nat.le_refl _⟩

/-- A look that ends: the engine is there, or the host has waited enough. -/
theorem sound_look {count tries : Nat} {rest : List (Op Chan Word)} (sound : plan.Sound m)
    (here : m.left = .look chan count tries :: rest) (found : Bool)
    (there : found = true → count ≤ m.get chan) :
    plan.Sound (m.looked rest found) := by
  obtain ⟨⟨stored, follows, tracks⟩, reached⟩ := sound
  rw [here] at follows
  obtain ⟨asked, follows⟩ := follows
  have grown : m.seen.length ≤ (m.seen ++ [found]).length := by
    rw [List.length_append]
    exact Nat.le_add_right ..
  refine ⟨⟨stored, ?_, fun other => tracks_congr (tracks other) rfl rfl rfl rfl grown⟩, ?_⟩
  · have longer : (m.looked rest found).seen.length = m.seen.length + 1 := List.length_append
    rw [longer]
    exact follows
  · intro k other goal yes look
    change (m.seen ++ [found])[k]? = some true at yes
    by_cases old : k < m.seen.length
    · rw [List.getElem?_append_left old] at yes
      exact reached k other goal yes look
    · have last : k = m.seen.length := by
        have inside := (List.getElem?_eq_some_iff.mp yes).1
        rw [List.length_append, List.length_singleton] at inside
        omega
      subst last
      rw [List.getElem?_append_right (Nat.le_refl _), Nat.sub_self] at yes
      cases asked.symm.trans look
      exact there (Option.some.inj yes)

theorem host_sound (sound : plan.Sound m) : plan.Sound m.host := by
  obtain ⟨⟨stored, follows, tracks⟩, reached⟩ := sound
  rw [Machine.host]
  split
  · exact ⟨⟨stored, follows, tracks⟩, reached⟩
  · rename_i chan slot word rest here
    rw [here] at follows
    obtain ⟨rfl, next, follows⟩ := follows
    refine ⟨⟨_, follows, fun other => ?_⟩, reached⟩
    by_cases same : other = chan
    · subst same
      rw [Function.update_self]
      exact tracks_store (tracks other) next
    · rw [Function.update_of_ne same]
      exact tracks_congr (tracks other) (Function.update_of_ne same ..) rfl rfl rfl (Nat.le_refl _)
  · rename_i chan count rest here
    rw [here] at follows
    obtain ⟨forth, there, limited, follows⟩ := follows
    refine ⟨⟨stored, follows, fun other => ?_⟩, reached⟩
    by_cases same : other = chan
    · subst same
      exact tracks_publish (tracks other) forth there limited
    · exact tracks_congr (tracks other) rfl (Function.update_of_ne same ..) rfl rfl (Nat.le_refl _)
  · rename_i chan count tries rest here
    have sound : plan.Sound m := ⟨⟨stored, follows, tracks⟩, reached⟩
    rw [Machine.look]
    split
    · rename_i there
      exact sound_look sound here true fun _ => there.ge
    · split
      · exact ⟨⟨stored, follows, fun other =>
          tracks_congr (tracks other) rfl rfl rfl rfl (Nat.le_refl _)⟩, reached⟩
      · exact sound_look sound here false fun no => absurd no Bool.false_ne_true
  · rename_i rest here
    rw [here] at follows
    exact ⟨⟨stored, follows, fun other => tracks_congr (tracks other) rfl rfl rfl rfl
      (Nat.le_refl _)⟩, reached⟩

theorem engine_sound (positive : ∀ word, 0 < size word) (sound : plan.Sound m) (chan : Chan) :
    plan.Sound (m.engine size chan) := by
  obtain ⟨⟨stored, follows, tracks⟩, reached⟩ := sound
  have host : (m.engine size chan).put = m.put ∧ (m.engine size chan).left = m.left ∧
      (m.engine size chan).seen = m.seen ∧ (m.engine size chan).slots = m.slots ∧
      ∀ other, other ≠ chan → (m.engine size chan).get other = m.get other ∧
        (m.engine size chan).taken other = m.taken other := by
    rw [Machine.engine]
    split
    · exact ⟨rfl, rfl, rfl, rfl, fun other apart =>
        ⟨Function.update_of_ne apart .., Function.update_of_ne apart ..⟩⟩
    · exact ⟨rfl, rfl, rfl, rfl, fun _ _ => ⟨rfl, rfl⟩⟩
  obtain ⟨put, left, seen, slots, others⟩ := host
  obtain ⟨own, forth⟩ := tracks_engine positive (tracks chan)
  refine ⟨⟨stored, ?_, fun other => ?_⟩, fun k other count yes look => ?_⟩
  · rw [put, left, seen]
    exact follows
  · by_cases same : other = chan
    · subst same
      exact own
    · obtain ⟨get, taken⟩ := others other same
      exact tracks_congr (tracks other) (congrFun slots other) (congrFun put other) get taken
        (le_of_eq (congrArg List.length seen.symm))
  · rw [seen] at yes
    by_cases same : other = chan
    · subst same
      exact (reached k other count yes look).trans forth
    · rw [(others other same).1]
      exact reached k other count yes look

end Step

/-- Nothing is stored, published, taken or looked for yet. -/
structure Plan.Begins (m : Machine Chan Word) : Prop where
  follows : plan.Follows (fun _ => 0) m.put 0 m.left
  put : m.put = fun _ => 0
  get : m.get = fun _ => 0
  taken : m.taken = fun _ => []
  seen : m.seen = []

theorem begins_sound {plan : Plan Chan size} {m : Machine Chan Word} (begins : plan.Begins m) :
    plan.Sound m := by
  refine ⟨⟨fun _ => 0, ?_, fun chan => ?_⟩, ?_⟩
  · rw [begins.seen]
    exact begins.follows
  · refine ⟨?_, ?_, ?_, Nat.zero_le _, fun i below => absurd below (Nat.not_lt_zero i), 0, ?_, ?_⟩
    · rw [begins.get]
      exact Nat.zero_le _
    · rw [begins.put]
    · rw [begins.put]
      exact Nat.zero_le _
    · rw [begins.taken]
      rfl
    · rw [begins.get]
      rfl
  · intro k chan count yes
    rw [begins.seen] at yes
    cases yes

/-- In every order of turns: each engine has taken the first packets of its
program and none that waits for a look, and all of those that a look has seen. -/
theorem packets_in_order {plan : Plan Chan size} (positive : ∀ word, 0 < size word)
    {m : Machine Chan Word} (begins : plan.Begins m) (turns : List (Turn Chan)) :
    let s := run (step size) m turns
    (∀ chan, s.taken chan <+: plan.packets chan ∧
      (s.taken chan).flatten.length ≤ plan.limit chan s.seen.length) ∧
      ∀ k chan count, s.seen[k]? = some true → plan.looks k = some (chan, count) →
        count ≤ (s.taken chan).flatten.length := by
  intro s
  have sound : plan.Sound s := by
    refine @run_kept _ _ (step size) m plan.Sound (fun m turn here => ?_) turns
      (begins_sound begins)
    cases turn with
    | host => exact host_sound here
    | engine chan => exact engine_sound positive here chan
    | idle => exact here
  obtain ⟨stored, _, tracks⟩ := sound.tracks
  have place : ∀ chan, (s.taken chan).flatten.length = s.get chan := by
    intro chan
    obtain ⟨k, taken, get⟩ := (tracks chan).read
    rw [taken, get]
  refine ⟨fun chan => ⟨?_, ?_⟩, fun k chan count yes look => ?_⟩
  · obtain ⟨k, taken, _⟩ := (tracks chan).read
    rw [taken]
    exact List.take_prefix ..
  · rw [place]
    exact (tracks chan).behind.trans (tracks chan).limited
  · rw [place]
    exact sound.reached k chan count yes look

-- A host's script may be long; to unfold this would be to run through it.
attribute [irreducible] Plan.Follows

end GspDriver.CommandStream
