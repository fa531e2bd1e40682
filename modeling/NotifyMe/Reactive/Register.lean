import Mathlib.Data.List.Basic

/-!
# `Reactive.Register` — a shared location as a channel

A location of a replicated store is a **register**: it keeps the last value that reached it. Programs use
such locations as message channels, and this module says what that costs. Nothing here knows any
particular program.

* `Register`: the location with one writer, whose writes arrive in the order they were made.
* `Slot`: a register with a reader that *consumes*: it is called with the current value and then clears the
  location. The clear is itself a write that takes time: until it has been acknowledged the reader sees
  its own empty value in place of the server's.
* `Slot.Ledger`: the accounts of a slot. Whatever the interleaving, the writes are the calls made, the value
  still on its way to a call, the writes still on their way to the server, and those lost; and
  `Ledger.quiescent_iff`: at rest, everything written was read exactly once iff nothing was lost.
* `Slot.idle`: the exact condition under which an arriving write is not lost (`Ledger.arrive_idle`) and
  none before it is (`Ledger.arrive_busy`).
-/

namespace Reactive

variable {α : Type*}

/-- A last-writer-wins location and the writes that have been made but have not reached it. -/
structure Register (α : Type*) where
  server : Option α := none
  outbox : List α   := []
  deriving DecidableEq, Repr

namespace Register

/-- The writer makes a write. -/
def write (r : Register α) (a : α) : Register α := { r with outbox := r.outbox ++ [a] }

/-- The oldest write under way reaches the location and replaces what it held. -/
def arrive (r : Register α) : Option (Register α) :=
  match r.outbox with
  | []        => none
  | a :: rest => some { server := some a, outbox := rest }

@[simp] theorem write_server (r : Register α) (a : α) : (r.write a).server = r.server := rfl
@[simp] theorem write_outbox (r : Register α) (a : α) : (r.write a).outbox = r.outbox ++ [a] := rfl

/-- What an arrival does: the oldest write under way becomes the value. -/
theorem arrive_eq_some {r r' : Register α} (h : r.arrive = some r') :
    ∃ a, r.outbox = a :: r'.outbox ∧ r'.server = some a := by
  unfold arrive at h
  split at h
  · exact absurd h (by simp)
  · rename_i a rest ho
    obtain rfl := Option.some.inj h
    exact ⟨a, ho, rfl⟩

theorem arrive_eq_none {r : Register α} (h : r.arrive = none) : r.outbox = [] := by
  unfold arrive at h
  split at h
  · assumption
  · exact absurd h (by simp)

end Register

/-! ## A register with a consuming reader -/

/-- A register and the reader's side of it: the value the reader was last called with (`none`: it has
    not been called since it attached), its clears that have not reached the location, and those that have
    but are not acknowledged. -/
structure Slot (α : Type*) extends Register α where
  seen     : Option (Option α) := none
  inFlight : Nat               := 0
  unacked  : Nat               := 0
  deriving DecidableEq, Repr

namespace Slot

/-- What the reader sees: its own pending clear hides the server's value. -/
def view (s : Slot α) : Option α := if s.inFlight + s.unacked = 0 then s.server else none

/-- The value of the reader's next call, if one is due. A reader that has just been called with a value
    has cleared the location, so its next call is the local event of that clear; otherwise it is called
    when what it sees changes. -/
def next (s : Slot α) : Option (Option α) :=
  match s.seen with
  | none          => some s.view
  | some (some _) => some none
  | some none     => s.view.map some

/-- The reader is called with `v`, and clears the location. -/
def call (s : Slot α) (v : Option α) : Slot α :=
  { s with seen := some v, inFlight := s.inFlight + 1 }

def write (s : Slot α) (a : α) : Slot α := { s with toRegister := s.toRegister.write a }

def arrive (s : Slot α) : Option (Slot α) :=
  s.toRegister.arrive.map fun r => { s with toRegister := r }

/-- One of the reader's clears reaches the location. -/
def clearReach (s : Slot α) : Option (Slot α) :=
  match s.inFlight with
  | 0     => none
  | n + 1 => some { s with server := none, inFlight := n, unacked := s.unacked + 1 }

/-- The reader learns that one of its clears has reached the location. -/
def clearAck (s : Slot α) : Option (Slot α) :=
  match s.unacked with
  | 0     => none
  | n + 1 => some { s with unacked := n }

/-- The location is empty and no clear is on its way or about to be made. -/
def idle (s : Slot α) : Prop := s.server = none ∧ s.inFlight = 0 ∧ s.seen.join = none

instance (s : Slot α) [DecidableEq α] : Decidable s.idle := by unfold idle; infer_instance

/-- Nothing is under way in either direction, and the reader has been called with what it sees. -/
def quiescent (s : Slot α) : Prop :=
  s.outbox = [] ∧ s.inFlight = 0 ∧ s.unacked = 0 ∧ s.next = none

instance (s : Slot α) [DecidableEq α] : Decidable s.quiescent := by unfold quiescent; infer_instance

/-- The value at the location that the reader will still be called with, if no write replaces it. -/
def alive (s : Slot α) : List α :=
  if s.inFlight = 0 ∧ s.seen.join = none then s.server.toList else []

@[simp] theorem write_server (s : Slot α) (a : α) : (s.write a).server = s.server := rfl
@[simp] theorem write_outbox (s : Slot α) (a : α) : (s.write a).outbox = s.outbox ++ [a] := rfl
@[simp] theorem write_alive (s : Slot α) (a : α) : (s.write a).alive = s.alive := rfl
@[simp] theorem call_outbox (s : Slot α) (v : Option α) : (s.call v).outbox = s.outbox := rfl

/-- A call leaves a clear on its way, so nothing at the location is still to be read. -/
@[simp] theorem call_alive (s : Slot α) (v : Option α) : (s.call v).alive = [] := by
  simp [alive, call]

theorem arrive_eq_some {s s' : Slot α} (h : s.arrive = some s') :
    ∃ a, s.outbox = a :: s'.outbox ∧ s'.server = some a ∧ s'.seen = s.seen ∧
      s'.inFlight = s.inFlight ∧ s'.unacked = s.unacked := by
  obtain ⟨r, hr, rfl⟩ := Option.map_eq_some_iff.mp h
  obtain ⟨a, ho, hs⟩ := Register.arrive_eq_some hr
  exact ⟨a, ho, hs, rfl, rfl, rfl⟩

/-- The reader is called with nothing but the value at the location. -/
theorem next_eq_some {s : Slot α} {a : α} (h : s.next = some (some a)) : s.server = some a := by
  have hview : s.view = some a → s.server = some a := by
    unfold view
    split
    · exact id
    · exact fun hn => absurd hn (by simp)
  unfold next at h
  split at h
  · exact hview (Option.some.inj h)
  · exact absurd h (by simp)
  · obtain ⟨b, hb, he⟩ := Option.map_eq_some_iff.mp h
    exact hview (Option.some.inj he ▸ hb)

/-- A reader that was never called has made no clear. -/
def Silent (s : Slot α) : Prop := s.seen = none → s.inFlight = 0 ∧ s.unacked = 0

/-- A due call is for the value that was still to be read. -/
theorem alive_of_next {s : Slot α} (hsilent : s.Silent) {v : Option α} (hn : s.next = some v) :
    s.alive = v.toList := by
  unfold next at hn
  split at hn
  · rename_i hse
    obtain ⟨h1, h2⟩ := hsilent hse
    obtain rfl := Option.some.inj hn
    simp [alive, view, h1, h2, hse]
  · rename_i b hse
    obtain rfl := Option.some.inj hn
    simp [alive, hse]
  · rename_i hse
    obtain ⟨a, ha, rfl⟩ := Option.map_eq_some_iff.mp hn
    unfold view at ha
    split at ha
    · rename_i h0
      simp [alive, hse, show s.inFlight = 0 by omega, ha]
    · exact absurd ha (by simp)

theorem clearReach_eq_some {s s' : Slot α} (h : s.clearReach = some s') :
    0 < s.inFlight ∧ s'.server = none ∧ s'.outbox = s.outbox ∧ s'.seen = s.seen := by
  unfold clearReach at h
  split at h
  · exact absurd h (by simp)
  · rename_i n hn
    obtain rfl := Option.some.inj h
    exact ⟨by omega, rfl, rfl, rfl⟩

theorem clearAck_eq_some {s s' : Slot α} (h : s.clearAck = some s') :
    s'.toRegister = s.toRegister ∧ s'.seen = s.seen ∧ s'.inFlight = s.inFlight ∧
      s.unacked = s'.unacked + 1 := by
  unfold clearAck at h
  split at h
  · exact absurd h (by simp)
  · rename_i n hn
    obtain rfl := Option.some.inj h
    exact ⟨rfl, rfl, rfl, hn⟩

namespace Silent

variable {s s' : Slot α}

theorem init : Silent ({} : Slot α) := fun _ => ⟨rfl, rfl⟩

theorem writes (h : Silent s) (as : List α) : Silent (as.foldl write s) := by
  induction as generalizing s with
  | nil => exact h
  | cons a as ih => exact ih (s := s.write a) h

theorem arrive (h : Silent s) (ha : s.arrive = some s') : Silent s' := by
  obtain ⟨_, _, _, hse, hf, hu⟩ := arrive_eq_some ha
  rw [Silent, hse, hf, hu]
  exact h

theorem call (s : Slot α) (v : Option α) : Silent (s.call v) := fun hc => absurd hc (by simp [Slot.call])

theorem clearReach (h : Silent s) (hc : s.clearReach = some s') : Silent s' := by
  obtain ⟨hpos, _, _, hse⟩ := clearReach_eq_some hc
  intro hn
  have := (h (hse ▸ hn)).1
  omega

theorem clearAck (h : Silent s) (hc : s.clearAck = some s') : Silent s' := by
  obtain ⟨_, hse, hf, hu⟩ := clearAck_eq_some hc
  intro hn
  have := (h (hse ▸ hn)).2
  omega

end Silent

/-! ## The ledger -/

/-- **The accounts of a slot**: `written` in order, `read` in order, and how many writes were `lost`. -/
structure Ledger (written read : List α) (lost : Nat) (s : Slot α) : Prop where
  /-- Every write is read, still to be read, still under way, or lost. -/
  count  : written.length = read.length + s.alive.length + s.outbox.length + lost
  /-- With no loss the three parts are the writes, in order. -/
  exact  : lost = 0 → written = read ++ s.alive ++ s.outbox
  silent : s.Silent

namespace Ledger

variable {written read : List α} {lost : Nat} {s s' : Slot α}

theorem init : Ledger ([] : List α) [] 0 ({} : Slot α) where
  count  := by simp [alive]
  exact  := by simp [alive]
  silent := Silent.init

theorem write (h : Ledger written read lost s) (a : α) :
    Ledger (written ++ [a]) read lost (s.write a) where
  count := by
    have := h.count
    simp only [List.length_append, List.length_singleton, write_alive, write_outbox]
    omega
  exact h0 := by rw [h.exact h0]; simp
  silent := h.silent

theorem writes (h : Ledger written read lost s) (as : List α) :
    Ledger (written ++ as) read lost (as.foldl Slot.write s) := by
  induction as generalizing written s with
  | nil => simpa using h
  | cons a as ih => simpa using ih (h.write a)

/-- **A write that arrives at an idle slot is kept**, and so is everything before it. -/
theorem arrive_idle (h : Ledger written read lost s) (ha : s.arrive = some s') (hi : s.idle) :
    Ledger written read lost s' := by
  obtain ⟨a, ho, hsv, hse, hf, hu⟩ := arrive_eq_some ha
  obtain ⟨i1, i2, i3⟩ := hi
  have hal : s.alive = [] := by simp [alive, i1]
  have hal' : s'.alive = [a] := by simp [alive, hf, i2, hse, i3, hsv]
  refine ⟨?_, ?_, h.silent.arrive ha⟩
  · have := h.count
    rw [hal, ho] at this
    rw [hal']
    simp only [List.length_cons, List.length_nil] at this ⊢
    omega
  · intro h0
    rw [h.exact h0, hal, hal', ho]
    simp

/-- **A write that arrives at a busy slot costs a message**: the value it replaces if that was still
    to be read, otherwise itself. -/
theorem arrive_busy (h : Ledger written read lost s) (ha : s.arrive = some s') (hi : ¬ s.idle) :
    Ledger written read (lost + 1) s' := by
  obtain ⟨a, ho, hsv, hse, hf, hu⟩ := arrive_eq_some ha
  have hlen : s'.alive.length = s.alive.length := by
    by_cases hc : s.inFlight = 0 ∧ s.seen.join = none
    · -- the slot is not idle, so it held a value that was still to be read
      obtain ⟨b, hb⟩ : ∃ b, s.server = some b :=
        Option.ne_none_iff_exists'.mp (fun hn => hi ⟨hn, hc⟩)
      simp [alive, hf, hse, hc.1, hc.2, hsv, hb]
    · simp [alive, hf, hse, hc]
  refine ⟨?_, fun h0 => absurd h0 (by omega), h.silent.arrive ha⟩
  · have := h.count
    rw [ho] at this
    simp only [List.length_cons] at this
    omega

/-- **A due call reads exactly the value that was still to be read.** -/
theorem call (h : Ledger written read lost s) {v : Option α} (hn : s.next = some v) :
    Ledger written (read ++ v.toList) lost (s.call v) := by
  have hv : s.alive = v.toList := alive_of_next h.silent hn
  refine ⟨?_, ?_, Silent.call s v⟩
  · have := h.count
    rw [hv] at this
    simp only [call_alive, call_outbox, List.length_append, List.length_nil]
    omega
  · intro h0
    rw [h.exact h0, hv]
    simp

theorem clearReach (h : Ledger written read lost s) (hc : s.clearReach = some s') :
    Ledger written read lost s' := by
  obtain ⟨hpos, hsv, ho, hse⟩ := clearReach_eq_some hc
  have hal : s.alive = [] := by simp [alive, show s.inFlight ≠ 0 by omega]
  have hal' : s'.alive = [] := by simp [alive, hsv]
  refine ⟨?_, ?_, h.silent.clearReach hc⟩
  · rw [hal', ho, ← hal]; exact h.count
  · rw [hal', ho, ← hal]; exact h.exact

theorem clearAck (h : Ledger written read lost s) (hc : s.clearAck = some s') :
    Ledger written read lost s' := by
  obtain ⟨hr, hse, hf, hu⟩ := clearAck_eq_some hc
  have hal : s'.alive = s.alive := by simp [alive, hr, hse, hf]
  refine ⟨?_, ?_, h.silent.clearAck hc⟩
  · rw [hal, hr]; exact h.count
  · rw [hal, hr]; exact h.exact

/-- A slot at rest holds nothing to be read. -/
theorem alive_quiescent (hq : s.quiescent) : s.alive = [] := by
  obtain ⟨_, hf, hu, hn⟩ := hq
  unfold next at hn
  split at hn
  · exact absurd hn (by simp)
  · exact absurd hn (by simp)
  · rename_i hse
    have hsv : s.server = none := by
      simpa [view, hf, hu] using hn
    simp [alive, hsv]

theorem count_quiescent (h : Ledger written read lost s) (hq : s.quiescent) :
    written.length = read.length + lost := by
  have := h.count
  rw [alive_quiescent hq, hq.1] at this
  simpa using this

/-- **At rest, every write was read exactly once, in order, iff none was lost.** -/
theorem quiescent_iff (h : Ledger written read lost s) (hq : s.quiescent) :
    written = read ↔ lost = 0 := by
  constructor
  · intro he
    have := h.count_quiescent hq
    rw [he] at this
    omega
  · intro h0
    have := h.exact h0
    rw [alive_quiescent hq, hq.1] at this
    simpa using this

end Ledger

end Slot

end Reactive
