import NotifyMe.Reactive.Machine
import NotifyMe.Reactive.Register

/-!
# `Reactive.Delivery` — what always holds of a delivery

`Reactive.Register` says when a slot loses a message. This module has what holds whether it does or not, and
the two rules by which a system that only delivers is shown to come to rest. Nothing here knows any
particular program.

* `Register.toRead` and `Slot.toRead`: the queue that a location is while no write reaches it too soon.
* `Slot.Order`: what is read, is still to be read, and is on its way is a part of what was written, in the
  order of the writes. So nothing is read that was not written, nothing twice, and nothing out of order.
* `Slot.work`: the deliveries that a slot can still make. Each delivery takes at least one off it, so the
  calls of the reader and the clears that they make do not go on for ever.
* `Run.length_le` and `exists_stuck`: a machine whose steps take something off a measure makes no more steps
  than the measure says, and can always be run until no step is left.
-/

namespace Reactive

variable {α : Type*}

/-! ## A location as a queue

A location that is not written to too soon is a queue: what has still to be read is only taken from its front, by
the reader, and added to at its end, by the writer. -/

section Queue

variable {β : Type*}

namespace Register

/-- What a reader that was last called with `seen` is still to be called with, if no write replaces another. It
    compares the values by `f`. -/
def toRead [DecidableEq β] (f : α → β) (seen : Option (Option β)) (r : Register α) : List α :=
  (if seen = some (r.server.map f) then [] else r.server.toList) ++ r.outbox

/-- **The next write is not too soon**: the reader has been called with the one it replaces, and was not called
    last with an equal one. -/
def InTurn (f : α → β) (seen : Option (Option β)) (r : Register α) : Prop :=
  (seen ≠ some (r.server.map f) → r.server = none) ∧ ∀ a ∈ r.outbox.head?, seen ≠ some (some (f a))

instance [DecidableEq α] [DecidableEq β] (f : α → β) (seen : Option (Option β)) (r : Register α) :
    Decidable (r.InTurn f seen) := inferInstanceAs (Decidable (_ ∧ _))

variable [DecidableEq β] {f : α → β} {seen : Option (Option β)} {r r' : Register α}

theorem toRead_write (a : α) : (r.write a).toRead f seen = r.toRead f seen ++ [a] :=
  (List.append_assoc _ r.outbox [a]).symm

theorem toRead_writes (as : List α) : (as.foldl write r).toRead f seen = r.toRead f seen ++ as := by
  induction as generalizing r with
  | nil => simp
  | cons a as ih => rw [List.foldl_cons, ih, toRead_write, List.append_assoc, List.singleton_append]

theorem toRead_arrive (hin : r.InTurn f seen) (h : r.arrive = some r') : r'.toRead f seen = r.toRead f seen := by
  obtain ⟨a, ho, hs⟩ := arrive_eq_some h
  obtain ⟨hcalled, hnew⟩ := hin
  have hne : seen ≠ some (some (f a)) := hnew a (by rw [ho]; rfl)
  unfold toRead
  rw [ho, hs, Option.map_some, if_neg hne]
  split
  · rfl
  · rename_i hdue
    rw [hcalled hdue]
    rfl

/-- After a call the value at the location has been read. -/
theorem toRead_called : r.toRead f (some (r.server.map f)) = r.outbox := by
  simp [toRead]

/-- A call that is due is for the front of the queue, if there is a value. -/
theorem toRead_due (h : seen ≠ some (r.server.map f)) : r.toRead f seen = r.server.toList ++ r.outbox := by
  rw [toRead, if_neg h]

end Register

namespace Slot

variable {s s' : Slot α}

/-- What the reader is still to be called with, if no write is lost. -/
def toRead (s : Slot α) : List α := s.alive ++ s.outbox

theorem toRead_writes (as : List α) : (as.foldl write s).toRead = s.toRead ++ as := by
  induction as generalizing s with
  | nil => simp
  | cons a as ih =>
      rw [List.foldl_cons, ih]
      simp [toRead]

theorem toRead_arrive (hidle : s.idle) (h : s.arrive = some s') : s'.toRead = s.toRead := by
  obtain ⟨a, ho, hsv, hse, hf, _⟩ := arrive_eq_some h
  obtain ⟨h1, h2, h3⟩ := hidle
  simp [toRead, alive, h1, hf, h2, hse, h3, hsv, ho]

/-- A due call takes the front of the queue, or leaves it alone. -/
theorem toRead_call (hsilent : s.Silent) {v : Option α} (hn : s.next = some v) :
    s.toRead = v.toList ++ (s.call v).toRead := by
  simp [toRead, alive_of_next hsilent hn]

theorem toRead_clearReach (h : s.clearReach = some s') : s'.toRead = s.toRead := by
  obtain ⟨hpos, hsv, ho, _⟩ := clearReach_eq_some h
  simp [toRead, alive, hsv, ho, show s.inFlight ≠ 0 by omega]

theorem toRead_clearAck (h : s.clearAck = some s') : s'.toRead = s.toRead := by
  obtain ⟨hr, hse, hf, _⟩ := clearAck_eq_some h
  simp [toRead, alive, hr, hse, hf]

end Slot

end Queue

namespace Slot

/-! ## In order, and at most once -/

/-- **What a slot delivers**: `written` and `read` in order. -/
structure Order (written read : List α) (s : Slot α) : Prop where
  sublist : (read ++ s.alive ++ s.outbox).Sublist written
  server  : ∀ a, s.server = some a → a ∈ written
  silent  : s.Silent

/-- A slot in which nothing can move any more has come to rest, if no call is due. -/
theorem quiescent_of_none {s : Slot α} (ha : s.arrive = none) (hr : s.clearReach = none)
    (hk : s.clearAck = none) (hn : s.next = none) : s.quiescent := by
  refine ⟨Register.arrive_eq_none (Option.map_eq_none_iff.mp ha), ?_, ?_, hn⟩
  · unfold clearReach at hr
    split at hr
    · assumption
    · exact absurd hr (by simp)
  · unfold clearAck at hk
    split at hk
    · assumption
    · exact absurd hk (by simp)

/-- A slot that has come to rest is empty, and its reader has been called with nothing. -/
theorem eq_of_quiescent {s : Slot α} (h : s.quiescent) : s = { seen := some none } := by
  obtain ⟨⟨server, outbox⟩, seen, inFlight, unacked⟩ := s
  obtain ⟨ho, hf, hu, hn⟩ := h
  obtain rfl : outbox = [] := ho
  obtain rfl : inFlight = 0 := hf
  obtain rfl : unacked = 0 := hu
  cases seen with
  | none => exact absurd hn (by simp [next])
  | some v =>
      cases v with
      | some a => exact absurd hn (by simp [next])
      | none =>
          obtain rfl : server = none := by simpa [next, view] using hn
          rfl

/-- Nothing is left over in it: its accounts can be opened anew. -/
theorem Ledger.reopen {s : Slot α} (h : s.quiescent) : Ledger ([] : List α) [] 0 s := by
  have hal := Ledger.alive_quiescent h
  obtain ⟨ho, hf, hu, _⟩ := h
  exact ⟨by simp [hal, ho], by simp [hal, ho], fun _ => ⟨hf, hu⟩⟩

namespace Order

variable {written read : List α} {s s' : Slot α}

theorem init : Order ([] : List α) [] ({} : Slot α) where
  sublist := by simp [alive]
  server  := by simp
  silent  := Silent.init

theorem outbox_subset (h : Order written read s) : s.outbox ⊆ written :=
  fun _ ha => h.sublist.subset (List.mem_append_right _ ha)

theorem read_sublist (h : Order written read s) : read.Sublist written := by
  refine List.Sublist.trans ?_ h.sublist
  rw [List.append_assoc]
  exact List.sublist_append_left _ _

theorem write (h : Order written read s) (a : α) : Order (written ++ [a]) read (s.write a) where
  sublist := by
    rw [write_alive, write_outbox, ← List.append_assoc]
    exact h.sublist.append (List.Sublist.refl [a])
  server b hb := List.mem_append_left _ (h.server b hb)
  silent := h.silent

theorem writes (h : Order written read s) (as : List α) :
    Order (written ++ as) read (as.foldl Slot.write s) := by
  induction as generalizing written s with
  | nil => simpa using h
  | cons a as ih => simpa using ih (h.write a)

/-- **A write that arrives** is the next to be read, or it is not read at all. -/
theorem arrive (h : Order written read s) (ha : s.arrive = some s') : Order written read s' := by
  obtain ⟨a, ho, hsv, hse, hf, hu⟩ := arrive_eq_some ha
  refine ⟨?_, fun b hb => ?_, h.silent.arrive ha⟩
  · have halive : s'.alive.Sublist [a] := by
      unfold alive
      rw [hsv]
      split
      · exact List.Sublist.refl _
      · exact List.nil_sublist _
    -- the value that it replaces, if there was one to be read, is skipped
    have hskip : (read ++ ([a] ++ s'.outbox)).Sublist (read ++ s.alive ++ s.outbox) := by
      rw [ho, List.append_assoc]
      exact (List.Sublist.refl read).append (List.sublist_append_right _ _)
    rw [List.append_assoc]
    exact ((List.Sublist.refl read).append (halive.append (List.Sublist.refl _))).trans
      (hskip.trans h.sublist)
  · obtain rfl : a = b := Option.some.inj (hsv.symm.trans hb)
    exact h.outbox_subset (by rw [ho]; exact List.mem_cons_self)

/-- Writes that will never arrive leave the others in order. -/
theorem lose (h : Order written read s) (n : Nat) :
    Order written read { s with outbox := s.outbox.take n } where
  sublist := ((List.Sublist.refl _).append (List.take_sublist n _)).trans h.sublist
  server  := h.server
  silent  := h.silent

/-- **A due call** reads what was still to be read, and leaves nothing of it. -/
theorem call (h : Order written read s) {v : Option α} (hn : s.next = some v) :
    Order written (read ++ v.toList) (s.call v) where
  sublist := by
    rw [call_alive, call_outbox, List.append_nil, ← alive_of_next h.silent hn]
    exact h.sublist
  server := h.server
  silent := Silent.call s v

theorem clearReach (h : Order written read s) (hc : s.clearReach = some s') :
    Order written read s' := by
  obtain ⟨hpos, hsv, ho, hse⟩ := clearReach_eq_some hc
  have hal : s.alive = [] := by simp [alive, show s.inFlight ≠ 0 by omega]
  have hal' : s'.alive = [] := by simp [alive, hsv]
  refine ⟨?_, by simp [hsv], h.silent.clearReach hc⟩
  rw [hal', ho, ← hal]
  exact h.sublist

theorem clearAck (h : Order written read s) (hc : s.clearAck = some s') : Order written read s' := by
  obtain ⟨hr, hse, hf, hu⟩ := clearAck_eq_some hc
  have hal : s'.alive = s.alive := by simp [alive, hr, hse, hf]
  exact ⟨by rw [hal, hr]; exact h.sublist, by rw [hr]; exact h.server, h.silent.clearAck hc⟩

end Order

/-! ## The deliveries that are left -/

/-- An upper bound for the calls of the reader that are still to come, if nothing more arrives. A call with a
    value is followed by one for the clear that it makes. -/
def calls (s : Slot α) : Nat :=
  2 * s.alive.length + match s.seen with
    | some none => 0
    | _         => 1

/-- **What is left to deliver.** An arrival can make two calls, and each call a clear, which has to reach the
    location and to be acknowledged. -/
def work (s : Slot α) : Nat := 7 * s.outbox.length + 3 * s.calls + 2 * s.inFlight + s.unacked

theorem alive_length_le (s : Slot α) : s.alive.length ≤ 1 := by
  unfold alive
  split
  · cases s.server <;> simp
  · simp

theorem arrive_work {s s' : Slot α} (h : s.arrive = some s') : s'.work < s.work := by
  obtain ⟨a, ho, _, hse, hf, hu⟩ := arrive_eq_some h
  have hle : s'.calls ≤ s.calls + 2 := by
    unfold calls
    rw [hse]
    have := s'.alive_length_le
    omega
  unfold work
  rw [ho, hf, hu, List.length_cons]
  omega

/-- A due call is one of those that were to come. -/
theorem call_calls {s : Slot α} {v : Option α} (h : s.next = some v) : (s.call v).calls < s.calls := by
  unfold calls
  rw [call_alive]
  unfold next at h
  split at h
  · rename_i hse
    obtain rfl := Option.some.inj h
    cases hv : s.view with
    | none =>
        simp only [call, hse, List.length_nil]
        omega
    | some a =>
        unfold view at hv
        split at hv
        · rename_i h0
          simp [call, hse, alive, hv, show s.inFlight = 0 by omega]
        · exact absurd hv (by simp)
  · rename_i b hse
    obtain rfl := Option.some.inj h
    simp only [call, hse, List.length_nil]
    omega
  · rename_i hse
    obtain ⟨a, ha, rfl⟩ := Option.map_eq_some_iff.mp h
    unfold view at ha
    split at ha
    · rename_i h0
      simp [call, hse, alive, ha, show s.inFlight = 0 by omega]
    · exact absurd ha (by simp)

theorem call_work {s : Slot α} {v : Option α} (h : s.next = some v) : (s.call v).work < s.work := by
  have hlt := call_calls h
  have hf : (s.call v).inFlight = s.inFlight + 1 := rfl
  have hu : (s.call v).unacked = s.unacked := rfl
  unfold work
  rw [call_outbox, hf, hu]
  omega

theorem clearReach_work {s s' : Slot α} (h : s.clearReach = some s') : s'.work < s.work := by
  have hal' : s'.alive = [] := by simp [alive, (clearReach_eq_some h).2.1]
  unfold clearReach at h
  split at h
  · exact absurd h (by simp)
  · rename_i n hn
    obtain rfl := Option.some.inj h
    simp only [work, calls, hal', hn, List.length_nil]
    omega

theorem clearAck_work {s s' : Slot α} (h : s.clearAck = some s') : s'.work < s.work := by
  obtain ⟨hr, hse, hf, hu⟩ := clearAck_eq_some h
  have hal : s'.alive = s.alive := by simp [alive, hr, hse, hf]
  unfold work calls
  rw [hal, hr, hse, hf, hu]
  omega

end Slot

/-! ## Coming to rest -/

variable {σ ε ω : Type*} {M : Machine σ ε ω}

/-- A run can be continued by another from where it ends. -/
theorem Run.append {ok ok' : Guard σ ε ω} {s₀ s s' : σ} {tr tr' : Trace ε ω} (h : Run M ok s₀ tr s)
    (h' : Run M ok' s tr' s') : Run M Guard.free s₀ (tr ++ tr') s' := by
  induction h' with
  | nil =>
      rw [List.append_nil]
      exact h.weaken fun _ _ _ _ => trivial
  | snoc _ _ hs ih =>
      rw [← List.append_assoc]
      exact ih.snoc trivial hs

/-- Only these events. -/
def Guard.only (D : ε → Prop) : Guard σ ε ω := fun _ _ e => D e

instance {D : ε → Prop} [DecidablePred D] (tr : Trace ε ω) (s : σ) (e : ε) :
    Decidable ((Guard.only D : Guard σ ε ω) tr s e) := inferInstanceAs (Decidable (D e))

section Rest

variable {D : ε → Prop} {f : σ → Nat}

/-- **There are no more steps than the measure says.** -/
theorem Run.length_le (hdec : ∀ {s e s' o}, D e → M.step s e = some (s', o) → f s' < f s) {s₀ s : σ}
    {tr : Trace ε ω} (h : Run M (Guard.only D) s₀ tr s) : tr.length + f s ≤ f s₀ := by
  induction h with
  | nil => simp
  | snoc _ hd hs ih =>
      have := hdec hd hs
      rw [List.length_append, List.length_singleton]
      omega

/-- **Every run of them can be continued to its end.** -/
theorem exists_stuck (hdec : ∀ {s e s' o}, D e → M.step s e = some (s', o) → f s' < f s) {s₀ s : σ}
    {tr : Trace ε ω} (h : Run M (Guard.only D) s₀ tr s) :
    ∃ tr' s', tr <+: tr' ∧ Run M (Guard.only D) s₀ tr' s' ∧ ∀ e, D e → M.step s' e = none := by
  generalize hn : f s = n
  induction n using Nat.strongRecOn generalizing tr s with
  | ind n ih =>
      by_cases hend : ∀ e, D e → M.step s e = none
      · exact ⟨tr, s, List.prefix_rfl, h, hend⟩
      · push Not at hend
        obtain ⟨e, hd, hne⟩ := hend
        obtain ⟨⟨s', o⟩, hs⟩ := Option.ne_none_iff_exists'.mp hne
        obtain ⟨tr', s'', hpre, hr, hend⟩ := ih (f s') (hn ▸ hdec hd hs) (h.snoc hd hs) rfl
        exact ⟨tr', s'', (List.prefix_append tr _).trans hpre, hr, hend⟩

end Rest

end Reactive
