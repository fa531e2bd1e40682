import NotifyMe.Pair.Correctness.Codec
import NotifyMe.Pair.Correctness.Provenance
import NotifyMe.Pair.Fifo

/-!
# `Rest` — what the two programs come to when nobody does anything

Between two actions of the users the database and the listeners go on by themselves: writes arrive, the
listeners are called, the desktop clears its node, the clears arrive and are acknowledged.

* `comes_to_rest`: in whatever order this happens, it comes to an end within `work` steps, and then everything
  has been delivered (`AtRest`), unless a notification was mirrored that has no text: its record ends the desktop.
* `shown_from_rest`: a notification that is mirrored at rest is shown, exactly once, before the next rest.
-/

namespace NotifyMe
namespace Rest

open Reactive Pair ViewController AppChannel Provenance

/-- What happens without the users and the messengers. -/
def Delivers : PairEvent → Prop
  | .phone _       => False
  | .userReply _ _ => False
  | _              => True

instance (e : PairEvent) : Decidable (Delivers e) :=
  match e with
  | .phone _ | .userReply _ _ => inferInstanceAs (Decidable False)
  | .dataChange _ _ | .replyArrive | .appArrive | .appCall | .appClear | .appAck | .removeArrive
  | .removeCall => inferInstanceAs (Decidable True)

/-- Everything has been delivered, and every listener called with what there is. -/
structure AtRest (s : Pair) : Prop where
  app     : s.app.quiescent
  replies : s.replies.outbox = []
  called  : ∀ reg ∈ s.phone.registrations, ¬ s.due reg
  remove  : s.remove.outbox = []
  removed : s.removeSeen = some s.remove.server

instance (s : Pair) : Decidable (AtRest s) :=
  decidable_of_iff (s.app.quiescent ∧ s.replies.outbox = [] ∧ (∀ reg ∈ s.phone.registrations, ¬ s.due reg) ∧
      s.remove.outbox = [] ∧ s.removeSeen = some s.remove.server)
    ⟨fun ⟨h1, h2, h3, h4, h5⟩ => ⟨h1, h2, h3, h4, h5⟩,
      fun ⟨h1, h2, h3, h4, h5⟩ => ⟨h1, h2, h3, h4, h5⟩⟩

/-- No delivery is left. -/
def Stuck [CaseMap] [CanonicalForm] (s : Pair) : Prop := ∀ e, Delivers e → s.step e = none

/-! ## The measure -/

/-- An arrival at the `desktop` node can make every registration due once more. -/
def replyWork (s : Pair) : Nat :=
  (s.phone.registrations.length + 1) * s.replies.outbox.length + s.phone.registrations.countP (s.due ·)

def removeWork (s : Pair) : Nat :=
  2 * s.remove.outbox.length + if s.removeSeen = some s.remove.server then 0 else 1

/-- **How many deliveries there can be at most.** -/
def work (s : Pair) : Nat := s.app.work + replyWork s + removeWork s

section Steps

variable [CaseMap] [CanonicalForm] {s s' : Pair} {e : PairEvent} {os : List PairEffect}

/-- A call of the desktop's `remove` listener is its last until the node changes. -/
theorem step_removeCall_seen (h : s.step .removeCall = some (s', os)) :
    s.removeSeen ≠ some s.remove.server ∧ ∃ d, s.desktop.removeObserver
      (s.remove.server.map fun id => Record.put ∅ "id" (some id)) = some d ∧
        s' = { s with desktop := d, removeSeen := some s.remove.server } := by
  simp only [Pair.step] at h
  split at h
  · exact absurd h (by simp)
  · rename_i hne
    obtain ⟨d, hd, hr⟩ := Option.map_eq_some_iff.mp h
    obtain ⟨rfl, _⟩ := Prod.mk.inj hr
    exact ⟨hne, d, hd, rfl⟩

omit [CaseMap] [CanonicalForm] in
/-- A registration that has been called is not due, and the others are as they were. -/
theorem countP_due_call {i : Nat} {reg : Registration} {p : Phone}
    (hreg : s.phone.registrations[i]? = some reg) (hdue : s.due reg)
    (hregs : p.registrations = s.phone.registrations.modify i (fun reg' =>
      { reg' with seen := some ((s.valueAt reg.location).map Reply.response) })) :
    p.registrations.countP (s.due ·) < s.phone.registrations.countP (s.due ·) := by
  obtain ⟨hi, rfl⟩ := List.getElem?_eq_some_iff.mp hreg
  have hpos : 0 < s.phone.registrations.countP (s.due ·) :=
    List.countP_pos_iff.mpr ⟨_, List.getElem_mem hi, by simpa using hdue⟩
  rw [hregs, List.modify_eq_set_get _ hi, List.countP_set hi, if_pos (by simpa using hdue)]
  have hnot : ¬ s.due { location := (s.phone.registrations.get ⟨i, hi⟩).location
                        seen := some ((s.valueAt s.phone.registrations[i].location).map Reply.response) } :=
    fun hne => hne rfl
  rw [if_neg (by simpa using hnot)]
  omega

theorem replyWork_dataChange {i : Nat} {success : Bool} (h : s.step (.dataChange i success) = some (s', os)) :
    replyWork s' < replyWork s := by
  obtain ⟨reg, p, hreg, hdue, rfl, hregs, _⟩ := step_dataChange h
  have hlt := countP_due_call hreg hdue hregs
  have hlen : p.registrations.length = s.phone.registrations.length := by rw [hregs, List.length_modify]
  unfold replyWork
  -- the node is as it was, so the others are due just when they were
  show (p.registrations.length + 1) * s.replies.outbox.length + p.registrations.countP (s.due ·) < _
  rw [hlen]
  omega

theorem replyWork_replyArrive (h : s.step .replyArrive = some (s', os)) : replyWork s' < replyWork s := by
  obtain ⟨a, reg, hout, _, rfl, _⟩ := step_replyArrive h
  unfold replyWork
  rw [hout, List.length_cons, Nat.mul_succ]
  have hle := List.countP_le_length (p := fun r => decide (({ s with replies := reg } : Pair).due r))
    (l := s.phone.registrations)
  show (s.phone.registrations.length + 1) * reg.outbox.length +
    s.phone.registrations.countP (({ s with replies := reg } : Pair).due ·) < _
  omega

omit [CaseMap] [CanonicalForm] in
theorem removeWork_removeArrive {r : Register String} (h : s.remove.arrive = some r) :
    removeWork { s with remove := r } < removeWork s := by
  obtain ⟨a, hout, _⟩ := Register.arrive_eq_some h
  unfold removeWork
  rw [hout, List.length_cons]
  show 2 * r.outbox.length + (if s.removeSeen = some r.server then 0 else 1) < _
  split <;> omega

/-- **A delivery leaves less to deliver.** -/
theorem work_step (hd : Delivers e) (h : s.step e = some (s', os)) : work s' < work s := by
  -- each belongs to one of the three nodes
  have happ : ∀ a : Slot Record, a.work < s.app.work →
      a.work + replyWork s + removeWork s < work s := by
    intro a hlt
    unfold work
    omega
  have hreply : replyWork s' < replyWork s → s.app.work + replyWork s' + removeWork s < work s := by
    intro hlt
    unfold work
    omega
  cases e with
  | phone e => exact absurd hd id
  | userReply i response => exact absurd hd id
  | dataChange i success =>
      have hlt := replyWork_dataChange h
      obtain ⟨_, _, _, _, rfl, _⟩ := step_dataChange h
      exact hreply hlt
  | replyArrive =>
      have hlt := replyWork_replyArrive h
      obtain ⟨_, _, _, _, rfl, _⟩ := step_replyArrive h
      exact hreply hlt
  | appArrive =>
      obtain ⟨a, ha, hp⟩ := Option.map_eq_some_iff.mp h
      obtain ⟨rfl, _⟩ := Prod.mk.inj hp
      exact happ a (Slot.arrive_work ha)
  | appCall =>
      obtain ⟨v, d, _, hn, _, rfl, _⟩ := step_appCall h
      exact happ _ (Slot.call_work hn)
  | appClear =>
      obtain ⟨a, ha, hp⟩ := Option.map_eq_some_iff.mp h
      obtain ⟨rfl, _⟩ := Prod.mk.inj hp
      exact happ a (Slot.clearReach_work ha)
  | appAck =>
      obtain ⟨a, ha, hp⟩ := Option.map_eq_some_iff.mp h
      obtain ⟨rfl, _⟩ := Prod.mk.inj hp
      exact happ a (Slot.clearAck_work ha)
  | removeArrive =>
      obtain ⟨r, hr, hp⟩ := Option.map_eq_some_iff.mp h
      obtain ⟨rfl, _⟩ := Prod.mk.inj hp
      exact Nat.add_lt_add_left (removeWork_removeArrive hr) _
  | removeCall =>
      obtain ⟨hne, d, _, rfl⟩ := step_removeCall_seen h
      refine Nat.add_lt_add_left ?_ (s.app.work + replyWork s)
      unfold removeWork
      rw [if_neg hne, if_pos rfl]
      exact Nat.lt_succ_self _

/-! ## Where it ends -/

/-- A registration that is due can be called. -/
theorem step_dataChange_due {reg : Registration} (hreg : reg ∈ s.phone.registrations) (hdue : s.due reg) :
    ∃ i, s.step (.dataChange i true) ≠ none := by
  obtain ⟨i, hi⟩ := List.mem_iff_getElem?.mp hreg
  refine ⟨i, ?_⟩
  have ho : s.phone.outcome (.dataChange i ((s.valueAt reg.location).map Reply.response) true) =
      some (s.phone.service.onDataChange s.phone.prefs ((s.valueAt reg.location).map Reply.response) true) := by
    simp only [Phone.outcome, hi, Option.map_some]
  obtain ⟨p, hp⟩ := Phone.step_of_outcome ho (Service.onDataChange_thrown ..)
  simp [Pair.step, hi, hdue, hp]

/-- The desktop's `remove` listener can be called when the node has changed. -/
theorem step_removeCall_due (hne : s.removeSeen ≠ some s.remove.server) : s.step .removeCall ≠ none := by
  have hd : s.desktop.removeObserver (s.remove.server.map fun id => Record.put ∅ "id" (some id)) ≠ none := by
    unfold ViewController.removeObserver
    split
    · simp
    · simp
    · rename_i data _ _ hdata _
      obtain ⟨id, _, rfl⟩ := Option.map_eq_some_iff.mp hdata
      simp
  simp [Pair.step, hne, hd]

/-- **Where nothing can be delivered** everything has been, or the desktop ends in its next call. -/
theorem rest_of_stuck (h : Stuck s) :
    AtRest s ∨ ∃ data, s.app.next = some (some data) ∧ showArgs data = none := by
  have hrem : s.removeSeen = some s.remove.server := by
    by_contra hne
    exact step_removeCall_due hne (h .removeCall trivial)
  have hcalled : ∀ reg ∈ s.phone.registrations, ¬ s.due reg := by
    intro reg hreg hdue
    obtain ⟨i, hi⟩ := step_dataChange_due hreg hdue
    exact hi (h (.dataChange i true) trivial)
  have hreplies := Register.arrive_eq_none (Option.map_eq_none_iff.mp (h .replyArrive trivial))
  have hremove := Register.arrive_eq_none (Option.map_eq_none_iff.mp (h .removeArrive trivial))
  have hrest : s.app.next = none → AtRest s := by
    intro hn
    refine ⟨Slot.quiescent_of_none ?_ ?_ ?_ hn, hreplies, hcalled, hremove, hrem⟩
    · exact Option.map_eq_none_iff.mp (h .appArrive trivial)
    · exact Option.map_eq_none_iff.mp (h .appClear trivial)
    · exact Option.map_eq_none_iff.mp (h .appAck trivial)
  cases hn : s.app.next with
  | none => exact Or.inl (hrest hn)
  | some v =>
      have hcall := h .appCall trivial
      simp only [Pair.step, hn, Option.bind_some, Option.map_eq_none_iff] at hcall
      cases v with
      | none => exact absurd hcall (by simp [ViewController.appObserver])
      | some data => exact Or.inr ⟨data, rfl, by simpa [ViewController.appObserver] using hcall⟩

/-- At rest nothing is left to deliver. -/
theorem AtRest.stuck (h : AtRest s) : Stuck s := by
  have harrive : ∀ {α : Type} {r : Register α}, r.outbox = [] → r.arrive = none := by
    intro α r hr
    unfold Register.arrive
    rw [hr]
  have happ := Slot.eq_of_quiescent h.app
  intro e hd
  cases e with
  | phone e => exact absurd hd id
  | userReply i response => exact absurd hd id
  | dataChange i success =>
      cases hreg : s.phone.registrations[i]? with
      | none => simp [Pair.step, hreg]
      | some reg => simp [Pair.step, hreg, h.called reg (List.mem_of_getElem? hreg)]
  | replyArrive => simp [Pair.step, harrive h.replies]
  | removeArrive => simp [Pair.step, harrive h.remove]
  | removeCall => simp [Pair.step, h.removed]
  | appArrive => exact Option.map_eq_none_iff.mpr (by rw [happ]; rfl)
  | appCall => exact Option.bind_eq_none_iff.mpr fun v hn => absurd hn (by rw [h.app.2.2.2]; simp)
  | appClear => exact Option.map_eq_none_iff.mpr (by rw [happ]; rfl)
  | appAck => exact Option.map_eq_none_iff.mpr (by rw [happ]; rfl)

/-! ## Coming to rest -/

variable {prefs : Preferences} {tr tr' : Trace PairEvent PairEffect} {s₀ : Pair}

/-- A record that the desktop cannot show is that of a notification without a text. -/
theorem exists_textless (h : Run pairMachine Guard.free (Pair.created prefs) tr s) {data : Record}
    (hn : s.app.next = some (some data)) (hargs : showArgs data = none) :
    ∃ sbn ∈ mirrored tr, sbn.extras.text = none := by
  obtain ⟨read, ht⟩ := traced_run h
  have hdata : data ∈ written tr := ht.order.server data (Slot.next_eq_some hn)
  have hnone : (none : Option ShowCall) ∈ (mirrored tr).map callOf := by
    rw [← ht.posted, ← hargs]
    exact List.mem_map_of_mem hdata
  obtain ⟨sbn, hsbn, hcall⟩ := List.mem_map.mp hnone
  obtain ⟨⟨a, ha⟩, hne⟩ := ht.origin sbn hsbn
  obtain ⟨title, htitle⟩ := Option.ne_none_iff_exists'.mp hne
  refine ⟨sbn, hsbn, ?_⟩
  rw [callOf, htitle, Option.bind_some, ha, Codec.showArgs_appObject] at hcall
  exact Option.map_eq_none_iff.mp hcall

/-- Deliveries mirror nothing. -/
theorem mirrored_deliveries (h : Run pairMachine (Guard.only Delivers) s₀ tr s) : mirrored tr = [] := by
  refine h.invariant (I := fun tr _ => mirrored tr = []) rfl ?_
  intro tr s e s' os _ hI hd _
  rw [mirrored_snoc, hI]
  cases e with
  | phone e => exact absurd hd id
  | _ => rfl

/-- **Delivering comes to an end**, within as many steps as there is work, and at its end there is rest, unless a
    notification was mirrored that has no text. -/
theorem comes_to_rest (h : Run pairMachine Guard.free (Pair.created prefs) tr s₀)
    (hd : Run pairMachine (Guard.only Delivers) s₀ tr' s) :
    tr'.length ≤ work s₀ ∧ ∃ tr'' s', tr' <+: tr'' ∧ Run pairMachine (Guard.only Delivers) s₀ tr'' s' ∧
      Stuck s' ∧ (AtRest s' ∨ ∃ sbn ∈ mirrored tr, sbn.extras.text = none) := by
  have hdec : ∀ {s e s' os}, Delivers e → pairMachine.step s e = some (s', os) → work s' < work s :=
    fun hd hs => work_step hd hs
  refine ⟨?_, ?_⟩
  · have hle := hd.length_le hdec
    omega
  · obtain ⟨tr'', s', hpre, hr, hstuck⟩ := exists_stuck hdec hd
    refine ⟨tr'', s', hpre, hr, hstuck, (rest_of_stuck hstuck).imp_right ?_⟩
    rintro ⟨data, hn, hargs⟩
    obtain ⟨sbn, hsbn, htext⟩ := exists_textless (h.append hr) hn hargs
    refine ⟨sbn, ?_, htext⟩
    rw [mirrored, List.filterMap_append] at hsbn
    rcases List.mem_append.mp hsbn with hsbn | hsbn
    · exact hsbn
    · exact absurd hsbn (by rw [← mirrored, mirrored_deliveries hr]; simp)

/-! ## One message -/

omit [CaseMap] [CanonicalForm] in
theorem foldl_apply_remove (es : List Effect) (s : Pair) :
    (es.foldl apply s).remove = (Fifo.removeWrites es).foldl Register.write s.remove := by
  induction es generalizing s with
  | nil => rfl
  | cons e es ih =>
      rw [List.foldl_cons, ih]
      cases e with
      | setApp location object =>
          by_cases hl : location = desktopRoot
          · simp [apply, Fifo.removeWrites, hl]
          · simp [apply, Fifo.removeWrites, hl]
      | setRemoveId location id =>
          by_cases hl : location = desktopRoot
          · simp [apply, Fifo.removeWrites, hl]
          · simp [apply, Fifo.removeWrites, hl]
      | _ => rfl

theorem step_phone_remove {e : PhoneEvent} (h : s.step (.phone e) = some (s', os)) :
    ∃ es, os = es.map .phone ∧ s'.remove = (Fifo.removeWrites es).foldl Register.write s.remove := by
  have hmap : (s.phone.step e).map (fun r => (r.2.foldl apply { s with phone := r.1 },
      r.2.map PairEffect.phone)) = some (s', os) := by
    cases e with
    | dataChange i object success => exact absurd h (by simp [Pair.step])
    | _ => exact h
  obtain ⟨⟨p, es⟩, _, hr⟩ := Option.map_eq_some_iff.mp hmap
  obtain ⟨rfl, rfl⟩ := Prod.mk.inj hr
  exact ⟨es, rfl, foldl_apply_remove es _⟩

/-- The message of a call is the end of the text of a notification on the screen. -/
def OnScreen (v : ViewController) (c : ShowCall) : Prop :=
  ∃ n ∈ v.delivered, Equivalent n.identifier c.id ∧ Accumulation.EndsWith n.informativeText c.message

omit [CaseMap] in
theorem onScreen_showNotification {v : ViewController} (h : WellKept v) (c : ShowCall) :
    OnScreen (v.showNotification c) c := by
  refine ⟨entryAfter c (v.entry c.id), h.mem_showNotification.mpr (Or.inr rfl), h.entryAfter_identifier c, ?_⟩
  cases v.entry c.id with
  | none => exact ⟨c.message, Equivalent.refl _, List.suffix_refl _⟩
  | some n => exact Accumulation.endsWith_accumulate n.informativeText c.message

/-- **One record on its way** through a slot in which nothing else is going on: it has not arrived, or is still to
    be read, or has been read and is on the screen. -/
structure Underway (data : Record) (c : ShowCall) (tr : Trace PairEvent PairEffect) (s : Pair)
    (read : List Record) : Prop where
  ledger  : Slot.Ledger [data] read 0 s.app
  waits   : s.app.outbox ≠ [] → s.app = Slot.write { seen := some none } data
  shown   : read.map showArgs = (AppChannel.shown tr).map some
  screen  : read ≠ [] → OnScreen s.desktop c
  desktop : WellKept s.desktop
  remove  : s.remove.outbox = [] ∧ s.removeSeen = some s.remove.server

omit [CaseMap] in
/-- Only the record itself can be read. -/
theorem Underway.read_eq {data : Record} {c : ShowCall} {read : List Record} (h : Underway data c tr s read)
    {d : Record} (hn : s.app.next = some (some d)) : read = [] ∧ d = data := by
  have hexact := (h.ledger.call hn).exact rfl
  simp only [Option.toList_some, Slot.call_alive, Slot.call_outbox, List.append_nil, List.append_assoc,
    List.singleton_append] at hexact
  cases read with
  | nil => exact ⟨rfl, (List.cons.inj hexact).1.symm⟩
  | cons a as => exact absurd (congrArg List.length hexact) (by simp)

theorem underway_step {data : Record} {c : ShowCall} (hc : showArgs data = some c) {read : List Record}
    (h : Underway data c tr s read) (hd : Delivers e) (hs : s.step e = some (s', os)) :
    ∃ read', Underway data c (tr ++ [(e, os)]) s' read' := by
  -- a step at one of the other nodes, or one that only moves the slot on
  have hkeep : AppChannel.shown [(e, os)] = [] → Slot.Ledger [data] read 0 s'.app →
      (s'.app.outbox ≠ [] → s'.app = Slot.write { seen := some none } data) → s'.desktop = s.desktop →
      s'.remove = s.remove → s'.removeSeen = s.removeSeen → Underway data c (tr ++ [(e, os)]) s' read := by
    intro hsh hledger hwaits hdesk hrem hseen
    refine ⟨hledger, hwaits, by rw [shown_snoc, hsh, List.append_nil]; exact h.shown, ?_, ?_, ?_⟩
    · rw [hdesk]
      exact h.screen
    · rw [hdesk]
      exact h.desktop
    · rw [hrem, hseen]
      exact h.remove
  cases e with
  | phone e => exact absurd hd id
  | userReply i response => exact absurd hd id
  | dataChange i success =>
      obtain ⟨_, _, _, _, rfl, _, hcalled⟩ := step_dataChange hs
      obtain ⟨_, hsh⟩ := called_silent hcalled (.dataChange i success)
      exact ⟨read, hkeep hsh h.ledger h.waits rfl rfl rfl⟩
  | replyArrive =>
      obtain ⟨_, _, _, _, rfl, rfl⟩ := step_replyArrive hs
      exact ⟨read, hkeep rfl h.ledger h.waits rfl rfl rfl⟩
  | removeArrive =>
      obtain ⟨r, hr, _⟩ := Option.map_eq_some_iff.mp hs
      obtain ⟨a, hout, _⟩ := Register.arrive_eq_some hr
      exact absurd h.remove.1 (by rw [hout]; simp)
  | removeCall => exact absurd h.remove.2 (step_removeCall_seen hs).1
  | appArrive =>
      obtain ⟨a, ha, hp⟩ := Option.map_eq_some_iff.mp hs
      obtain ⟨rfl, rfl⟩ := Prod.mk.inj hp
      obtain ⟨d, hout, _⟩ := Slot.arrive_eq_some ha
      have hw := h.waits (by rw [hout]; simp)
      have hidle : s.app.idle := by
        rw [hw]
        exact ⟨rfl, rfl, rfl⟩
      refine ⟨read, hkeep rfl (h.ledger.arrive_idle ha hidle) (fun hne => ?_) rfl rfl rfl⟩
      -- it was the only one
      rw [hw] at hout
      exact absurd (List.cons.inj hout).2.symm hne
  | appCall =>
      obtain ⟨v, d, es, hn, hv, rfl, rfl⟩ := step_appCall hs
      have hledger := h.ledger.call hn
      have hout : ¬ s.app.outbox ≠ [] := by
        intro hne
        rw [h.waits hne] at hn
        exact absurd (show (none : Option (Option Record)) = some v from hn) (by simp)
      rcases appObserver_eq_some hv with ⟨rfl, rfl, rfl⟩ | ⟨d', c', rfl, hc', rfl, rfl⟩
      · exact ⟨read, hkeep rfl (by simpa using hledger) (fun hne => absurd hne hout) rfl rfl rfl⟩
      · obtain ⟨rfl, rfl⟩ := h.read_eq hn
        obtain rfl := Option.some.inj (hc'.symm.trans hc)
        refine ⟨[d'], hledger, fun hne => absurd hne hout, ?_, ?_, h.desktop.showNotification c', h.remove⟩
        · rw [shown_snoc, List.map_append, ← h.shown]
          simp [AppChannel.shown, hc]
        · exact fun _ => onScreen_showNotification h.desktop c'
  | appClear =>
      obtain ⟨a, ha, hp⟩ := Option.map_eq_some_iff.mp hs
      obtain ⟨rfl, rfl⟩ := Prod.mk.inj hp
      obtain ⟨hpos, _, hout, _⟩ := Slot.clearReach_eq_some ha
      refine ⟨read, hkeep rfl (h.ledger.clearReach ha) (fun hne => ?_) rfl rfl rfl⟩
      rw [h.waits (hout ▸ hne)] at hpos
      exact absurd hpos (by simp [Slot.write])
  | appAck =>
      obtain ⟨a, ha, hp⟩ := Option.map_eq_some_iff.mp hs
      obtain ⟨rfl, rfl⟩ := Prod.mk.inj hp
      obtain ⟨hr, _, _, hu⟩ := Slot.clearAck_eq_some ha
      refine ⟨read, hkeep rfl (h.ledger.clearAck ha) (fun hne => ?_) rfl rfl rfl⟩
      rw [h.waits (hr ▸ hne)] at hu
      exact absurd hu (by simp [Slot.write])

theorem wellKept_run (h : Run pairMachine Guard.free (Pair.created prefs) tr s) : WellKept s.desktop :=
  let ⟨_, ht⟩ := traced_run h
  ht.desktop.wellKept

/-- A notification that is mirrored to the desktop leads to one write, of its record. -/
theorem effects_of_mirrored {e : PhoneEvent} {p : Phone} {es : List Effect} (hs : s.phone.step e = some (p, es))
    {sbn : StatusBarNotification}
    (hm : mirroredIn (· == desktopRoot) (.phone e, es.map PairEffect.phone) = some sbn) :
    ∃ data, es = [.setApp desktopRoot data] ∧ showArgs data = callOf sbn := by
  obtain ⟨o, _, hh, rfl, _, _⟩ := Phone.step_eq_some hs
  rcases hh.mirrors_or with ⟨sbn', success, title, reference, rfl, _, _, hmir⟩ | ⟨hset, _⟩
  · have hloc : reference = desktopRoot := by
      by_contra hne
      rw [mirroredIn_of_written
        (by rw [written_phone, hmir.effects_eq]; simp [appWrites, hne])] at hm
      exact absurd hm (by simp)
    have hsbn : sbn' = sbn := by
      rw [mirroredIn_phone] at hm
      simp only [Phone.mirroredIn] at hm
      split at hm
      · exact Option.some.inj hm
      · exact absurd hm (by simp)
    subst hsbn
    exact ⟨_, by rw [hmir.effects_eq, hloc], by rw [callOf, hmir.title_eq, Option.bind_some]⟩
  · rw [mirroredIn_of_written (by rw [written_phone]; exact appWrites_nil hset)] at hm
    exact absurd hm (by simp)

/-- A message that is mirrored at rest is under way. -/
theorem underway_init (h : Run pairMachine Guard.free (Pair.created prefs) tr s) (hrest : AtRest s)
    {e : PhoneEvent} (hpost : s.step (.phone e) = some (s', os)) {sbn : StatusBarNotification}
    (hm : mirroredIn (· == desktopRoot) (.phone e, os) = some sbn) {c : ShowCall} (hc : callOf sbn = some c) :
    ∃ data, showArgs data = some c ∧ Underway data c [] s' [] := by
  obtain ⟨p, es, r, _, hp, rfl, hs'⟩ := step_phone hpost
  obtain ⟨es', hes, hremove⟩ := step_phone_remove hpost
  obtain ⟨data, rfl, hdata⟩ := effects_of_mirrored hp hm
  obtain rfl : [.setApp desktopRoot data] = es' := List.map_injective_iff.mpr (fun _ _ => PairEffect.phone.inj) hes
  have happ : s'.app = s.app.write data := by
    rw [hs']
    simp [appWrites]
  have hrem : s'.remove = s.remove := hremove
  have hseen : s'.removeSeen = s.removeSeen := by rw [hs']
  have hdesk : s'.desktop = s.desktop := by rw [hs']
  refine ⟨data, hdata.trans hc, ?_, ?_, rfl, by simp, ?_, ?_⟩
  · rw [happ]
    exact (Slot.Ledger.reopen hrest.app).write data
  · intro _
    rw [happ, Slot.eq_of_quiescent hrest.app]
  · rw [hdesk]
    exact wellKept_run h
  · rw [hrem, hseen]
    exact ⟨hrest.remove, hrest.removed⟩

/-- A message under way is delivered: there is rest again when no delivery is left. -/
theorem rest_of_underway {data : Record} {c : ShowCall} (hdata : showArgs data = some c)
    (hinit : Underway data c [] s []) (hd : Run pairMachine (Guard.only Delivers) s tr' s') (hstuck : Stuck s') :
    AtRest s' ∧ ∃ read, Underway data c tr' s' read := by
  obtain ⟨read, hu⟩ : ∃ read, Underway data c tr' s' read :=
    hd.invariant (I := fun tr s => ∃ read, Underway data c tr s read) ⟨[], hinit⟩
      fun _ ⟨_, hI⟩ hdel hs => underway_step hdata hI hdel hs
  refine ⟨?_, read, hu⟩
  rcases rest_of_stuck hstuck with hend | ⟨d, hn, hargs⟩
  · exact hend
  · -- the one record can be shown
    obtain ⟨_, rfl⟩ := hu.read_eq hn
    exact absurd hdata (by rw [hargs]; simp)

/-- **A message that is mirrored at rest is shown**, exactly once, and is on the screen when there is rest again,
    in whatever order its record, the calls and the clears are delivered. -/
theorem shown_from_rest (h : Run pairMachine Guard.free (Pair.created prefs) tr s₀) (hrest : AtRest s₀)
    {sbn : StatusBarNotification} {success : Bool} {s₁ : Pair}
    (hpost : s₀.step (.phone (.posted sbn success)) = some (s₁, os))
    (hmirror : mirroredIn (· == desktopRoot) (.phone (.posted sbn success), os) = some sbn) {c : ShowCall}
    (hc : callOf sbn = some c) (hd : Run pairMachine (Guard.only Delivers) s₁ tr' s) (hstuck : Stuck s) :
    AtRest s ∧ AppChannel.shown tr' = [c] ∧ OnScreen s.desktop c := by
  obtain ⟨data, hdata, hinit⟩ := underway_init h hrest hpost hmirror hc
  obtain ⟨hend, read, hu⟩ := rest_of_underway hdata hinit hd hstuck
  have hread : read = [data] := ((hu.ledger.quiescent_iff hend.app).mpr rfl).symm
  refine ⟨hend, ?_, hu.screen (by rw [hread]; simp)⟩
  have hshown := hu.shown
  rw [hread, List.map_singleton, hdata, ← List.map_singleton] at hshown
  exact (List.map_injective_iff.mpr (Option.some_injective _) hshown).symm

end Steps

/-! ## A conversation, from rest to rest -/

open scoped AsIs

/-- Ann and Bob write, and nothing of it has been delivered. -/
def bothPosted : List PairEvent :=
  [.phone .listenerConnected, .phone (.posted (App.whatsApp.message "Ann" "hello" 1) true),
   .phone (.posted (App.whatsApp.message "Bob" "hello" 2) true)]

theorem bothPosted_enabled :
    (pairMachine.exec Guard.free (Pair.created .notifyMode) bothPosted).isSome := by decide

theorem bothPosted_rests :
    ([] : Trace PairEvent PairEffect).length ≤
        work ((pairMachine.exec Guard.free (Pair.created .notifyMode) bothPosted).get bothPosted_enabled).1 ∧
      ∃ tr'' s', [] <+: tr'' ∧ Run pairMachine (Guard.only Delivers)
          ((pairMachine.exec Guard.free (Pair.created .notifyMode) bothPosted).get bothPosted_enabled).1 tr'' s' ∧
        Stuck s' ∧ (AtRest s' ∨ ∃ sbn ∈ mirrored ((pairMachine.exec Guard.free (Pair.created .notifyMode)
          bothPosted).get bothPosted_enabled).2, sbn.extras.text = none) :=
  comes_to_rest (run_exec_get bothPosted_enabled) Run.nil

/-- The listeners have been called for the first time, and nothing else has happened. -/
def attached : List PairEvent :=
  [.phone .listenerConnected, .dataChange 0 true, .removeCall, .appCall, .appClear, .appAck]

theorem attached_enabled :
    (pairMachine.exec Guard.free (Pair.created .notifyMode) attached).isSome := by decide

/-- Ann's message is posted then. -/
def annPosted : PairEvent := .phone (.posted (App.whatsApp.message "Ann" "hello" 1) true)

theorem annPosted_enabled : (((pairMachine.exec Guard.free (Pair.created .notifyMode) attached).get
    attached_enabled).1.step annPosted).isSome := by decide

/-- And delivered. -/
def annDelivered : List PairEvent :=
  [.appArrive, .appCall, .appClear, .appAck, .appCall, .appClear, .appAck]

theorem annDelivered_enabled : (pairMachine.exec (Guard.only Delivers)
    ((((pairMachine.exec Guard.free (Pair.created .notifyMode) attached).get attached_enabled).1.step
      annPosted).get annPosted_enabled).1 annDelivered).isSome := by decide

theorem annDelivered_shown :
    AtRest ((pairMachine.exec (Guard.only Delivers) ((((pairMachine.exec Guard.free
        (Pair.created .notifyMode) attached).get attached_enabled).1.step annPosted).get
          annPosted_enabled).1 annDelivered).get annDelivered_enabled).1 ∧
      AppChannel.shown ((pairMachine.exec (Guard.only Delivers) ((((pairMachine.exec Guard.free
        (Pair.created .notifyMode) attached).get attached_enabled).1.step annPosted).get
          annPosted_enabled).1 annDelivered).get annDelivered_enabled).2 =
        [⟨"WhatsApp", "Ann", "hello", "ann", "com.whatsapp"⟩] ∧
      OnScreen ((pairMachine.exec (Guard.only Delivers) ((((pairMachine.exec Guard.free
        (Pair.created .notifyMode) attached).get attached_enabled).1.step annPosted).get
          annPosted_enabled).1 annDelivered).get annDelivered_enabled).1.desktop
        ⟨"WhatsApp", "Ann", "hello", "ann", "com.whatsapp"⟩ :=
  shown_from_rest (run_exec_get attached_enabled) (by decide) (Option.some_get annPosted_enabled).symm
    (by decide) (by decide) (run_exec_get annDelivered_enabled) (AtRest.stuck (by decide))

end Rest
end NotifyMe
