import NotifyMe.Pair.Machine

/-!
# `ReplyChannel` — what becomes of the desktop's replies

The `desktop` node holds one value, and the phone's listener is called when that value differs from the one it
was last called with. So a reply is lost when the next one reaches the node before the phone has been called,
when it equals the one the phone was called with before, and when its entry has left the table by the time of
the call.

`handed_iff`: while the service stays connected, at rest every reply that was made on an entry of the table has
been handed to `reply()` iff no step was one of these three (`InTime`). The account of a reply is the same
throughout a run (`Books.fate`): nothing has been lost iff every reply that is past has been handed over.
-/

namespace NotifyMe
namespace ReplyChannel

open Reactive Pair ViewController Service

/-- Both programs started, and the phone's listener attached by a connect in Notify mode. -/
def connected (prefs : Preferences) : Pair := { phone := Phone.connected prefs }

theorem step_connected [CaseMap] [CanonicalForm] {prefs : Preferences} (h : prefs.isNotifyOn = true)
    (hvalid : validRoot prefs.phone = true) :
    (Pair.created prefs).step (.phone .listenerConnected) =
      some (connected prefs, [.phone (.addListener prefs.location)]) := by
  simp [Pair.step, Pair.created, Phone.step_connected h hvalid, Pair.apply, connected]

/-- The listener stays where it is. -/
def Staying : Guard Pair PairEvent PairEffect := fun _ _ e =>
  match e with
  | .phone e => e.moves = false
  | _ => True

/-- **Every reply that was made while its id was a key has been handed to `reply()`.** -/
def AllHanded (tr : Trace PairEvent PairEffect) : Prop :=
  ∀ r, PairEffect.replied r true ∈ tr.outputs → .handed r.number ∈ tr.outputs

/-- No reply is on its way to the node, and no call of the listener is outstanding. -/
def atRest (s : Pair) : Prop := s.replies.outbox = [] ∧ ¬ s.anyDue

instance (s : Pair) : Decidable (atRest s) := by unfold atRest; infer_instance

/-- **The condition**, for the replies that were made while their id was a key. When a reply reaches the node,
    the phone has been called with the one it replaces, and was not called last with an equal one. And when
    the phone is called with a reply, its id still is a key. -/
def InTime : Guard Pair PairEvent PairEffect := fun tr s e =>
  match e with
  | .replyArrive =>
      (s.anyDue → ∀ r ∈ s.replies.server, PairEffect.replied r true ∉ tr.outputs) ∧
      ∀ r ∈ s.replies.outbox.head?, PairEffect.replied r true ∈ tr.outputs →
        ∀ reg ∈ s.phone.registrations, reg.seen ≠ some (some r.response)
  | .dataChange _ _ =>
      ∀ r ∈ s.replies.server, PairEffect.replied r true ∈ tr.outputs → s.entry r.response ≠ none
  | _ => True

instance (tr : Trace PairEvent PairEffect) (s : Pair) (e : PairEvent) : Decidable (Staying tr s e) :=
  match e with
  | .phone e => inferInstanceAs (Decidable (e.moves = false))
  | .dataChange _ _ | .userReply _ _ | .replyArrive | .appArrive | .appCall | .appClear | .appAck
  | .removeArrive | .removeCall => inferInstanceAs (Decidable True)

instance (tr : Trace PairEvent PairEffect) (s : Pair) (e : PairEvent) : Decidable (InTime tr s e) := by
  unfold InTime; split <;> infer_instance

/-! ## Where the listener is -/

/-- The listener is attached once, at the phone's location. When that is not the desktop's root, nothing
    reaches the desktop, and no reply is made. -/
structure Attached (prefs : Preferences) (s : Pair) : Prop where
  listener  : ∃ seen, s.phone.registrations = [⟨prefs.location, seen⟩]
  reference : s.phone.service.reference = some (prefs.location)
  silent    : prefs.location ≠ desktopRoot → s.desktop.delivered = [] ∧
    (s.app.server = none ∧ s.app.outbox = []) ∧ s.replies.server = none ∧ s.replies.outbox = []

theorem attached_init (prefs : Preferences) : Attached prefs (connected prefs) :=
  ⟨⟨none, rfl⟩, rfl, fun _ => ⟨rfl, ⟨rfl, rfl⟩, rfl, rfl⟩⟩

/-- The one registration is due just when the value at the node is not the one it was called with. -/
theorem anyDue_iff {prefs : Preferences} {s : Pair} {seen : Option (Option Record)}
    (hl : prefs.location = desktopRoot) (hreg : s.phone.registrations = [⟨prefs.location, seen⟩]) :
    s.anyDue ↔ seen ≠ some (s.replies.server.map Reply.response) := by
  simp [Pair.anyDue, Pair.due, Pair.valueAt, hreg, hl]

/-- The registration that is called is the only one. -/
theorem Attached.only {prefs : Preferences} {s : Pair} (h : Attached prefs s) {i : Nat}
    {reg : Registration} (hreg : s.phone.registrations[i]? = some reg) :
    i = 0 ∧ s.phone.registrations = [reg] ∧ reg.location = prefs.location := by
  obtain ⟨seen, hl⟩ := h.listener
  rw [hl, List.getElem?_singleton] at hreg
  split at hreg
  · rename_i hi
    obtain rfl := Option.some.inj hreg
    exact ⟨hi, hl, rfl⟩
  · exact absurd hreg (by simp)

/-- Replies reach only a phone that listens at the desktop's root. -/
theorem Attached.here {prefs : Preferences} {s : Pair} (h : Attached prefs s) {r : Reply}
    (hr : s.replies.server = some r ∨ r ∈ s.replies.outbox) : prefs.location = desktopRoot := by
  by_contra hne
  obtain ⟨_, _, hserver, hout⟩ := h.silent hne
  rw [hserver, hout] at hr
  exact absurd hr (by simp)

section Steps

variable [CaseMap] [CanonicalForm] {prefs : Preferences} {tr : Trace PairEvent PairEffect} {s s' : Pair} {e : PairEvent}
  {os : List PairEffect}

theorem attached_phone {e : PhoneEvent} (h : Attached prefs s) (hstay : e.moves = false)
    (hs : s.step (.phone e) = some (s', os)) : Attached prefs s' := by
  obtain ⟨p, es, rm, hne, hp, _, rfl⟩ := step_phone hs
  obtain ⟨href, hregs⟩ := Phone.step_stays hp hstay
  rw [Phone.consume_registrations hne] at hregs
  refine ⟨hregs ▸ h.listener, href.trans h.reference, fun hl => ?_⟩
  obtain ⟨hdel, happ, hrep⟩ := h.silent hl
  -- what is mirrored goes to the phone's location
  have hw : appWrites es = [] := by
    obtain ⟨o, _, hh, rfl, _, _⟩ := Phone.step_eq_some hp
    rcases hh.mirrors_or with ⟨sbn, success, title, reference, rfl, _, _, hm⟩ | ⟨hset, _⟩
    · obtain rfl := Option.some.inj (h.reference.symm.trans hm.reference_eq)
      simp [hm.effects_eq, appWrites, hl]
    · exact appWrites_nil hset
  refine ⟨hdel, ?_, hrep⟩
  rw [hw]
  exact happ

theorem attached_dataChange {i : Nat} {success : Bool} (h : Attached prefs s)
    (hs : s.step (.dataChange i success) = some (s', os)) : Attached prefs s' := by
  obtain ⟨reg, p, hreg, _, rfl, hregs, hc⟩ := step_dataChange hs
  obtain ⟨rfl, hl, hloc⟩ := h.only hreg
  refine ⟨⟨some ((s.valueAt reg.location).map Reply.response), ?_⟩, hc.reference.trans h.reference,
    h.silent⟩
  rw [hregs, hl, ← hloc]
  rfl

theorem attached_step (h : Attached prefs s) (hstay : Staying tr s e) (hs : s.step e = some (s', os)) :
    Attached prefs s' := by
  cases e with
  | phone e => exact attached_phone h hstay hs
  | dataChange i success => exact attached_dataChange h hs
  | userReply i response =>
      obtain ⟨n, hn, rfl, _⟩ := step_userReply hs
      refine ⟨h.listener, h.reference, fun hl => ?_⟩
      rw [(h.silent hl).1] at hn
      exact absurd hn (by simp)
  | replyArrive =>
      obtain ⟨a, reg, hout, _, rfl, _⟩ := step_replyArrive hs
      refine ⟨h.listener, h.reference, fun hl => ?_⟩
      rw [(h.silent hl).2.2.2] at hout
      exact absurd hout (by simp)
  | appArrive =>
      obtain ⟨a, ha, hp⟩ := Option.map_eq_some_iff.mp hs
      obtain ⟨rfl, _⟩ := Prod.mk.inj hp
      obtain ⟨b, hout, _⟩ := Slot.arrive_eq_some ha
      refine ⟨h.listener, h.reference, fun hl => ?_⟩
      rw [(h.silent hl).2.1.2] at hout
      exact absurd hout (by simp)
  | appCall =>
      obtain ⟨v, d, es, hn, hd, rfl, _⟩ := step_appCall hs
      refine ⟨h.listener, h.reference, fun hl => ?_⟩
      obtain ⟨hdel, happ, hrep⟩ := h.silent hl
      rcases appObserver_eq_some hd with ⟨rfl, rfl, _⟩ | ⟨data, c, rfl, _, _, _⟩
      · exact ⟨hdel, happ, hrep⟩
      · exact absurd (happ.1.symm.trans (Slot.next_eq_some hn)) (by simp)
  | appClear =>
      obtain ⟨a, ha, hp⟩ := Option.map_eq_some_iff.mp hs
      obtain ⟨rfl, _⟩ := Prod.mk.inj hp
      obtain ⟨_, hserver, hout, _⟩ := Slot.clearReach_eq_some ha
      refine ⟨h.listener, h.reference, fun hl => ?_⟩
      obtain ⟨hdel, happ, hrep⟩ := h.silent hl
      exact ⟨hdel, ⟨hserver, hout.trans happ.2⟩, hrep⟩
  | appAck =>
      obtain ⟨a, ha, hp⟩ := Option.map_eq_some_iff.mp hs
      obtain ⟨rfl, _⟩ := Prod.mk.inj hp
      obtain ⟨hreg, _⟩ := Slot.clearAck_eq_some ha
      refine ⟨h.listener, h.reference, fun hl => ?_⟩
      obtain ⟨hdel, happ, hrep⟩ := h.silent hl
      exact ⟨hdel, by rw [hreg]; exact happ, hrep⟩
  | removeArrive =>
      obtain ⟨r, _, hp⟩ := Option.map_eq_some_iff.mp hs
      obtain ⟨rfl, _⟩ := Prod.mk.inj hp
      exact ⟨h.listener, h.reference, h.silent⟩
  | removeCall =>
      obtain ⟨d, snapshot, seen, hd, rfl, _⟩ := step_removeCall hs
      refine ⟨h.listener, h.reference, fun hl => ?_⟩
      obtain ⟨hdel, happ, hrep⟩ := h.silent hl
      exact ⟨List.sublist_nil.mp (hdel ▸ (removeObserver_eq_some hd).2), happ, hrep⟩

end Steps

/-! ## The fate of a reply -/

/-- The reply of this number is neither on its way to the node nor still to be called with. -/
def Past (s : Pair) (number : Nat) : Prop :=
  number < s.written ∧ number ∉ s.replies.outbox.map Reply.number ∧
    ∀ r ∈ s.replies.server, r.number = number → ¬ s.anyDue

theorem past_congr {s s' : Pair} (hrep : s'.replies = s.replies) (hwr : s'.written = s.written)
    (hdue : s'.anyDue ↔ s.anyDue) (number : Nat) : Past s' number ↔ Past s number := by
  unfold Past
  rw [hrep, hwr, hdue]

section Runs

variable [CaseMap] [CanonicalForm] {prefs : Preferences} {tr : Trace PairEvent PairEffect} {s s' : Pair} {e : PairEvent}
  {os : List PairEffect}

/-- **The account of the replies** after a trace. -/
structure Books (prefs : Preferences) (tr : Trace PairEvent PairEffect) (s : Pair) : Prop where
  attached : Attached prefs s
  numbered : Numbered s
  made     : ∀ r, s.replies.server = some r ∨ r ∈ s.replies.outbox →
    ∃ known, PairEffect.replied r known ∈ tr.outputs
  bound    : ∀ r known, PairEffect.replied r known ∈ tr.outputs → r.number < s.written
  unique   : ∀ r known r' known', PairEffect.replied r known ∈ tr.outputs →
    PairEffect.replied r' known' ∈ tr.outputs → r.number = r'.number → r = r'
  past     : ∀ number, PairEffect.handed number ∈ tr.outputs → Past s number
  /-- Nothing has been lost iff every reply that is past has been handed over. -/
  fate     : Run pairMachine InTime (connected prefs) tr s ↔
    ∀ r, PairEffect.replied r true ∈ tr.outputs → Past s r.number → .handed r.number ∈ tr.outputs

theorem books_init (prefs : Preferences) : Books prefs [] (connected prefs) where
  attached := attached_init prefs
  numbered := ⟨by simp [connected], by simp [connected], by simp [connected]⟩
  made     := by simp [connected]
  bound    := by simp
  unique   := by simp
  past     := by simp
  fate     := by simp [Run.nil]

/-- One step of the account: what is past stays past, and the condition says of the replies that become past
    that they are handed over. -/
theorem Books.fate_step (h : Books prefs tr s) (hr : Run pairMachine Staying (connected prefs) tr s)
    (hs : s.step e = some (s', os)) (hpast : ∀ number, Past s number → Past s' number)
    (hos : ∀ number, PairEffect.handed number ∈ os → ¬ Past s number)
    (hok : InTime tr s e ↔ ∀ r, PairEffect.replied r true ∈ tr.outputs → ¬ Past s r.number →
      Past s' r.number → PairEffect.handed r.number ∈ os)
    (hnew : ∀ r, PairEffect.replied r true ∈ os → ¬ Past s' r.number) :
    Run pairMachine InTime (connected prefs) (tr ++ [(e, os)]) s' ↔
      ∀ r, PairEffect.replied r true ∈ (tr ++ [(e, os)]).outputs → Past s' r.number →
        .handed r.number ∈ (tr ++ [(e, os)]).outputs := by
  have hsnoc : Run pairMachine InTime (connected prefs) (tr ++ [(e, os)]) s' ↔ _ := hr.guarded_snoc hs
  rw [hsnoc, h.fate, hok]
  simp only [Trace.outputs_append, Trace.outputs_singleton, List.mem_append]
  constructor
  · rintro ⟨hold, hstep⟩ r hrep hp
    rcases hrep with hrep | hrep
    · by_cases hps : Past s r.number
      · exact Or.inl (hold r hrep hps)
      · exact Or.inr (hstep r hrep hps hp)
    · exact absurd hp (hnew r hrep)
  · intro hall
    refine ⟨fun r hrep hps => ?_, fun r hrep hps hp => ?_⟩
    · rcases hall r (Or.inl hrep) (hpast _ hps) with hh | hh
      · exact hh
      · exact absurd hps (hos _ hh)
    · rcases hall r (Or.inl hrep) hp with hh | hh
      · exact absurd (h.past _ hh) hps
      · exact hh

/-- A step that makes no reply. -/
theorem Books.unmade (h : Books prefs tr s) (hs : s.step e = some (s', os)) (hatt : Attached prefs s')
    (hrep : ∀ r, s'.replies.server = some r ∨ r ∈ s'.replies.outbox →
      s.replies.server = some r ∨ r ∈ s.replies.outbox)
    (hwr : s'.written = s.written) (hreplied : ∀ r known, PairEffect.replied r known ∉ os)
    (hpast : ∀ number, Past s number → Past s' number)
    (hhanded : ∀ number, PairEffect.handed number ∈ os → ¬ Past s number ∧ Past s' number)
    (hok : InTime tr s e ↔ ∀ r, PairEffect.replied r true ∈ tr.outputs → ¬ Past s r.number →
      Past s' r.number → PairEffect.handed r.number ∈ os)
    (hr : Run pairMachine Staying (connected prefs) tr s) : Books prefs (tr ++ [(e, os)]) s' := by
  refine ⟨hatt, numbered_step h.numbered hs, ?_, ?_, ?_, ?_, ?_⟩
  · intro r hm
    obtain ⟨known, hk⟩ := h.made r (hrep r hm)
    exact ⟨known, by simp [hk]⟩
  · intro r known hm
    rw [hwr]
    exact h.bound r known (by simpa [hreplied] using hm)
  · intro r known r' known' hm hm'
    exact h.unique r known r' known' (by simpa [hreplied] using hm) (by simpa [hreplied] using hm')
  · intro number hm
    rw [Trace.outputs_append, Trace.outputs_singleton, List.mem_append] at hm
    exact hm.elim (fun hm => hpast number (h.past number hm)) (fun hm => (hhanded number hm).2)
  · exact h.fate_step hr hs hpast (fun number hm => (hhanded number hm).1) hok
      (fun r hm => absurd hm (hreplied r true))

/-- A step that makes, delivers and handles no reply. -/
theorem Books.keep (h : Books prefs tr s) (hr : Run pairMachine Staying (connected prefs) tr s)
    (hs : s.step e = some (s', os)) (hatt : Attached prefs s') (hrep : s'.replies = s.replies)
    (hwr : s'.written = s.written) (hregs : s'.phone.registrations = s.phone.registrations)
    (hhanded : ∀ number, PairEffect.handed number ∉ os)
    (hreplied : ∀ r known, PairEffect.replied r known ∉ os) (hok : InTime tr s e) :
    Books prefs (tr ++ [(e, os)]) s' := by
  have hpast := past_congr hrep hwr (anyDue_congr hregs hrep)
  refine h.unmade hs hatt (by rw [hrep]; exact fun _ hm => hm) hwr hreplied (fun n => (hpast n).mpr)
    (fun n hm => absurd hm (hhanded n)) ?_ hr
  exact ⟨fun _ r _ hps hp => absurd ((hpast _).mp hp) hps, fun _ => hok⟩

theorem books_dataChange {i : Nat} {success : Bool} (h : Books prefs tr s)
    (hr : Run pairMachine Staying (connected prefs) tr s)
    (hs : s.step (.dataChange i success) = some (s', os)) :
    Books prefs (tr ++ [(.dataChange i success, os)]) s' := by
  have hatt := attached_dataChange h.attached hs
  obtain ⟨reg, p, hreg, hdue, rfl, hregs, hc⟩ := step_dataChange hs
  obtain ⟨hi, hl, hregl⟩ := h.attached.only hreg
  -- the only registration has been called
  have hnodue : ¬ Pair.anyDue { s with phone := p } := by
    intro hd
    obtain ⟨reg', hmem, _⟩ := anyDue_of_call hreg hregs hd
    rw [hl, hi] at hmem
    exact absurd hmem (by simp)
  have hpast : ∀ number, Past { s with phone := p } number ↔
      number < s.written ∧ number ∉ s.replies.outbox.map Reply.number :=
    fun number => ⟨fun hp => ⟨hp.1, hp.2.1⟩, fun hp => ⟨hp.1, hp.2, fun _ _ _ => hnodue⟩⟩
  -- a reply at the node is what the call is about
  have hvalue : ∀ r, s.replies.server = some r → s.valueAt reg.location = some r ∧ s.anyDue := by
    intro r hserver
    have hloc : reg.location = desktopRoot := hregl.trans (h.attached.here (Or.inl hserver))
    refine ⟨?_, reg, List.mem_of_getElem? hreg, hloc, hdue⟩
    rw [Pair.valueAt, if_pos hloc, hserver]
  have hreplied : ∀ r known, PairEffect.replied r known ∉ os := by
    intro r known hm
    cases hc with
    | ignored _ _ ho | dropped _ _ _ ho | answered _ _ _ _ ho => simp [ho] at hm
  have hhanded : ∀ number, PairEffect.handed number ∈ os ↔
      ∃ r, s.replies.server = some r ∧ r.number = number ∧ s.entry r.response ≠ none := by
    intro number
    cases hc with
    | ignored he _ ho =>
        refine ⟨fun hm => absurd hm (by simp [ho]), ?_⟩
        rintro ⟨r, hserver, _, hne⟩
        exact absurd (he r (hvalue r hserver).1) hne
    | @dropped r model hv he _ ho =>
        have hserver := (valueAt_eq_some hv).2
        simp [ho, hserver, he, eq_comm]
    | @answered r model sent o hv he _ _ ho =>
        have hserver := (valueAt_eq_some hv).2
        simp [ho, hserver, he, eq_comm]
  refine h.unmade hs hatt (fun _ hm => hm) rfl hreplied
    (fun number hp => (hpast number).mpr ⟨hp.1, hp.2.1⟩) ?_ ?_ hr
  · intro number hm
    obtain ⟨r, hserver, rfl, _⟩ := (hhanded number).mp hm
    exact ⟨fun hp => hp.2.2 r hserver rfl (hvalue r hserver).2,
      (hpast _).mpr ⟨h.numbered.bound r (Or.inl hserver), h.numbered.server r hserver⟩⟩
  · constructor
    · intro hok r hrep hps hp
      obtain ⟨hlt, hout⟩ := (hpast r.number).mp hp
      -- what becomes past is the reply at the node
      obtain ⟨r', hserver, hnum⟩ : ∃ r', s.replies.server = some r' ∧ r'.number = r.number := by
        by_contra hno
        exact hps ⟨hlt, hout, fun r' hr' hnum => absurd ⟨r', hr', hnum⟩ hno⟩
      obtain ⟨known, hk⟩ := h.made r' (Or.inl hserver)
      obtain rfl := h.unique r' known r true hk hrep hnum
      exact (hhanded _).mpr ⟨r', hserver, rfl, hok r' hserver hrep⟩
    · intro hall r hserver hrep
      have hm := hall r hrep (fun hp => hp.2.2 r hserver rfl (hvalue r hserver).2)
        ((hpast _).mpr ⟨h.bound r true hrep, h.numbered.server r hserver⟩)
      obtain ⟨r', hserver', _, hne⟩ := (hhanded _).mp hm
      obtain rfl := Option.some.inj (hserver.symm.trans hserver')
      exact hne

theorem books_replyArrive (h : Books prefs tr s) (hr : Run pairMachine Staying (connected prefs) tr s)
    (hs : s.step .replyArrive = some (s', os)) : Books prefs (tr ++ [(.replyArrive, os)]) s' := by
  have hatt : Attached prefs s' := attached_step h.attached (show Staying tr s .replyArrive from trivial) hs
  have hnum' := numbered_step h.numbered hs
  obtain ⟨a, reg, hout, hserver, rfl, rfl⟩ := step_replyArrive hs
  obtain ⟨seen, hl⟩ := h.attached.listener
  have hown : a ∈ s.replies.outbox := by simp [hout]
  have ha := h.made a (Or.inr hown)
  have hloc : prefs.location = desktopRoot := h.attached.here (Or.inr hown)
  have hdue : Pair.anyDue { s with replies := reg } ↔ seen ≠ some (some a.response) := by
    have hiff := anyDue_iff (s := { s with replies := reg }) hloc hl
    rw [hiff, hserver]
    rfl
  -- what arrives is past at once just when the listener was called last with an equal reply
  have hpast : ∀ number, Past { s with replies := reg } number ↔
      number < s.written ∧ number ∉ reg.outbox.map Reply.number ∧
        (a.number = number → seen = some (some a.response)) := by
    intro number
    simp only [Past, hdue, hserver, Option.mem_def, Option.some.injEq, forall_eq', not_not]
  have hnum : ∀ number, number ∉ s.replies.outbox.map Reply.number ↔
      number ≠ a.number ∧ number ∉ reg.outbox.map Reply.number := by
    intro number
    rw [hout, List.map_cons, List.mem_cons, not_or]
  refine h.unmade hs hatt ?_ rfl (by simp) ?_ (by simp) ?_ hr
  · intro r hm
    right
    rw [hout]
    rcases hm with hm | hm
    · obtain rfl := Option.some.inj (hserver.symm.trans hm)
      exact List.mem_cons_self
    · exact List.mem_cons_of_mem a hm
  · intro number hp
    obtain ⟨hne, hrest⟩ := (hnum number).mp hp.2.1
    exact (hpast number).mpr ⟨hp.1, hrest, fun hc => absurd hc.symm hne⟩
  · constructor
    · rintro ⟨hread, hdiff⟩ r hrep hps hp
      obtain ⟨hlt, hrest, hseen⟩ := (hpast _).mp hp
      exfalso
      by_cases hra : r.number = a.number
      · -- the reply arrives, and the listener is not called with it
        obtain ⟨known, hk⟩ := ha
        obtain rfl := h.unique r true a known hrep hk hra
        exact hdiff r (by rw [hout]; rfl) hrep ⟨prefs.location, seen⟩ (by rw [hl]; simp)
          (hseen rfl)
      · -- the reply at the node is replaced before the listener has been called with it
        refine hps ⟨hlt, (hnum _).mpr ⟨hra, hrest⟩, fun r' hr' hnum' hd => ?_⟩
        obtain ⟨known, hk⟩ := h.made r' (Or.inl hr')
        obtain rfl := h.unique r' known r true hk hrep hnum'
        exact hread hd r' hr' hrep
    · intro hall
      refine ⟨fun hd r hr' hrep => ?_, fun r hr' hrep reg' hreg' hseen => ?_⟩
      · obtain ⟨hne, hrest⟩ := (hnum _).mp (h.numbered.server r hr')
        have hm := hall r hrep (fun hp => hp.2.2 r hr' rfl hd)
          ((hpast _).mpr ⟨h.bound r true hrep, hrest, fun hc => absurd hc.symm hne⟩)
        exact absurd hm (by simp)
      · obtain rfl : a = r := by simpa [hout] using hr'
        rw [hl, List.mem_singleton] at hreg'
        subst hreg'
        have hm := hall a hrep (fun hp => hp.2.1 (by simp [hout]))
          ((hpast _).mpr ⟨h.bound a true hrep, hnum'.server a hserver, fun _ => hseen⟩)
        exact absurd hm (by simp)

theorem books_userReply {i : Nat} {response : Option String} (h : Books prefs tr s)
    (hr : Run pairMachine Staying (connected prefs) tr s)
    (hs : s.step (.userReply i response) = some (s', os)) :
    Books prefs (tr ++ [(.userReply i response, os)]) s' := by
  have hatt : Attached prefs s' :=
    attached_step h.attached (show Staying tr s (.userReply i response) from trivial) hs
  obtain ⟨n, _, hs', hos⟩ := step_userReply hs
  have hrep : s'.replies = s.replies.write ⟨s.written, (s.desktop.didActivate n response).2⟩ := by
    rw [hs']
  have hwr : s'.written = s.written + 1 := by rw [hs']
  have hdue : s'.anyDue ↔ s.anyDue := by rw [hs']; exact Iff.rfl
  have hpast : ∀ number, Past s' number ↔ Past s number := by
    intro number
    simp only [Past, hrep, hwr, hdue, Register.write_outbox, Register.write_server, List.map_append,
      List.map_cons, List.map_nil, List.mem_append, List.mem_singleton, not_or]
    constructor
    · rintro ⟨hlt, ⟨hout, hne⟩, hserver⟩
      exact ⟨by omega, hout, hserver⟩
    · rintro ⟨hlt, hout, hserver⟩
      exact ⟨by omega, ⟨hout, by omega⟩, hserver⟩
  have hreplied : ∀ r known, PairEffect.replied r known ∈ os → r.number = s.written := by
    intro r known hm
    rw [hos, List.mem_singleton, PairEffect.replied.injEq] at hm
    rw [hm.1]
  have hhanded : ∀ number, PairEffect.handed number ∉ os := by simp [hos]
  refine ⟨hatt, numbered_step h.numbered hs, ?_, ?_, ?_, ?_, ?_⟩
  · intro r hm
    rw [hrep, Register.write_server, Register.write_outbox, List.mem_append, List.mem_singleton] at hm
    rw [Trace.outputs_append, Trace.outputs_singleton]
    rcases hm with hm | hm | rfl
    · obtain ⟨known, hk⟩ := h.made r (Or.inl hm)
      exact ⟨known, List.mem_append_left _ hk⟩
    · obtain ⟨known, hk⟩ := h.made r (Or.inr hm)
      exact ⟨known, List.mem_append_left _ hk⟩
    · exact ⟨_, List.mem_append_right _ (hos ▸ List.mem_singleton_self _)⟩
  · intro r known hm
    rw [Trace.outputs_append, Trace.outputs_singleton, List.mem_append] at hm
    rw [hwr]
    rcases hm with hm | hm
    · exact Nat.lt_succ_of_lt (h.bound r known hm)
    · rw [hreplied r known hm]
      exact Nat.lt_succ_self _
  · intro r known r' known' hm hm' hnum
    rw [Trace.outputs_append, Trace.outputs_singleton, List.mem_append] at hm hm'
    rcases hm with hm | hm <;> rcases hm' with hm' | hm'
    · exact h.unique r known r' known' hm hm' hnum
    · have hlt := h.bound r known hm
      rw [hnum, hreplied r' known' hm'] at hlt
      exact absurd hlt (Nat.lt_irrefl _)
    · have hlt := h.bound r' known' hm'
      rw [← hnum, hreplied r known hm] at hlt
      exact absurd hlt (Nat.lt_irrefl _)
    · rw [hos, List.mem_singleton, PairEffect.replied.injEq] at hm hm'
      rw [hm.1, hm'.1]
  · intro number hm
    exact (hpast number).mpr (h.past number (by simpa [hhanded] using hm))
  · refine h.fate_step hr hs (fun n => (hpast n).mpr) (fun n hm => absurd hm (hhanded n)) ?_ ?_
    · exact ⟨fun _ r _ hps hp => absurd ((hpast _).mp hp) hps, fun _ => trivial⟩
    · intro r hm hp
      have hlt := ((hpast _).mp hp).1
      rw [hreplied r true hm] at hlt
      exact absurd hlt (Nat.lt_irrefl _)

theorem books_step (h : Books prefs tr s) (hr : Run pairMachine Staying (connected prefs) tr s)
    (hstay : Staying tr s e) (hs : s.step e = some (s', os)) : Books prefs (tr ++ [(e, os)]) s' := by
  have hatt := attached_step h.attached hstay hs
  cases e with
  | phone e =>
      obtain ⟨p, es, rm, hne, hp, rfl, rfl⟩ := step_phone hs
      have hregs := (Phone.step_stays hp hstay).2
      rw [Phone.consume_registrations hne] at hregs
      exact h.keep hr hs hatt rfl rfl hregs (by simp) (by simp) trivial
  | dataChange i success => exact books_dataChange h hr hs
  | userReply i response => exact books_userReply h hr hs
  | replyArrive => exact books_replyArrive h hr hs
  | appCall =>
      obtain ⟨v, d, es, _, _, rfl, rfl⟩ := step_appCall hs
      exact h.keep hr hs hatt rfl rfl rfl (by simp) (by simp) trivial
  | removeCall =>
      obtain ⟨d, snapshot, seen, _, rfl, rfl⟩ := step_removeCall hs
      exact h.keep hr hs hatt rfl rfl rfl (by simp) (by simp) trivial
  | appArrive | appClear | appAck | removeArrive =>
      obtain ⟨x, _, hp⟩ := Option.map_eq_some_iff.mp hs
      obtain ⟨rfl, rfl⟩ := Prod.mk.inj hp
      exact h.keep hr hs hatt rfl rfl rfl (by simp) (by simp) trivial

theorem books_run (h : Run pairMachine Staying (connected prefs) tr s) : Books prefs tr s :=
  h.invariant (I := Books prefs) (books_init prefs) (fun hr hI hok hs => books_step hI hr hok hs)

/-- **At rest every reply that was made on an entry of the table has been handed over iff all of them came in
    time.** -/
theorem handed_iff (h : Run pairMachine Staying (connected prefs) tr s) (hrest : atRest s) :
    AllHanded tr ↔ Run pairMachine InTime (connected prefs) tr s := by
  have hb := books_run h
  -- at rest every reply is past
  have hpast : ∀ r known, PairEffect.replied r known ∈ tr.outputs → Past s r.number := by
    intro r known hm
    exact ⟨hb.bound r known hm, by simp [hrest.1], fun _ _ _ => hrest.2⟩
  rw [hb.fate]
  exact ⟨fun hall r hm _ => hall r hm, fun hall r hm => hall r hm (hpast r true hm)⟩

end Runs

/-! ## Two replies that differ, and two that are equal -/

open scoped AsIs

/-- Ann writes twice, and the user answers each message with one of the texts. -/
def twoAnswers (first second : String) : List PairEvent :=
  [.dataChange 0 true,
   .phone (.posted (App.whatsApp.message "Ann" "hello" 1) true), .appArrive, .appCall, .appClear, .appAck,
   .userReply 0 (some first), .replyArrive, .dataChange 0 true, .appCall, .appClear, .appAck,
   .phone (.posted (App.whatsApp.message "Ann" "bye" 2) true), .appArrive, .appCall, .appClear, .appAck,
   .userReply 0 (some second), .replyArrive]

theorem okBye_enabled :
    (pairMachine.exec Staying (connected .notifyMode)
      (twoAnswers "ok" "bye" ++ [.dataChange 0 true])).isSome := by decide

theorem okBye_handed :
    AllHanded ((pairMachine.exec Staying (connected .notifyMode)
        (twoAnswers "ok" "bye" ++ [.dataChange 0 true])).get okBye_enabled).2 ↔
      Run pairMachine InTime (connected .notifyMode)
        ((pairMachine.exec Staying (connected .notifyMode)
          (twoAnswers "ok" "bye" ++ [.dataChange 0 true])).get okBye_enabled).2
        ((pairMachine.exec Staying (connected .notifyMode)
          (twoAnswers "ok" "bye" ++ [.dataChange 0 true])).get okBye_enabled).1 :=
  handed_iff (run_exec_get okBye_enabled) (by decide)

theorem okOk_enabled :
    (pairMachine.exec Staying (connected .notifyMode) (twoAnswers "ok" "ok")).isSome := by decide

/-- The second of two equal replies does not change the node, and the phone is never called with it. -/
theorem handed_fails : ¬ ∀ (prefs : Preferences) (tr : Trace PairEvent PairEffect) (s : Pair),
    prefs.isNotifyOn = true → Run pairMachine Staying (connected prefs) tr s → atRest s →
      AllHanded tr := by
  intro h
  have hall := h .notifyMode _ _ rfl (run_exec_get okOk_enabled) (by decide)
  have hlost := hall ⟨1, Record.put (Record.put (Record.put (Record.put ∅
    "name" (some "Ann")) "message" (some "ok")) "app_name" (some "com.whatsapp")) "id" (some "ann")⟩
    (by decide)
  exact absurd hlost (by decide)

end ReplyChannel
end NotifyMe
