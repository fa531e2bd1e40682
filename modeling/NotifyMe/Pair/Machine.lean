import NotifyMe.Desktop.ViewController
import NotifyMe.Phone.Machine
import NotifyMe.Reactive.Register

/-!
# `Pair.Machine` — the phone and the desktop over the database

The two programs and the three nodes they share under the desktop's root, each a last-writer-wins location:

* `app` — written by the phone; the desktop is called with its value and clears it (a `Slot`).
* `desktop` — written by the desktop, one reply after the other, and never cleared. A registration of the
  phone's listener is called with the current value when it has not been called yet, and afterwards
  whenever the value differs from the one it was last called with.
* `remove` — written by the phone, read by the desktop in the same way.

A write reaches its node some time after it was made, in the order of the writes. Replies are numbered, so
that what the phone does can be traced back to one of them; the programs do not see the numbers.
-/

namespace NotifyMe

open Reactive

/-- The root that the desktop has built in. -/
def desktopRoot : String := "notifyme/123456789"

/-- A write to the `desktop` node, the `number`-th of all. -/
structure Reply where
  number   : Nat
  response : Record
  deriving DecidableEq

structure Pair where
  phone      : Phone
  desktop    : ViewController         := {}
  app        : Slot Record            := {}
  replies    : Register Reply         := {}
  remove     : Register String        := {}
  removeSeen : Option (Option String) := none
  written    : Nat                    := 0

inductive PairEvent where
  /-- An event of the phone, other than a data change. -/
  | phone (e : PhoneEvent)
  /-- The `i`-th registration of the phone's listener is called. -/
  | dataChange (i : Nat) (success : Bool)
  /-- The user answers the `i`-th notification on the desktop's screen. -/
  | userReply (i : Nat) (response : Option String)
  | replyArrive
  /-- A record of the phone reaches the `app` node; the desktop is called; one of its clears reaches the node;
      it is acknowledged. -/
  | appArrive
  | appCall
  | appClear
  | appAck
  | removeArrive
  | removeCall
  deriving DecidableEq

inductive PairEffect where
  /-- An effect of the phone, in a handler other than `onDataChange`. -/
  | phone (e : Effect)
  /-- The phone hands the reply of this number to `reply()`. -/
  | handed (number : Nat)
  /-- An effect of the phone in the handling of the reply of this number. -/
  | answered (number : Nat) (e : Effect)
  | desktop (e : DesktopEffect)
  /-- The desktop writes a reply; `known` says whether its id is then a key of the phone's table. -/
  | replied (r : Reply) (known : Bool)
  deriving DecidableEq

namespace Pair

/-- What the database takes from an effect of the phone. -/
def apply (s : Pair) : Effect → Pair
  | .setApp location object =>
      if location = desktopRoot then { s with app := s.app.write object } else s
  | .setRemoveId location id =>
      if location = desktopRoot then { s with remove := s.remove.write id } else s
  | _ => s

/-- The value of the `desktop` node under a location. -/
def valueAt (s : Pair) (location : String) : Option Reply :=
  if location = desktopRoot then s.replies.server else none

/-- The registration is to be called: for the first time, or with a new value. -/
def due (s : Pair) (reg : Registration) : Prop :=
  reg.seen ≠ some ((s.valueAt reg.location).map Reply.response)

instance (s : Pair) (reg : Registration) : Decidable (s.due reg) := by unfold due; infer_instance

/-- Some registration with the `desktop` node is still to be called. -/
def anyDue (s : Pair) : Prop :=
  ∃ reg ∈ s.phone.registrations, reg.location = desktopRoot ∧ s.due reg

instance (s : Pair) : Decidable s.anyDue := by unfold anyDue; infer_instance

/-- The entry of the phone's table that a response is for. -/
def entry (s : Pair) (response : Record) : Option NotificationModel :=
  (response.lookup "id").bind s.phone.service.hashMap.lookup

/-- The outputs of a call of the phone's listener with a value of the node. -/
def callOutputs (s : Pair) (value : Option Reply) (es : List Effect) : List PairEffect :=
  match value with
  | none   => es.map .phone
  | some r =>
      (if (s.entry r.response).isSome then [.handed r.number] else []) ++
        es.map (.answered r.number)

/-- The notification that a step mirrored under one of these roots. -/
def mirroredIn (roots : String → Bool) (x : PairEvent × List PairEffect) : Option StatusBarNotification :=
  match x.1 with
  | .phone e => Phone.mirroredIn roots (e, x.2.filterMap fun | .phone e => some e | _ => none)
  | _ => none

theorem mirroredIn_phone (roots : String → Bool) (e : PhoneEvent) (es : List Effect) :
    mirroredIn roots (.phone e, es.map .phone) = Phone.mirroredIn roots (e, es) := by
  simp [mirroredIn, List.filterMap_map]

def step [CaseMap] [CanonicalForm] (s : Pair) : PairEvent → Option (Pair × List PairEffect)
  | .phone (.dataChange _ _ _) => none
  | .phone e =>
      (s.phone.step e).map fun r => (r.2.foldl apply { s with phone := r.1 }, r.2.map .phone)
  | .dataChange i success =>
      s.phone.registrations[i]?.bind fun reg =>
        if s.due reg then
          let value := s.valueAt reg.location
          (s.phone.step (.dataChange i (value.map Reply.response) success)).map fun r =>
            ({ s with phone := r.1 }, s.callOutputs value r.2)
        else none
  | .userReply i response =>
      s.desktop.delivered[i]?.map fun n =>
        let r := s.desktop.didActivate n response
        let reply : Reply := ⟨s.written, r.2⟩
        ({ s with desktop := r.1, replies := s.replies.write reply, written := s.written + 1 },
          [.replied reply (s.entry r.2).isSome])
  | .replyArrive => s.replies.arrive.map fun r => ({ s with replies := r }, [])
  | .appArrive   => s.app.arrive.map fun a => ({ s with app := a }, [])
  | .appCall     => s.app.next.bind fun v =>
      (s.desktop.appObserver v).map fun r =>
        ({ s with desktop := r.1, app := s.app.call v }, r.2.map .desktop)
  | .appClear    => s.app.clearReach.map fun a => ({ s with app := a }, [])
  | .appAck      => s.app.clearAck.map fun a => ({ s with app := a }, [])
  | .removeArrive => s.remove.arrive.map fun r => ({ s with remove := r }, [])
  | .removeCall  =>
      if s.removeSeen = some s.remove.server then none
      else (s.desktop.removeObserver (s.remove.server.map fun id => Record.put ∅ "id" (some id))).map
        fun d => ({ s with desktop := d, removeSeen := some s.remove.server }, [])

/-- Both programs started; the phone with the preferences as they are then. -/
def created (prefs : Preferences) : Pair := { phone := Phone.created prefs }

theorem valueAt_eq_some {s : Pair} {location : String} {r : Reply} (h : s.valueAt location = some r) :
    location = desktopRoot ∧ s.replies.server = some r := by
  unfold valueAt at h
  split at h
  · rename_i hl
    exact ⟨hl, h⟩
  · exact absurd h (by simp)

/-! ## What a step does -/

/-- What a call of the phone's listener with a value of the node can do. -/
inductive Called (s : Pair) (value : Option Reply) (success : Bool) (service : Service)
    (os : List PairEffect) : Prop where
  /-- There is no reply, or its id has no entry. -/
  | ignored (he : ∀ r, value = some r → s.entry r.response = none) (hs : service = s.phone.service)
      (ho : os = [])
  /-- `reply()` is called and sends nothing. -/
  | dropped {r model} (hv : value = some r) (he : s.entry r.response = some model)
      (hs : service = s.phone.service) (ho : os = [.handed r.number])
  /-- `reply()` is called and sends. -/
  | answered {r model sent o} (hv : value = some r) (he : s.entry r.response = some model)
      (h : Service.Answers s.phone.service ⟨model.remoteInputs, model.pendingIntent⟩
        (r.response.lookup "name") (r.response.lookup "app_name") (r.response.lookup "message")
        (r.response.lookup "id") success o sent)
      (hs : service = o.service) (ho : os = [.handed r.number, .answered r.number (.send sent)])

/-- The handling of a reply does not move the listener. -/
theorem Called.reference {s : Pair} {value : Option Reply} {success : Bool} {service : Service}
    {os : List PairEffect} (h : Called s value success service os) :
    service.reference = s.phone.service.reference := by
  cases h with
  | ignored _ hs _ | dropped _ _ hs _ => rw [hs]
  | answered _ _ ha hs _ => rw [hs, ha.service_reference]

/-- The records that effects write to the `app` node. -/
def appWrites (es : List Effect) : List Record :=
  es.filterMap fun
    | .setApp location object => if location = desktopRoot then some object else none
    | _ => none

theorem appWrites_nil {es : List Effect} (h : ∀ location object, Effect.setApp location object ∉ es) :
    appWrites es = [] := by
  rw [appWrites, List.filterMap_eq_nil_iff]
  intro x hx
  cases x with
  | setApp location object => exact absurd hx (h location object)
  | _ => rfl

/-- The effects of the phone reach nothing but the `app` and the `remove` node. -/
theorem foldl_apply (es : List Effect) (s : Pair) :
    ∃ r, es.foldl apply s =
      { s with app := (appWrites es).foldl Slot.write s.app, remove := r } := by
  induction es generalizing s with
  | nil => exact ⟨s.remove, rfl⟩
  | cons e es ih =>
      obtain ⟨r, h⟩ := ih (s.apply e)
      refine ⟨r, ?_⟩
      rw [List.foldl_cons, h]
      cases e with
      | setApp location object =>
          by_cases hl : location = desktopRoot
          · simp [apply, appWrites, hl]
          · simp [apply, appWrites, hl]
      | setRemoveId location id =>
          by_cases hl : location = desktopRoot
          · simp [apply, appWrites, hl]
          · simp [apply, appWrites, hl]
      | _ => rfl

section Steps

variable [CaseMap] [CanonicalForm] {s s' : Pair} {os : List PairEffect}

theorem step_phone {e : PhoneEvent} (h : s.step (.phone e) = some (s', os)) :
    ∃ p es r, (∀ i object success, e ≠ .dataChange i object success) ∧
      s.phone.step e = some (p, es) ∧ os = es.map .phone ∧
      s' = { s with phone := p, app := (appWrites es).foldl Slot.write s.app, remove := r } := by
  have hne : ∀ i object success, e ≠ .dataChange i object success := by
    rintro i object success rfl
    exact absurd h (by simp [step])
  have hmap : (s.phone.step e).map (fun r => (r.2.foldl apply { s with phone := r.1 },
      r.2.map PairEffect.phone)) = some (s', os) := by
    cases e with
    | dataChange i object success => exact absurd rfl (hne i object success)
    | _ => exact h
  obtain ⟨⟨p, es⟩, hs, hr⟩ := Option.map_eq_some_iff.mp hmap
  obtain ⟨rfl, rfl⟩ := Prod.mk.inj hr
  obtain ⟨r, hf⟩ := foldl_apply es { s with phone := p }
  exact ⟨p, es, r, hne, hs, rfl, hf⟩

/-- **A call of the phone's listener.** -/
theorem step_dataChange {i : Nat} {success : Bool} (h : s.step (.dataChange i success) = some (s', os)) :
    ∃ reg p, s.phone.registrations[i]? = some reg ∧ s.due reg ∧ s' = { s with phone := p } ∧
      p.registrations = s.phone.registrations.modify i (fun reg' =>
        { reg' with seen := some ((s.valueAt reg.location).map Reply.response) }) ∧
      Called s (s.valueAt reg.location) success p.service os := by
  obtain ⟨reg, hreg, hif⟩ := Option.bind_eq_some_iff.mp h
  split at hif
  · rename_i hdue
    obtain ⟨⟨p, es⟩, hs, hr⟩ := Option.map_eq_some_iff.mp hif
    obtain ⟨rfl, rfl⟩ := Prod.mk.inj hr
    obtain ⟨hregs, hcase⟩ := Phone.step_dataChange hs
    refine ⟨reg, p, hreg, hdue, rfl, hregs, ?_⟩
    rcases hcase with ⟨rfl, hsv⟩ | ⟨r, id, model, sent, o, hv, hid, hmodel, ha, rfl, hsv⟩
    · cases hv : s.valueAt reg.location with
      | none => exact Called.ignored (by simp) hsv rfl
      | some r =>
          cases he : s.entry r.response with
          | none =>
              refine Called.ignored (fun r' hr' => ?_) hsv (by simp [callOutputs, he])
              rw [← Option.some.inj hr', he]
          | some model => exact Called.dropped rfl he hsv (by simp [callOutputs, he])
    · obtain ⟨r', hr', rfl⟩ := Option.map_eq_some_iff.mp hv
      have he : s.entry r'.response = some model := by simp [entry, hid, hmodel]
      rw [hr']
      rw [← hid] at ha
      exact Called.answered rfl he ha hsv (by simp [callOutputs, he])
  · exact absurd hif (by simp)

theorem step_userReply {i : Nat} {response : Option String}
    (h : s.step (.userReply i response) = some (s', os)) :
    ∃ n, n ∈ s.desktop.delivered ∧
      s' = { s with
        desktop := (s.desktop.didActivate n response).1
        replies := s.replies.write ⟨s.written, (s.desktop.didActivate n response).2⟩
        written := s.written + 1 } ∧
      os = [.replied ⟨s.written, (s.desktop.didActivate n response).2⟩
        (s.entry (s.desktop.didActivate n response).2).isSome] := by
  obtain ⟨n, hn, hr⟩ := Option.map_eq_some_iff.mp h
  obtain ⟨rfl, rfl⟩ := Prod.mk.inj hr
  exact ⟨n, List.mem_of_getElem? hn, rfl, rfl⟩

theorem step_appCall (h : s.step .appCall = some (s', os)) :
    ∃ v d es, s.app.next = some v ∧ s.desktop.appObserver v = some (d, es) ∧
      s' = { s with desktop := d, app := s.app.call v } ∧ os = es.map .desktop := by
  obtain ⟨v, hv, hm⟩ := Option.bind_eq_some_iff.mp h
  obtain ⟨⟨d, es⟩, hd, hr⟩ := Option.map_eq_some_iff.mp hm
  obtain ⟨rfl, rfl⟩ := Prod.mk.inj hr
  exact ⟨v, d, es, hv, hd, rfl, rfl⟩

theorem step_removeCall (h : s.step .removeCall = some (s', os)) :
    ∃ d snapshot seen, s.desktop.removeObserver snapshot = some d ∧
      s' = { s with desktop := d, removeSeen := seen } ∧ os = [] := by
  simp only [step] at h
  split at h
  · exact absurd h (by simp)
  · obtain ⟨d, hd, hr⟩ := Option.map_eq_some_iff.mp h
    obtain ⟨rfl, rfl⟩ := Prod.mk.inj hr
    exact ⟨d, _, _, hd, rfl, rfl⟩

end Steps

/-! ## Registrations that are still to be called -/

/-- Whether a call is outstanding depends on the registrations and the replies. -/
theorem anyDue_congr {s s' : Pair} (hregs : s'.phone.registrations = s.phone.registrations)
    (hrep : s'.replies = s.replies) : s'.anyDue ↔ s.anyDue := by
  unfold anyDue due valueAt
  rw [hregs, hrep]

/-- After a call the registration that was called is not due; one that is was so before. -/
theorem anyDue_of_call {s : Pair} {i : Nat} {reg : Registration} {p : Phone}
    (hreg : s.phone.registrations[i]? = some reg)
    (hregs : p.registrations = s.phone.registrations.modify i (fun reg' =>
      { reg' with seen := some ((s.valueAt reg.location).map Reply.response) }))
    (h : ({ s with phone := p } : Pair).anyDue) :
    ∃ reg' ∈ s.phone.registrations.eraseIdx i, reg'.location = desktopRoot ∧ s.due reg' := by
  obtain ⟨reg', hmem, hloc, hdue⟩ := h
  obtain ⟨j, hj⟩ := List.mem_iff_getElem?.mp hmem
  rw [hregs, List.getElem?_modify] at hj
  by_cases hji : i = j
  · subst hji
    simp only [hreg, Option.map_eq_map, Option.map_some, if_true, Option.some.injEq] at hj
    subst hj
    exact absurd rfl hdue
  · simp only [if_neg hji, Option.map_eq_map, Option.map_id'] at hj
    exact ⟨reg', List.mem_eraseIdx_iff_getElem?.mpr ⟨j, Ne.symm hji, hj⟩, hloc, hdue⟩

theorem anyDue_before_call {s : Pair} {i : Nat} {reg : Registration} {p : Phone}
    (hreg : s.phone.registrations[i]? = some reg)
    (hregs : p.registrations = s.phone.registrations.modify i (fun reg' =>
      { reg' with seen := some ((s.valueAt reg.location).map Reply.response) }))
    (h : ({ s with phone := p } : Pair).anyDue) : s.anyDue := by
  obtain ⟨reg', hmem, hloc, hdue⟩ := anyDue_of_call hreg hregs h
  exact ⟨reg', List.mem_of_mem_eraseIdx hmem, hloc, hdue⟩

/-- Without an attachment to the node no registration becomes due in an event of the phone. -/
theorem anyDue_of_phone [CaseMap] {s : Pair} {e : PhoneEvent} {p : Phone} {es : List Effect} {a : Slot Record}
    {rm : Register String} (hne : ∀ i object success, e ≠ .dataChange i object success)
    (hp : s.phone.step e = some (p, es)) (hattach : s.phone.attachesTo e ≠ some desktopRoot)
    (h : ({ s with phone := p, app := a, remove := rm } : Pair).anyDue) : s.anyDue := by
  obtain ⟨reg, hreg, hloc, hdue⟩ := h
  rcases Phone.mem_step_registrations hp hreg with hold | hnew
  · rw [Phone.consume_registrations hne] at hold
    exact ⟨reg, hold, hloc, hdue⟩
  · exact absurd (hloc ▸ hnew) hattach

end Pair

def pairMachine [CaseMap] [CanonicalForm] : Machine Pair PairEvent PairEffect := ⟨Pair.step⟩

namespace Pair

/-! ## The numbers of the replies -/

/-- The numbers of the replies under way, and of the one at the node, are distinct and in use. -/
structure Numbered (s : Pair) : Prop where
  nodup  : (s.replies.outbox.map Reply.number).Nodup
  server : ∀ r, s.replies.server = some r → r.number ∉ s.replies.outbox.map Reply.number
  bound  : ∀ r, s.replies.server = some r ∨ r ∈ s.replies.outbox → r.number < s.written

theorem numbered_created (prefs : Preferences) : Numbered (created prefs) where
  nodup  := by simp [created]
  server := by simp [created]
  bound  := by simp [created]

/-- A new reply has a number above all others. -/
theorem Numbered.fresh {s : Pair} (h : Numbered s) : s.written ∉ s.replies.outbox.map Reply.number := by
  intro hin
  obtain ⟨r, hr, hnum⟩ := List.mem_map.mp hin
  have := h.bound r (Or.inr hr)
  omega

variable [CaseMap] [CanonicalForm] {s s' : Pair} {e : PairEvent} {os : List PairEffect}

/-- Two events touch the replies: the user makes one, or one reaches the node. -/
theorem step_replies (h : s.step e = some (s', os)) :
    (s'.replies = s.replies ∧ s'.written = s.written) ∨ (∃ i response, e = .userReply i response) ∨
      e = .replyArrive := by
  cases e with
  | phone e =>
      obtain ⟨_, _, _, _, _, _, rfl⟩ := step_phone h
      exact Or.inl ⟨rfl, rfl⟩
  | dataChange i success =>
      obtain ⟨_, _, _, _, rfl, _, _⟩ := step_dataChange h
      exact Or.inl ⟨rfl, rfl⟩
  | userReply i response => exact Or.inr (Or.inl ⟨i, response, rfl⟩)
  | replyArrive => exact Or.inr (Or.inr rfl)
  | appCall =>
      obtain ⟨_, _, _, _, _, rfl, _⟩ := step_appCall h
      exact Or.inl ⟨rfl, rfl⟩
  | removeCall =>
      obtain ⟨_, _, _, _, rfl, _⟩ := step_removeCall h
      exact Or.inl ⟨rfl, rfl⟩
  | appArrive | appClear | appAck | removeArrive =>
      obtain ⟨_, _, hp⟩ := Option.map_eq_some_iff.mp h
      obtain ⟨rfl, _⟩ := Prod.mk.inj hp
      exact Or.inl ⟨rfl, rfl⟩

/-- A reply reaches the node: the oldest one under way becomes its value. -/
theorem step_replyArrive (h : s.step .replyArrive = some (s', os)) :
    ∃ a reg, s.replies.outbox = a :: reg.outbox ∧ reg.server = some a ∧
      s' = { s with replies := reg } ∧ os = [] := by
  obtain ⟨reg, ha, hp⟩ := Option.map_eq_some_iff.mp h
  obtain ⟨rfl, rfl⟩ := Prod.mk.inj hp
  obtain ⟨a, hout, hserver⟩ := Register.arrive_eq_some ha
  exact ⟨a, reg, hout, hserver, rfl, rfl⟩

theorem numbered_step (h : Numbered s) (hs : s.step e = some (s', os)) : Numbered s' := by
  rcases step_replies hs with ⟨hrep, hwr⟩ | ⟨i, response, rfl⟩ | rfl
  · exact ⟨hrep ▸ h.nodup, hrep ▸ h.server, hrep ▸ hwr ▸ h.bound⟩
  · obtain ⟨n, _, rfl, _⟩ := step_userReply hs
    refine ⟨?_, ?_, ?_⟩
    · simp only [Register.write_outbox, List.map_append, List.map_cons, List.map_nil]
      exact List.nodup_append.mpr ⟨h.nodup, by simp, fun a ha b hb => by
        rintro rfl
        exact h.fresh (List.mem_singleton.mp hb ▸ ha)⟩
    · intro r hr
      simp only [Register.write_outbox, List.map_append, List.map_cons, List.map_nil,
        List.mem_append, List.mem_singleton, not_or]
      exact ⟨h.server r hr, Nat.ne_of_lt (h.bound r (Or.inl hr))⟩
    · intro r hr
      simp only [Register.write_server, Register.write_outbox, List.mem_append,
        List.mem_singleton] at hr
      rcases hr with hr | hr | rfl
      · exact Nat.lt_succ_of_lt (h.bound r (Or.inl hr))
      · exact Nat.lt_succ_of_lt (h.bound r (Or.inr hr))
      · exact Nat.lt_succ_self _
  · obtain ⟨a, reg, hout, hserver, rfl, _⟩ := step_replyArrive hs
    have hnodup := h.nodup
    rw [hout, List.map_cons, List.nodup_cons] at hnodup
    refine ⟨hnodup.2, ?_, ?_⟩
    · intro r hr
      obtain rfl : a = r := Option.some.inj (hserver.symm.trans hr)
      exact hnodup.1
    · intro r hr
      rcases hr with hr | hr
      · obtain rfl : a = r := Option.some.inj (hserver.symm.trans hr)
        exact h.bound a (Or.inr (by simp [hout]))
      · exact h.bound r (Or.inr (by simp [hout, hr]))

theorem numbered_run {ok : Guard Pair PairEvent PairEffect} {s₀ : Pair}
    {tr : Trace PairEvent PairEffect} (h : Run pairMachine ok s₀ tr s) (h0 : Numbered s₀) :
    Numbered s :=
  h.invariant (I := fun _ s => Numbered s) h0 (fun _ hI _ hs => numbered_step hI hs)

end Pair

end NotifyMe
