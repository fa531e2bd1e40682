import NotifyMe.Pair.Machine
import NotifyMe.Phone.Correctness.Embedded

/-!
# `Pair.Whole` — the whole

The app on the phone with its activities and its process (`Device`), and the pair of its service and the
desktop over the nodes (`Pair`), around the one service. What happens on the phone is a step of the app,
and if it concerns the service also one of the pair; a call of the listener is one with the value of the
node. The desktop and the nodes take the steps they take in the pair.

The desktop and the nodes outlive the process on the phone. What is lost with it are the writes that are
still under way from there: Android keeps none of them. A service that is destroyed takes none with it, and
its listener is still called when the reply at the node changes.

`device_run` and `across` are how results about the two are used here: what the app does is a run of
`deviceMachine`, and what the pair's steps keep, and a new service too, holds throughout.
-/

namespace NotifyMe

open Reactive Embedded

inductive WholeEvent where
  /-- On the phone, other than the end of the process. -/
  | phone (e : DeviceEvent)
  /-- The process is killed. Of the writes under way to `app` and to `remove` so many still arrive. -/
  | kill (apps removes : Nat)
  /-- At the desktop or at the nodes. -/
  | desktop (e : PairEvent)
  deriving DecidableEq

/-- An effect is one of the app, or one of the pair; those of the service are both. -/
inductive WholeEffect where
  | device (o : DeviceEffect)
  | pair (o : PairEffect)
  deriving DecidableEq

structure Whole where
  device : Device
  pair   : Pair
  same   : pair.phone = device.phone

namespace Whole

/-- What an event of the service is to the pair. -/
def pairEvent : PhoneEvent → PairEvent
  | .dataChange i _ success => .dataChange i success
  | e                       => .phone e

/-- The listener is called when it is to be, and with the value of the node. -/
def AtNode (s : Pair) : PhoneEvent → Prop
  | .dataChange i object _ => ∀ reg ∈ s.phone.registrations[i]?,
      s.due reg ∧ object = (s.valueAt reg.location).map Reply.response
  | _ => True

instance (s : Pair) (e : PhoneEvent) : Decidable (AtNode s e) :=
  match e with
  | .dataChange _ _ _ => by dsimp only [AtNode]; infer_instance
  | .listenerConnected | .listenerDisconnected | .broadcast _ | .posted _ _ | .removed _
  | .botResponse _ _ _ | .login _ | .customize _ _ => inferInstanceAs (Decidable True)

/-- And so is that of a service that has been destroyed. -/
def LateAtNode (s : Whole) : DeviceEvent → Prop
  | .afterDestroy k e => ∀ p ∈ s.device.destroyed[k]?, AtNode { s.pair with phone := p } e
  | _ => True

instance (s : Whole) (e : DeviceEvent) : Decidable (s.LateAtNode e) := by
  unfold LateAtNode
  split <;> infer_instance

/-- The pair in a step of the app, with the event of the service if it has one. -/
def pairStep [CaseMap] [CanonicalForm] (s : Pair) (d : Device) : Option PhoneEvent → Option (Pair × List PairEffect)
  | none   => some ({ s with phone := d.phone }, [])
  | some e => if AtNode s e then s.step (pairEvent e) else none

def phoneStep [CaseMap] [CanonicalForm] [PhonePattern] (s : Whole) (e : DeviceEvent) :
    Option (Whole × List WholeEffect) :=
  (s.device.step e).bind fun r => (pairStep s.pair r.1 (eventOf e r.2)).map fun q =>
    (⟨r.1, { q.1 with phone := r.1.phone }, rfl⟩, r.2.map .device ++ q.2.map .pair)

def step [CaseMap] [CanonicalForm] [PhonePattern] (s : Whole) : WholeEvent → Option (Whole × List WholeEffect)
  | .phone e => if kills e = false ∧ s.LateAtNode e then s.phoneStep e else none
  | .kill apps removes => (s.device.step .kill).map fun r =>
      (⟨r.1,
        { s.pair with
          phone  := r.1.phone
          app    := { s.pair.app with outbox := s.pair.app.outbox.take apps }
          remove := { s.pair.remove with outbox := s.pair.remove.outbox.take removes } }, rfl⟩, [])
  | .desktop (.phone _) | .desktop (.dataChange _ _) => none
  | .desktop e => (s.pair.step e).map fun q =>
      (⟨s.device, { q.1 with phone := s.device.phone }, rfl⟩, q.2.map .pair)

/-- The app on a phone that has just been started, and a desktop that has just been started. -/
def installed (prefs : Preferences) (msgs : AssistMsgs) (flat : Option (List Char)) : Whole where
  device := Lifetimes.installed prefs msgs flat
  pair   := Pair.created prefs
  same   := rfl

/-! ## The two parts -/

def deviceEffects (os : List WholeEffect) : List DeviceEffect :=
  os.filterMap fun
    | .device o => some o
    | .pair _   => none

def pairEffects (os : List WholeEffect) : List PairEffect :=
  os.filterMap fun
    | .device _ => none
    | .pair o   => some o

theorem deviceEffects_append (ds : List DeviceEffect) (ps : List PairEffect) :
    deviceEffects (ds.map .device ++ ps.map .pair) = ds := by
  simp [deviceEffects, List.filterMap_append, List.filterMap_map]

theorem pairEffects_append (ds : List DeviceEffect) (ps : List PairEffect) :
    pairEffects (ds.map .device ++ ps.map .pair) = ps := by
  simp [pairEffects, List.filterMap_append, List.filterMap_map]

/-- What a step is to the app. -/
def deviceOf (x : WholeEvent × List WholeEffect) : Option (DeviceEvent × List DeviceEffect) :=
  match x.1 with
  | .phone e   => some (e, deviceEffects x.2)
  | .kill _ _  => some (.kill, [])
  | .desktop _ => none

/-- What a step is to the pair. -/
def pairOf (x : WholeEvent × List WholeEffect) : Option (PairEvent × List PairEffect) :=
  match x.1 with
  | .phone e   => (eventOf e (deviceEffects x.2)).map fun e' => (pairEvent e', pairEffects x.2)
  | .kill _ _  => none
  | .desktop e => some (e, pairEffects x.2)

@[simp] theorem deviceOf_phone (e : DeviceEvent) (ds : List DeviceEffect) (ps : List PairEffect) :
    deviceOf (.phone e, ds.map .device ++ ps.map .pair) = some (e, ds) := by
  rw [deviceOf, deviceEffects_append]

@[simp] theorem pairOf_phone (e : DeviceEvent) (ds : List DeviceEffect) (ps : List PairEffect) :
    pairOf (.phone e, ds.map .device ++ ps.map .pair) = (eventOf e ds).map fun e' => (pairEvent e', ps) := by
  rw [pairOf, deviceEffects_append, pairEffects_append]

@[simp] theorem pairOf_desktop (e : PairEvent) (ps : List PairEffect) :
    pairOf (.desktop e, ps.map .pair) = some (e, ps) := by
  rw [pairOf, show pairEffects (ps.map .pair) = ps from pairEffects_append [] ps]

/-- The service is created, or ends. -/
def starts : WholeEvent → Bool
  | .phone e   => Embedded.starts e
  | .kill _ _  => true
  | .desktop _ => false

/-- **The pair with a new service**, or without one: what is under way from the phone is cut short. -/
structure Restarted (s s' : Pair) : Prop where
  phone      : ∃ prefs, s'.phone = Phone.created prefs
  desktop    : s'.desktop = s.desktop
  app        : ∃ n, s'.app = { s.app with outbox := s.app.outbox.take n }
  replies    : s'.replies = s.replies
  removeSeen : s'.removeSeen = s.removeSeen
  written    : s'.written = s.written

theorem pairStep_some [CaseMap] [CanonicalForm] {s : Pair} {d : Device} {e : PhoneEvent} {r : Pair × List PairEffect} :
    pairStep s d (some e) = some r ↔ AtNode s e ∧ s.step (pairEvent e) = some r :=
  Option.ite_none_right_eq_some

section Steps

variable [CaseMap] [CanonicalForm] [PhonePattern] {s s' : Whole} {e : WholeEvent} {os : List WholeEffect}

theorem step_phone {e : DeviceEvent} (h : s.step (.phone e) = some (s', os)) :
    ∃ d ds q ps, s.LateAtNode e ∧ s.device.step e = some (d, ds) ∧
      pairStep s.pair d (eventOf e ds) = some (q, ps) ∧
      s' = ⟨d, { q with phone := d.phone }, rfl⟩ ∧ os = ds.map .device ++ ps.map .pair := by
  obtain ⟨⟨_, hlate⟩, hstep⟩ := Option.ite_none_right_eq_some.mp h
  obtain ⟨⟨d, ds⟩, hd, hmap⟩ := Option.bind_eq_some_iff.mp hstep
  obtain ⟨⟨q, ps⟩, hq, hr⟩ := Option.map_eq_some_iff.mp hmap
  obtain ⟨rfl, rfl⟩ := Prod.mk.inj hr
  exact ⟨d, ds, q, ps, hlate, hd, hq, rfl, rfl⟩

theorem step_kill {apps removes : Nat} (h : s.step (.kill apps removes) = some (s', os)) :
    s.device.step .kill = some (s'.device, []) ∧ os = [] ∧ Restarted s.pair s'.pair := by
  simp only [step, Option.map_eq_some_iff] at h
  obtain ⟨⟨d, ds⟩, hd, hr⟩ := h
  obtain ⟨rfl, rfl⟩ := Prod.mk.inj hr
  obtain ⟨rfl, rfl⟩ := Prod.mk.inj (Option.some.inj hd)
  exact ⟨rfl, rfl, ⟨_, rfl⟩, rfl, ⟨apps, rfl⟩, rfl, rfl, rfl⟩

theorem step_desktop {e : PairEvent} (h : s.step (.desktop e) = some (s', os)) :
    ∃ q ps, (∀ e', e ≠ .phone e') ∧ (∀ i success, e ≠ .dataChange i success) ∧
      s.pair.step e = some (q, ps) ∧
      s' = ⟨s.device, { q with phone := s.device.phone }, rfl⟩ ∧ os = ps.map .pair := by
  cases e with
  | phone e => exact absurd h (by simp [step])
  | dataChange i success => exact absurd h (by simp [step])
  | _ =>
      obtain ⟨⟨q, ps⟩, hq, hr⟩ := Option.map_eq_some_iff.mp h
      obtain ⟨rfl, rfl⟩ := Prod.mk.inj hr
      exact ⟨q, ps, by simp, by simp, hq, rfl, rfl⟩

/-- **What happens on the phone is a step of the app.** -/
theorem device_concerns (h : s.step e = some (s', os)) :
    Concerns deviceMachine s.device s'.device (deviceOf (e, os)) := by
  cases e with
  | phone e =>
      obtain ⟨d, ds, q, ps, _, hd, _, rfl, rfl⟩ := step_phone h
      rw [deviceOf_phone]
      exact .step hd
  | kill apps removes => exact .step (step_kill h).1
  | desktop e =>
      obtain ⟨q, ps, _, _, _, rfl, _⟩ := step_desktop h
      exact .nothing rfl

omit [PhonePattern] in
/-- The steps at the desktop and at the nodes leave the phone alone. -/
theorem pair_step_phone {p q : Pair} {e : PairEvent} {ps : List PairEffect} (he : ∀ e', e ≠ .phone e')
    (hd : ∀ i success, e ≠ .dataChange i success) (h : p.step e = some (q, ps)) : q.phone = p.phone := by
  cases e with
  | phone e => exact absurd rfl (he e)
  | dataChange i success => exact absurd rfl (hd i success)
  | userReply i response =>
      obtain ⟨n, _, rfl, _⟩ := Pair.step_userReply h
      rfl
  | appCall =>
      obtain ⟨_, _, _, _, _, rfl, _⟩ := Pair.step_appCall h
      rfl
  | removeCall =>
      obtain ⟨_, _, _, _, rfl, _⟩ := Pair.step_removeCall h
      rfl
  | replyArrive | appArrive | appClear | appAck | removeArrive =>
      obtain ⟨_, _, hp⟩ := Option.map_eq_some_iff.mp h
      obtain ⟨rfl, _⟩ := Prod.mk.inj hp
      rfl

omit [PhonePattern] in
/-- A step of the service is the same in the app and in the pair. -/
theorem pair_step_same {p q : Pair} {e : PhoneEvent} {ps : List PairEffect} {p' : Phone} {es : List Effect}
    (hat : AtNode p e) (h : p.step (pairEvent e) = some (q, ps)) (hp : p.phone.step e = some (p', es)) :
    q.phone = p' := by
  by_cases hrec : ∃ i object success, e = .dataChange i object success
  · obtain ⟨i, object, success, rfl⟩ := hrec
    obtain ⟨reg, hreg, hif⟩ := Option.bind_eq_some_iff.mp h
    obtain ⟨_, hmap⟩ := Option.ite_none_right_eq_some.mp hif
    obtain ⟨⟨p₁, es₁⟩, hp₁, hr⟩ := Option.map_eq_some_iff.mp hmap
    obtain ⟨rfl, _⟩ := Prod.mk.inj hr
    have hobject : object = (p.valueAt reg.location).map Reply.response := (hat reg hreg).2
    rw [← hobject, hp] at hp₁
    exact (Prod.mk.inj (Option.some.inj hp₁)).1.symm
  · have he : pairEvent e = .phone e := by
      cases e with
      | dataChange i object success => exact absurd ⟨i, object, success, rfl⟩ hrec
      | _ => rfl
    rw [he] at h
    obtain ⟨p₁, es₁, r, _, hp₁, _, rfl⟩ := Pair.step_phone h
    rw [hp] at hp₁
    exact (Prod.mk.inj (Option.some.inj hp₁)).1.symm

/-- **And what concerns the service is a step of the pair.** -/
theorem pair_concerns (he : starts e = false) (h : s.step e = some (s', os)) :
    Concerns pairMachine s.pair s'.pair (pairOf (e, os)) := by
  cases e with
  | kill apps removes => exact absurd he (by simp [starts])
  | desktop e =>
      obtain ⟨q, ps, hne, hnd, hq, rfl, rfl⟩ := step_desktop h
      have hsame : { q with phone := s.device.phone } = q := by
        rw [← s.same, ← pair_step_phone hne hnd hq]
      rw [pairOf_desktop]
      show Concerns _ _ { q with phone := s.device.phone } _
      rw [hsame]
      exact .step hq
  | phone e =>
      obtain ⟨d, ds, q, ps, _, hd, hq, rfl, rfl⟩ := step_phone h
      have hc := Embedded.concerns he hd
      rw [pairOf_phone]
      show Concerns _ _ { q with phone := d.phone } _
      cases hev : eventOf e ds with
      | none =>
          rw [hev] at hq
          obtain ⟨rfl, rfl⟩ := Prod.mk.inj (Option.some.inj hq)
          have hpart : partOf (e, ds) = none := by rw [partOf, hev]; rfl
          rw [hpart] at hc
          cases hc with
          | nothing hsame => exact .nothing (by rw [hsame, ← s.same])
      | some e' =>
          rw [hev] at hq
          obtain ⟨hat, hstep⟩ := pairStep_some.mp hq
          have hpart : partOf (e, ds) = some (e', phoneEffects ds) := by rw [partOf, hev]; rfl
          rw [hpart] at hc
          cases hc with
          | step hp =>
              have hphone : q.phone = d.phone := pair_step_same hat hstep (s.same ▸ hp)
              have hsame : { q with phone := d.phone } = q := by rw [← hphone]
              rw [hsame]
              exact .step hstep

theorem pair_restarted (he : starts e = true) (h : s.step e = some (s', os)) :
    pairOf (e, os) = none ∧ Restarted s.pair s'.pair := by
  cases e with
  | desktop e => exact absurd he (by simp [starts])
  | kill apps removes => exact ⟨rfl, (step_kill h).2.2⟩
  | phone e =>
      obtain ⟨d, ds, q, ps, _, hd, hq, rfl, rfl⟩ := step_phone h
      obtain ⟨prefs, hphone⟩ := fresh_of_starts he hd
      have hev : eventOf e ds = none := by
        cases e with
        | createService | destroyService | kill => rfl
        | _ => exact absurd he (by simp [starts, Embedded.starts])
      rw [hev] at hq
      obtain ⟨rfl, rfl⟩ := Prod.mk.inj (Option.some.inj hq)
      refine ⟨by rw [pairOf_phone, hev, Option.map_none], ⟨prefs, hphone⟩, rfl, ⟨s.pair.app.outbox.length, ?_⟩,
        rfl, rfl, rfl⟩
      rw [List.take_length]

end Steps

end Whole

def wholeMachine [CaseMap] [CanonicalForm] [PhonePattern] : Machine Whole WholeEvent WholeEffect := ⟨Whole.step⟩

namespace Whole

section Runs

variable [CaseMap] [CanonicalForm] [PhonePattern] {ok : Guard Whole WholeEvent WholeEffect} {s₀ s : Whole}
  {tr : Trace WholeEvent WholeEffect}

/-- **What the app does is a run of it.** -/
theorem device_run (h : Run wholeMachine ok s₀ tr s) :
    Run deviceMachine Guard.free s₀.device (tr.filterMap deviceOf) s.device :=
  h.component device_concerns

/-- **What the steps of the pair and a new service keep holds throughout.** -/
theorem across {I : Trace PairEvent PairEffect → Pair → Prop} (h : Run wholeMachine ok s₀ tr s)
    (h0 : I [] s₀.pair) (hstart : ∀ {tr p p'}, I tr p → Restarted p p' → I tr p')
    (hone : ∀ {tr p e p' os}, I tr p → p.step e = some (p', os) → I (tr ++ [(e, os)]) p') :
    I (tr.filterMap pairOf) s.pair := by
  refine h.across (I := I) h0 (fun he hs => ?_) pair_concerns hone
  obtain ⟨hpart, hr⟩ := pair_restarted he hs
  exact ⟨hpart, fun _ hI => hstart hI hr⟩

end Runs

end Whole

end NotifyMe
