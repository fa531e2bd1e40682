import NotifyMe.Phone.Lifecycle
import NotifyMe.Phone.Switches

/-!
# `Phone.Controls` — the switches and the service

`MainActivity` and the service, and between them the broadcasts on their way, oldest first. The user taps
the switches; a broadcast is delivered; and the service does everything else it does.

A tap is finished before anything else happens: the listeners of the switches call one another, and what
they broadcast is queued. The service gets one broadcast at a time, so it sees the states in between.
-/

namespace NotifyMe

open Reactive

structure Controls where
  activity : MainActivity
  queue    : List Broadcast := []
  phone    : Phone

inductive ControlsEvent where
  | tap (t : Toggle)
  /-- The oldest broadcast is delivered. -/
  | deliver
  /-- An event of the service, other than a broadcast. -/
  | phone (e : PhoneEvent)
  deriving DecidableEq

namespace Controls

def step [CaseMap] (s : Controls) : ControlsEvent → Option (Controls × List Effect)
  | .tap t => ((MainActivity.toggle t).run s.activity).map fun r =>
      ({ s with
          activity := { r.2 with broadcasts := [] }
          queue    := s.queue ++ r.2.broadcasts }, [])
  | .deliver =>
      match s.queue with
      | []           => none
      | intent :: rest => (s.phone.step (.broadcast intent)).map fun r =>
          ({ s with queue := rest, phone := r.1 }, r.2)
  | .phone (.broadcast _) => none
  | .phone e => (s.phone.step e).map fun r => ({ s with phone := r.1 }, r.2)

/-- The activity and a service that has just been connected, with the same preferences. -/
def started (prefs : Preferences) : Controls where
  activity := MainActivity.created prefs
  phone    := Phone.listening prefs

/-! ## What a step does -/

section Steps

variable [CaseMap] {s s' : Controls} {os : List Effect}

theorem step_tap {t : Toggle} (h : s.step (.tap t) = some (s', os)) :
    ∃ m, (MainActivity.toggle t).run s.activity = some ((), m) ∧ os = [] ∧
      s' = { s with activity := { m with broadcasts := [] }, queue := s.queue ++ m.broadcasts } := by
  obtain ⟨⟨_, m⟩, hm, hr⟩ := Option.map_eq_some_iff.mp h
  obtain ⟨rfl, rfl⟩ := Prod.mk.inj hr
  exact ⟨m, hm, rfl, rfl⟩

theorem step_deliver (h : s.step .deliver = some (s', os)) :
    ∃ intent rest p, s.queue = intent :: rest ∧ s.phone.step (.broadcast intent) = some (p, os) ∧
      s' = { s with queue := rest, phone := p } := by
  simp only [step] at h
  split at h
  · exact absurd h (by simp)
  · rename_i intent rest hq
    obtain ⟨⟨p, es⟩, hp, hr⟩ := Option.map_eq_some_iff.mp h
    obtain ⟨rfl, rfl⟩ := Prod.mk.inj hr
    exact ⟨intent, rest, p, hq, hp, rfl⟩

theorem step_phone {e : PhoneEvent} (h : s.step (.phone e) = some (s', os)) :
    ∃ p, (∀ intent, e ≠ .broadcast intent) ∧ s.phone.step e = some (p, os) ∧
      s' = { s with phone := p } := by
  have hne : ∀ intent, e ≠ .broadcast intent := by
    rintro intent rfl
    exact absurd h (by simp [step])
  have hmap : (s.phone.step e).map (fun r => (({ s with phone := r.1 } : Controls), r.2)) =
      some (s', os) := by
    cases e with
    | broadcast intent => exact absurd rfl (hne intent)
    | _ => exact h
  obtain ⟨⟨p, es⟩, hp, hr⟩ := Option.map_eq_some_iff.mp hmap
  obtain ⟨rfl, rfl⟩ := Prod.mk.inj hr
  exact ⟨p, hne, hp, rfl⟩

end Steps

/-! ## The broadcasts on their way -/

/-- The updates to the flags of the service that are on their way. -/
def updates (s : Controls) : List (Toggle × Bool) := s.queue.map Broadcast.update

/-- **The service follows the switches**: when all broadcasts have been delivered, its flags are the
    switches. -/
structure Linked (s : Controls) : Prop where
  resting    : s.activity.Resting
  oneMode    : OneMode s.activity.checked
  follows    : after s.phone.service.toggle s.updates = s.activity.checked
  alternates : Alternates s.phone.service.toggle s.updates
  editor     : s.phone.service.editor = true
  reference  : s.phone.service.isNotifyEnabled = true → s.phone.service.reference ≠ none
  lifecycle  : Phone.Lifecycle s.phone

section Linked

variable [CaseMap] {s s' : Controls} {os : List Effect}

theorem linked_tap (h : Linked s) {t : Toggle} (hs : s.step (.tap t) = some (s', os)) :
    Linked s' := by
  obtain ⟨m, hm, _, rfl⟩ := step_tap hs
  obtain ⟨m', hm', htap⟩ := MainActivity.tapped h.resting h.oneMode t
  obtain rfl : m = m' := congrArg Prod.snd (Option.some.inj (hm.symm.trans hm'))
  refine ⟨htap.resting, htap.oneMode, ?_, ?_, h.editor, h.reference, h.lifecycle⟩
  · show after _ ((s.queue ++ m.broadcasts).map Broadcast.update) = m.checked
    rw [List.map_append, after_append]
    show after (after _ s.updates) _ = m.checked
    rw [h.follows]
    exact funext htap.changes
  · show Alternates _ ((s.queue ++ m.broadcasts).map Broadcast.update)
    rw [List.map_append, alternates_append]
    refine ⟨h.alternates, ?_⟩
    show Alternates (after _ s.updates) _
    rw [h.follows]
    exact htap.alternates

theorem linked_deliver (h : Linked s) (hs : s.step .deliver = some (s', os)) : Linked s' := by
  obtain ⟨intent, rest, p, hq, hp, rfl⟩ := step_deliver hs
  obtain ⟨htoggle, hed⟩ := Phone.step_broadcast hp
  have hupd : s.updates = (intent.action, intent.on) :: rest.map Broadcast.update := by
    rw [updates, hq]
    rfl
  have hfollows := h.follows
  have halt := h.alternates
  rw [hupd] at hfollows halt
  refine ⟨h.resting, h.oneMode, ?_, ?_, by rw [hed, h.editor], Phone.reference_step h.reference hp,
    Phone.lifecycle_step h.lifecycle hp⟩
  · rw [← hfollows, after_cons, ← htoggle]
    rfl
  · show Alternates p.service.toggle _
    rw [htoggle]
    exact halt.2

theorem linked_phone (h : Linked s) {e : PhoneEvent} (hs : s.step (.phone e) = some (s', os)) :
    Linked s' := by
  obtain ⟨p, hne, hp, rfl⟩ := step_phone hs
  obtain ⟨htoggle, hed⟩ := h.lifecycle.toggle_eq h.editor hp hne
  refine ⟨h.resting, h.oneMode, ?_, ?_, hed, Phone.reference_step h.reference hp,
    Phone.lifecycle_step h.lifecycle hp⟩
  · show after p.service.toggle s.updates = _
    rw [htoggle, h.follows]
  · show Alternates p.service.toggle s.updates
    rw [htoggle]
    exact h.alternates

theorem linked_step (h : Linked s) {e : ControlsEvent} (hs : s.step e = some (s', os)) : Linked s' := by
  cases e with
  | tap t => exact linked_tap h hs
  | deliver => exact linked_deliver h hs
  | phone e => exact linked_phone h hs

omit [CaseMap] in
theorem linked_started {prefs : Preferences} (hone : OneMode prefs.getBoolean) :
    Linked (started prefs) := by
  have hl : Phone.Lifecycle (Phone.listening prefs) := Phone.lifecycle_listening prefs
  have hkept : (Phone.listening prefs).service.editor = true ∧ (Phone.listening prefs).prefs = prefs := by
    unfold Phone.listening
    split <;> exact ⟨rfl, rfl⟩
  have hchecked : (MainActivity.created prefs).checked = prefs.getBoolean :=
    funext fun t => by cases t <;> rfl
  refine ⟨rfl, ?_, ?_, trivial, hkept.1, ?_, hl⟩
  · show OneMode (MainActivity.created prefs).checked
    rw [hchecked]
    exact hone
  · show (Phone.listening prefs).service.toggle = (MainActivity.created prefs).checked
    rw [hchecked]
    exact funext fun t => by rw [← hl.synced hkept.1, hkept.2]
  · intro hn
    have hon : (Phone.listening prefs).prefs.isNotifyOn = true := (hl.synced hkept.1 .notify).trans hn
    rw [hkept.2] at hon
    show (Phone.listening prefs).service.reference ≠ none
    rw [Phone.listening, if_pos hon]
    simp [Phone.connected]

end Linked

end Controls

def controlsMachine [CaseMap] : Machine Controls ControlsEvent Effect := ⟨Controls.step⟩

end NotifyMe
