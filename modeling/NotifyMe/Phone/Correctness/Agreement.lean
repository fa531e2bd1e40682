import NotifyMe.Phone.Controls

/-!
# `Agreement` — switches, service and preferences

The four listeners of `MainActivity` set one another's switches, and each broadcasts what it was called
with. A switch whose own listener is running is set without a broadcast, so the broadcasts need not tell
the whole story.

They do: `agreement` says that every tap ends in a settled state, that every broadcast can be delivered if the
database takes the service's number, and that with nothing on its way the service and the preferences are what
the switches show.
-/

namespace NotifyMe
namespace Agreement

open Reactive Controls

/-- At most one mode is on, AssistBot mode just when an app is, and both latches are set. -/
structure Settled (m : MainActivity) : Prop where
  oneMode  : ¬ (m.notifyModeSwitch.checked = true ∧ m.assistSwitch.checked = true)
  assist   : m.assistSwitch.checked = true ↔
    m.whatsappSwitch.checked = true ∨ m.fbMessengerSwitch.checked = true
  latches  : m.fromWhatsapp = true ∧ m.fromFbMsg = true

theorem settled_of_resting {m : MainActivity} (hrest : m.Resting) (hone : OneMode m.checked)
    (hassist : AssistMatches m.checked) : Settled m where
  oneMode h := hone ⟨h.2, h.1⟩
  assist    := by
    have heq : m.assistSwitch.checked =
      (m.whatsappSwitch.checked || m.fbMessengerSwitch.checked) := hassist
    rw [heq, Bool.or_eq_true]
  latches   := by
    rw [hrest]
    exact ⟨rfl, rfl⟩

section Runs

variable [CaseMap] {prefs : Preferences} {tr : Trace ControlsEvent Effect} {s s' : Controls}

/-- A tap keeps AssistBot mode and the apps together, and nothing else touches the switches. -/
theorem assist_step {e : ControlsEvent} {os : List Effect} (h : Linked s)
    (hassist : AssistMatches s.activity.checked) (hs : s.step e = some (s', os)) :
    AssistMatches s'.activity.checked := by
  cases e with
  | tap t =>
      obtain ⟨m, hm, _, rfl⟩ := step_tap hs
      obtain ⟨m', hm', htap⟩ := MainActivity.tapped h.resting h.oneMode t
      obtain rfl : m = m' := congrArg Prod.snd (Option.some.inj (hm.symm.trans hm'))
      exact htap.assist hassist
  | deliver =>
      obtain ⟨_, _, _, _, _, rfl⟩ := step_deliver hs
      exact hassist
  | phone e =>
      obtain ⟨_, _, _, rfl⟩ := step_phone hs
      exact hassist

/-- A tap is always possible. -/
theorem tap_enabled (h : Linked s) (t : Toggle) : ∃ s', s.step (.tap t) = some (s', []) := by
  obtain ⟨m, hm, _⟩ := MainActivity.tapped h.resting h.oneMode t
  exact ⟨_, by simp only [step, hm]; rfl⟩

/-- A broadcast on its way can be delivered: one that turns Notify mode on finds a number that the database
    takes, and one that turns it off finds it on, and so a reference. -/
theorem deliver_enabled (h : Linked s) (hvalid : validRoot s.phone.service.phoneNumber = true)
    (hq : s.queue ≠ []) : ∃ s' os, s.step .deliver = some (s', os) := by
  obtain ⟨intent, rest, hcons⟩ := List.exists_cons_of_ne_nil hq
  have hthrown : (s.phone.service.onReceive intent).thrown = none := by
    refine (Service.onReceive_thrown _ intent).mpr ⟨h.editor, fun hact => ?_⟩
    split
    · exact hvalid
    · rename_i hoff
      refine h.reference ?_
      have halt := h.alternates
      rw [updates, hcons] at halt
      have hchange : s.phone.service.toggle intent.action ≠ intent.on := halt.1
      rw [hact, Bool.eq_false_iff.mpr hoff] at hchange
      simpa [Service.toggle] using hchange
  obtain ⟨p, hp⟩ := Phone.step_of_outcome (p := s.phone) (e := .broadcast intent) rfl hthrown
  exact ⟨{ s with queue := rest, phone := p }, _, by simp only [step, hcons, hp]; rfl⟩

/-- **Switches, service and preferences agree.** -/
theorem agreement (hone : OneMode prefs.getBoolean) (hassist : AssistMatches prefs.getBoolean)
    (h : Run controlsMachine Guard.free (started prefs) tr s) :
    (∀ t, ∃ s', s.step (.tap t) = some (s', []) ∧ Settled s'.activity) ∧
      (validRoot s.phone.service.phoneNumber = true → s.queue ≠ [] →
        ∃ s' os, s.step .deliver = some (s', os)) ∧
      (s.queue = [] → ∀ t, s.phone.service.toggle t = (s.activity.switch t).checked ∧
        s.phone.prefs.getBoolean t = (s.activity.switch t).checked) := by
  have hstart : AssistMatches (started prefs).activity.checked := hassist
  have hI : Linked s ∧ AssistMatches s.activity.checked :=
    h.invariant (I := fun _ s => Linked s ∧ AssistMatches s.activity.checked)
      ⟨linked_started hone, hstart⟩
      (fun _ hI _ hs => ⟨linked_step hI.1 hs, assist_step hI.1 hI.2 hs⟩)
  obtain ⟨hl, hmatch⟩ := hI
  refine ⟨fun t => ?_, deliver_enabled hl, fun hq t => ?_⟩
  · obtain ⟨s', hs⟩ := tap_enabled hl t
    have hl' := linked_step hl hs
    exact ⟨s', hs, settled_of_resting hl'.resting hl'.oneMode (assist_step hl hmatch hs)⟩
  · have hfollows := hl.follows
    rw [updates, hq] at hfollows
    have hflag : s.phone.service.toggle t = (s.activity.switch t).checked := congrFun hfollows t
    exact ⟨hflag, by rw [hl.lifecycle.synced hl.editor, hflag]⟩

end Runs

/-! ## From one mode to the other and back -/

/-- Both modes are tapped on in turn, with deliveries in between. -/
def thereAndBack : List ControlsEvent :=
  [.tap .notify, .deliver, .tap .whatsApp, .deliver, .deliver, .deliver, .deliver, .deliver]

theorem thereAndBack_enabled :
    (controlsMachine.exec Guard.free (started .assistBot) thereAndBack).isSome := by decide

def thereAndBackState : Controls :=
  ((controlsMachine.exec Guard.free (started .assistBot) thereAndBack).get thereAndBack_enabled).1

theorem thereAndBack_agreement :
    (∀ t, ∃ s', thereAndBackState.step (.tap t) = some (s', []) ∧ Settled s'.activity) ∧
      (validRoot thereAndBackState.phone.service.phoneNumber = true → thereAndBackState.queue ≠ [] →
        ∃ s' os, thereAndBackState.step .deliver = some (s', os)) ∧
      (thereAndBackState.queue = [] → ∀ t,
        thereAndBackState.phone.service.toggle t = (thereAndBackState.activity.switch t).checked ∧
          thereAndBackState.phone.prefs.getBoolean t =
            (thereAndBackState.activity.switch t).checked) :=
  agreement (by decide) (by decide) (run_exec_get thereAndBack_enabled)

end Agreement
end NotifyMe
