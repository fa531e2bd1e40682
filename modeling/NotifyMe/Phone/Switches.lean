import NotifyMe.Phone.MainActivity
import NotifyMe.Reactive.Updates

/-!
# `Phone.Switches` — what a tap does

Between two taps no listener is running and both latches are set, so the activity is its four switches
(`MainActivity.Resting`). A tap ends, and leads to such a state again; the broadcasts it sends are the
changes it made, in order (`Tapped`).

`tapped` is checked over the states of the four switches. There are finitely many, and every sequence of
taps stays among them.
-/

namespace NotifyMe

open Reactive

/-- The update that a broadcast makes to the flags of the service. -/
def Broadcast.update (b : Broadcast) : Toggle × Bool := (b.action, b.on)

/-- Not both modes are on. -/
def OneMode (f : Toggle → Bool) : Prop := ¬ (f .assist = true ∧ f .notify = true)

/-- AssistBot mode is on just when an app is. -/
def AssistMatches (f : Toggle → Bool) : Prop := f .assist = (f .whatsApp || f .fbMsg)

/-- The switch is not tapped on while the other mode is on. -/
def Apart (f : Toggle → Bool) (t : Toggle) : Prop :=
  f t = false → f (if t = .notify then .assist else .notify) = false

instance (f : Toggle → Bool) : Decidable (OneMode f) := inferInstanceAs (Decidable (¬ (_ ∧ _)))

instance (f : Toggle → Bool) : Decidable (AssistMatches f) := inferInstanceAs (Decidable (_ = _))

instance (f : Toggle → Bool) (t : Toggle) : Decidable (Apart f t) :=
  inferInstanceAs (Decidable (_ → _))

namespace MainActivity

def checked (m : MainActivity) (t : Toggle) : Bool := (m.switch t).checked

/-- The activity with its switches as given, when nothing is going on. -/
def ofSwitches (notify assist whatsApp fbMsg : Bool) : MainActivity where
  notifyModeSwitch  := { checked := notify }
  assistSwitch      := { checked := assist }
  whatsappSwitch    := { checked := whatsApp }
  fbMessengerSwitch := { checked := fbMsg }

/-- No listener is running, both latches are set, and all broadcasts are on their way. -/
def Resting (m : MainActivity) : Prop :=
  m = ofSwitches (m.checked .notify) (m.checked .assist) (m.checked .whatsApp) (m.checked .fbMsg)

instance (m : MainActivity) : Decidable m.Resting := inferInstanceAs (Decidable (_ = _))

/-- **What a tap leads to**: the activity is at rest again, and its broadcasts are the changes of the
    switches. On their way not both modes are on just when the tap did not go from one mode to the other. -/
structure Tapped (m : MainActivity) (t : Toggle) (m' : MainActivity) : Prop where
  resting    : Resting { m' with broadcasts := [] }
  oneMode    : OneMode m'.checked
  assist     : AssistMatches m.checked → AssistMatches m'.checked
  alternates : Alternates m.checked (m'.broadcasts.map Broadcast.update)
  changes    : ∀ t', after m.checked (m'.broadcasts.map Broadcast.update) t' = m'.checked t'
  along      : Along OneMode m.checked (m'.broadcasts.map Broadcast.update) ↔ Apart m.checked t

instance (m : MainActivity) (t : Toggle) (m' : MainActivity) : Decidable (Tapped m t m') :=
  decidable_of_iff
    (Resting { m' with broadcasts := [] } ∧ OneMode m'.checked ∧
      (AssistMatches m.checked → AssistMatches m'.checked) ∧
      Alternates m.checked (m'.broadcasts.map Broadcast.update) ∧
      (∀ t', after m.checked (m'.broadcasts.map Broadcast.update) t' = m'.checked t') ∧
      (Along OneMode m.checked (m'.broadcasts.map Broadcast.update) ↔ Apart m.checked t))
    ⟨fun ⟨h1, h2, h3, h4, h5, h6⟩ => ⟨h1, h2, h3, h4, h5, h6⟩,
      fun ⟨h1, h2, h3, h4, h5, h6⟩ => ⟨h1, h2, h3, h4, h5, h6⟩⟩

theorem tapped_switches : ∀ (t : Toggle) (notify assist whatsApp fbMsg : Bool),
    (assist && notify) = false →
      ∃ r ∈ (toggle t).run (ofSwitches notify assist whatsApp fbMsg),
        Tapped (ofSwitches notify assist whatsApp fbMsg) t r.2 := by
  decide

/-- **Every tap ends**, from any state at rest with at most one mode on. -/
theorem tapped {m : MainActivity} (hrest : m.Resting) (hone : OneMode m.checked) (t : Toggle) :
    ∃ m', (toggle t).run m = some ((), m') ∧ Tapped m t m' := by
  have hboth : (m.checked .assist && m.checked .notify) = false := by
    simpa [OneMode] using hone
  obtain ⟨⟨_, m'⟩, hrun, htap⟩ := tapped_switches t _ (m.checked .assist) (m.checked .whatsApp)
    (m.checked .fbMsg) hboth
  rw [← hrest] at hrun htap
  exact ⟨m', hrun, htap⟩

/-- **What a restore leads to**: the switches of `saved` again, and broadcasts that are the changes. -/
structure Restored (m saved m' : MainActivity) : Prop where
  same       : { m' with broadcasts := [] } = saved
  alternates : Alternates m.checked (m'.broadcasts.map Broadcast.update)
  changes    : ∀ t, after m.checked (m'.broadcasts.map Broadcast.update) t = saved.checked t
  silent     : (∀ t, m.checked t = saved.checked t) → m'.broadcasts = []

instance (m saved m' : MainActivity) : Decidable (Restored m saved m') :=
  decidable_of_iff
    ({ m' with broadcasts := [] } = saved ∧
      Alternates m.checked (m'.broadcasts.map Broadcast.update) ∧
      (∀ t, after m.checked (m'.broadcasts.map Broadcast.update) t = saved.checked t) ∧
      ((∀ t, m.checked t = saved.checked t) → m'.broadcasts = []))
    ⟨fun ⟨h1, h2, h3, h4⟩ => ⟨h1, h2, h3, h4⟩, fun ⟨h1, h2, h3, h4⟩ => ⟨h1, h2, h3, h4⟩⟩

theorem restored_switches : ∀ notify assist whatsApp fbMsg notify' assist' whatsApp' fbMsg' : Bool,
    (assist' && notify') = false → assist' = (whatsApp' || fbMsg') →
      ∃ r ∈ (restore (ofSwitches notify' assist' whatsApp' fbMsg')).run
          (ofSwitches notify assist whatsApp fbMsg),
        Restored (ofSwitches notify assist whatsApp fbMsg)
          (ofSwitches notify' assist' whatsApp' fbMsg') r.2 := by
  decide

/-- **Every restore ends**, whatever switches `onCreate` has set: both modes may be on there, and the old
    activity is settled. -/
theorem restored {m saved : MainActivity} (hrest : m.Resting) (hsaved : saved.Resting)
    (hone : OneMode saved.checked) (hassist : AssistMatches saved.checked) :
    ∃ m', (restore saved).run m = some ((), m') ∧ Restored m saved m' := by
  have hboth : (saved.checked .assist && saved.checked .notify) = false := by
    simpa [OneMode] using hone
  obtain ⟨⟨_, m'⟩, hrun, hres⟩ := restored_switches (m.checked .notify) (m.checked .assist)
    (m.checked .whatsApp) (m.checked .fbMsg) _ _ _ _ hboth hassist
  rw [← hrest, ← hsaved] at hrun hres
  exact ⟨m', hrun, hres⟩

end MainActivity
end NotifyMe
