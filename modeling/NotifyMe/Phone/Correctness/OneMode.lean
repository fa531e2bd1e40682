import NotifyMe.Phone.Controls

/-!
# `OneMode` — never both modes in the service

A tap that goes from one mode to the other turns the new mode on before it turns the old one off, and the
service gets the two broadcasts one after the other. In between it has both flags set, and handles
notifications so.

`oneMode_iff`: a run in which every tap keeps the modes apart (`ApartTaps`) never shows both, and when all
broadcasts of a run have been delivered, it has shown both unless every tap did.
-/

namespace NotifyMe
namespace Modes

open Reactive Controls

/-- **The condition**: Notify mode is tapped on only while the assist switch is off, and the assist switch
    or an app only while the Notify switch is off. -/
def ApartTaps : Guard Controls ControlsEvent Effect := fun _ s e =>
  match e with
  | .tap t => Apart s.activity.checked t
  | _ => True

instance (tr : Trace ControlsEvent Effect) (s : Controls) (e : ControlsEvent) :
    Decidable (ApartTaps tr s e) :=
  match e with
  | .tap t => inferInstanceAs (Decidable (Apart s.activity.checked t))
  | .deliver | .phone _ => inferInstanceAs (Decidable True)

/-- The service is in at most one mode. -/
def ServiceOneMode (_ : Trace ControlsEvent Effect) (s : Controls) : Prop :=
  ¬ (s.phone.service.isAssistEnabled = true ∧ s.phone.service.isNotifyEnabled = true)

/-- It is, and will be while what is on its way is delivered. -/
def Clean (_ : Trace ControlsEvent Effect) (s : Controls) : Prop :=
  Along OneMode s.phone.service.toggle s.updates

theorem Clean.oneMode {tr : Trace ControlsEvent Effect} {s : Controls} (h : Clean tr s) :
    ServiceOneMode tr s := h.now

section Runs

variable [CaseMap] {prefs : Preferences} {tr : Trace ControlsEvent Effect} {s s' : Controls}
  {os : List Effect}

/-- A tap that keeps the modes apart adds nothing that shows both. -/
theorem clean_tap (h : Linked s) {t : Toggle} (hs : s.step (.tap t) = some (s', os))
    {tr tr' : Trace ControlsEvent Effect} :
    Clean tr' s' ↔ Clean tr s ∧ Apart s.activity.checked t := by
  obtain ⟨m, hm, _, rfl⟩ := step_tap hs
  obtain ⟨m', hm', htap⟩ := MainActivity.tapped h.resting h.oneMode t
  obtain rfl : m = m' := congrArg Prod.snd (Option.some.inj (hm.symm.trans hm'))
  show Along OneMode _ ((s.queue ++ m.broadcasts).map Broadcast.update) ↔ _
  rw [List.map_append, along_append]
  show (_ ∧ Along OneMode (after _ s.updates) _) ↔ _
  rw [h.follows, htap.along]
  rfl

/-- A delivery moves along. -/
theorem clean_deliver (hs : s.step .deliver = some (s', os)) {tr tr' : Trace ControlsEvent Effect} :
    Clean tr s ↔ ServiceOneMode tr s ∧ Clean tr' s' := by
  obtain ⟨intent, rest, p, hq, hp, rfl⟩ := step_deliver hs
  have hupd : s.updates = (intent.action, intent.on) :: rest.map Broadcast.update := by
    rw [updates, hq]
    rfl
  show Along OneMode _ s.updates ↔ _ ∧ Along OneMode p.service.toggle _
  rw [hupd, (Phone.step_broadcast hp).1]
  rfl

/-- Nothing else changes what is on its way. -/
theorem clean_phone (h : Linked s) {e : PhoneEvent} (hs : s.step (.phone e) = some (s', os))
    {tr tr' : Trace ControlsEvent Effect} : Clean tr' s' ↔ Clean tr s := by
  obtain ⟨p, hne, hp, rfl⟩ := step_phone hs
  show Along OneMode p.service.toggle _ ↔ Along OneMode s.phone.service.toggle _
  rw [(h.lifecycle.toggle_eq h.editor hp hne).1]
  rfl

theorem linked_run {ok : Guard Controls ControlsEvent Effect} (hone : OneMode prefs.getBoolean)
    (h : Run controlsMachine ok (started prefs) tr s) : Linked s :=
  h.invariant (I := fun _ s => Linked s) (linked_started hone) (fun _ hI _ hs => linked_step hI hs)

theorem clean_iff (hone : OneMode prefs.getBoolean)
    (h : Run controlsMachine Guard.free (started prefs) tr s) :
    Always controlsMachine (started prefs) Clean tr ↔
      Run controlsMachine ApartTaps (started prefs) tr s := by
  have hstart : Clean [] (started prefs) := by
    have hl := linked_started hone
    have hfollows : (started prefs).phone.service.toggle = (started prefs).activity.checked := hl.follows
    show OneMode (started prefs).phone.service.toggle
    rw [hfollows]
    exact hl.oneMode
  refine Run.always_iff (I := Clean) hstart hstart ?_ h
  intro tr s e s' os hr hI hs
  have hl := linked_run hone hr
  cases e with
  | tap t =>
      have htap : Clean (tr ++ [(.tap t, os)]) s' ↔ Clean tr s ∧ Apart s.activity.checked t :=
        clean_tap hl hs
      rw [htap]
      exact ⟨⟨fun hok => ⟨hI, hok⟩, And.right⟩, fun hok => ⟨hI, hok⟩⟩
  | deliver =>
      have hnext : Clean (tr ++ [(.deliver, os)]) s' := ((clean_deliver hs).mp hI).2
      exact ⟨iff_of_true trivial hnext, fun _ => hnext⟩
  | phone e =>
      have hnext : Clean (tr ++ [(.phone e, os)]) s' := (clean_phone hl hs).mpr hI
      exact ⟨iff_of_true trivial hnext, fun _ => hnext⟩

/-- **The service is never in both modes iff the user never goes from one to the other.** Once all
    broadcasts have been delivered, the condition is exact. -/
theorem oneMode_iff (hone : OneMode prefs.getBoolean)
    (h : Run controlsMachine Guard.free (started prefs) tr s) :
    (Run controlsMachine ApartTaps (started prefs) tr s →
        Always controlsMachine (started prefs) ServiceOneMode tr) ∧
      (s.queue = [] → Always controlsMachine (started prefs) ServiceOneMode tr →
        Run controlsMachine ApartTaps (started prefs) tr s) := by
  constructor
  · intro hok
    exact Run.always_mono (fun _ hclean => hclean.oneMode) ((clean_iff hone h).mpr hok)
  · intro hq halways
    refine (clean_iff hone h).mp (Run.always_of_end ?_ h halways ?_)
    · intro tr s e s' os hr hP hs hclean
      have hl := linked_run hone hr
      cases e with
      | tap t => exact ((clean_tap hl hs).mp hclean).1
      | deliver => exact (clean_deliver hs).mpr ⟨hP, hclean⟩
      | phone e => exact (clean_phone hl hs).mp hclean
    · -- nothing is on its way at the end
      have hlast : ServiceOneMode tr s :=
        halways tr s List.prefix_rfl h
      show Along OneMode _ s.updates
      rw [updates, hq]
      exact hlast

end Runs

/-! ## From one mode to the other, by way of neither and at once -/

/-- AssistBot mode is tapped off, and then Notify mode on. -/
def byWayOfNeither : List ControlsEvent :=
  [.tap .assist, .tap .notify, .deliver, .deliver, .deliver]

theorem byWayOfNeither_enabled :
    (controlsMachine.exec Guard.free (started .assistBot) byWayOfNeither).isSome := by decide

def byWayOfNeitherRun : Controls × Trace ControlsEvent Effect :=
  (controlsMachine.exec Guard.free (started .assistBot) byWayOfNeither).get byWayOfNeither_enabled

theorem byWayOfNeither_oneMode :
    (Run controlsMachine ApartTaps (started .assistBot) byWayOfNeitherRun.2 byWayOfNeitherRun.1 →
        Always controlsMachine (started .assistBot) ServiceOneMode byWayOfNeitherRun.2) ∧
      (byWayOfNeitherRun.1.queue = [] →
        Always controlsMachine (started .assistBot) ServiceOneMode byWayOfNeitherRun.2 →
        Run controlsMachine ApartTaps (started .assistBot) byWayOfNeitherRun.2 byWayOfNeitherRun.1) :=
  oneMode_iff (by decide) (run_exec_get byWayOfNeither_enabled)

/-- Notify mode is tapped on in AssistBot mode, and one of the broadcasts has been delivered. -/
def atOnce : List ControlsEvent := [.tap .notify, .deliver]

theorem atOnce_enabled :
    (controlsMachine.exec Guard.free (started .assistBot) atOnce).isSome := by decide

/-- The service is in both modes. -/
theorem oneMode_fails : ¬ ∀ (prefs : Preferences) (tr : Trace ControlsEvent Effect) (s : Controls),
    OneMode prefs.getBoolean → Run controlsMachine Guard.free (started prefs) tr s →
      ServiceOneMode tr s := by
  intro h
  have hone := h .assistBot _ _ (by decide) (run_exec_get atOnce_enabled)
  exact absurd hone (by unfold ServiceOneMode; decide)

end Modes
end NotifyMe
