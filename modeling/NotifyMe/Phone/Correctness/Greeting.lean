import NotifyMe.Phone.Machine
import NotifyMe.Phone.MainActivity

/-!
# `Greeting` — one greeting per sender and session

A sender is greeted when it is not in the list of its app, and is put there by the send. But `reply` records
a sender only while Notify mode is off, and the greeting path asks for AssistBot mode only: in the window in
which both flags are set, a greeting leaves no record. Such windows are real, because `MainActivity` turns
the new mode on before it turns the old one off.

`GreetedOnce` says of a trace that this does not happen, `Recorded` is the condition on its steps. Both parts
follow from how a list changes (`Phone.Handled.appList`) by the temporal rules for runs. `greetedOnce_fails` is
a run driven by one tap on a switch.
-/

namespace NotifyMe
namespace Greeting

open Reactive Service

/-- In this step an intent goes out for the app and the title. -/
def Replied (a : App) (title : Option String) (x : PhoneEvent × List Effect) : Prop :=
  ∃ sent, Effect.send sent ∈ x.2 ∧ sent.success = true ∧ sent.packageName = a.packageName ∧
    sent.senderName = title

/-- In this step the canned greeting goes out for the app and the title. -/
def Greeted (a : App) (title : Option String) (x : PhoneEvent × List Effect) : Prop :=
  ∃ sent, Effect.send sent ∈ x.2 ∧ sent.success = true ∧ sent.packageName = a.packageName ∧
    sent.senderName = title ∧ sent.message = none

/-- This step clears the list of the app. -/
def Clears (a : App) (x : PhoneEvent × List Effect) : Prop := x.1.clears a = true

/-- **A sender is greeted once per session**, and is listed only when it has been answered in this one. -/
structure GreetedOnce (tr : Trace PhoneEvent Effect) (p : Phone) : Prop where
  once   : ∀ (a : App) (title : Option String) (l₁ l₂ l₃ : Trace PhoneEvent Effect)
    (x y : PhoneEvent × List Effect), tr = l₁ ++ x :: (l₂ ++ y :: l₃) →
      Greeted a title x → Greeted a title y → ∃ z ∈ l₂, Clears a z
  listed : ∀ (a : App) (title : Option String), title ∈ p.service.appList a →
    ∃ l₁ x l₂, tr = l₁ ++ x :: l₂ ∧ Replied a title x ∧ ∀ z ∈ l₂, ¬ Clears a z

/-- The notification gets a canned greeting. -/
def greets (s : Service) (sbn : StatusBarNotification) : Prop :=
  s.isAssistEnabled = true ∧
    s.sends sbn.replyAction sbn.extras.title (some sbn.packageName) none = true ∧
    ∃ a : App, sbn.packageName = a.packageName ∧ s.appEnabled a = true ∧
      sbn.extras.title ∉ s.appList a

/-- **The condition**, on the steps whose intent goes out: a greeting goes out only while Notify mode is off;
    so does the canned text in place of a bot answer without speech, and only to a sender that is not
    listed; and a desktop record has a message. -/
def Recorded : Guard Phone PhoneEvent Effect := fun _ p e =>
  match e with
  | .posted sbn true => greets p.service sbn → p.service.isNotifyEnabled = false
  | .botResponse i (some none) true =>
      ∀ r ∈ p.requests[i]?, p.service.sends p.service.target r.senderName (some r.packageName) none = true →
        p.service.isNotifyEnabled = false ∧
          ∀ a : App, r.packageName = a.packageName → r.senderName ∉ p.service.appList a
  | .dataChange _ (some object) true => object.lookup "message" ≠ none
  | _ => True

instance (s : Service) (sbn : StatusBarNotification) : Decidable (greets s sbn) := by
  unfold greets; infer_instance

instance (tr : Trace PhoneEvent Effect) (p : Phone) (e : PhoneEvent) :
    Decidable (Recorded tr p e) := by
  unfold Recorded; split <;> infer_instance

section Runs

variable [CaseMap]

/-- A greeting goes to a sender that is not listed, while Notify mode is off, in a step that clears no
    list. -/
theorem greeted_step {tr : Trace PhoneEvent Effect} {p p' : Phone} {e : PhoneEvent}
    {es : List Effect} {a : App} {title : Option String} (hok : Recorded tr p e)
    (hs : p.step e = some (p', es)) (hg : Greeted a title (e, es)) :
    title ∉ p.service.appList a ∧ p.service.isNotifyEnabled = false ∧ e.clears a = false := by
  obtain ⟨o, _, hh, rfl, _, _⟩ := Phone.step_eq_some hs
  obtain ⟨sent, hm, hsuc, hpkg, htitle, hmsg⟩ := hg
  rcases hh.sent hm with ⟨sbn, success, rfl, hgr⟩ | ⟨i, r, speech, success, rfl, hr, ha⟩ |
    ⟨i, r, id, model, success, rfl, _, _, ha⟩
  · -- the greeting of a notification
    have ha := hgr.answers
    obtain ⟨hown, hon, hnew⟩ := hgr.of_package hpkg
    obtain rfl : success = true := by rw [← ha.success_eq, hsuc]
    have hoff := hok ⟨hgr.assist_on, ha.sends_eq, a, hown, hon, hnew⟩
    rw [← ha.sender_eq, htitle] at hnew
    exact ⟨hnew, hoff, rfl⟩
  · -- a bot answer without speech
    obtain rfl : success = true := by rw [← ha.success_eq, hsuc]
    obtain rfl : speech = none := by rw [← ha.message_eq, hmsg]
    obtain ⟨hoff, hnew⟩ := hok r hr ha.sends_eq
    rw [ha.sender_eq] at htitle
    have hnew' := hnew a (by rw [Option.some.inj ha.package_eq, hpkg])
    rw [htitle] at hnew'
    exact ⟨hnew', hoff, rfl⟩
  · obtain rfl : success = true := by rw [← ha.success_eq, hsuc]
    exact absurd (by rw [← ha.message_eq, hmsg]) hok

/-- A step that does not clear the list keeps who is in it. -/
theorem listed_keep {p p' : Phone} {e : PhoneEvent} {es : List Effect} {a : App}
    {title : Option String} (hs : p.step e = some (p', es)) (hin : title ∈ p.service.appList a)
    (hc : ¬ Clears a (e, es)) : title ∈ p'.service.appList a := by
  obtain ⟨o, _, hh, _, hsv, _⟩ := Phone.step_eq_some hs
  rw [hsv, hh.appList, if_neg (show ¬ e.clears a = true from hc)]
  exact List.mem_append_left _ hin

/-- Who is listed after a step was recorded in it, or was listed before and not cleared. -/
theorem listed_source {p p' : Phone} {e : PhoneEvent} {es : List Effect} {a : App}
    {title : Option String} (hs : p.step e = some (p', es))
    (hin : title ∈ p'.service.appList a) :
    Replied a title (e, es) ∨ (title ∈ p.service.appList a ∧ ¬ Clears a (e, es)) := by
  obtain ⟨o, _, hh, rfl, hsv, _⟩ := Phone.step_eq_some hs
  rw [hsv, hh.appList] at hin
  by_cases hc : e.clears a = true
  · rw [if_pos hc] at hin
    exact absurd hin (by simp)
  · rw [if_neg hc] at hin
    rcases List.mem_append.mp hin with hin | hin
    · exact Or.inr ⟨hin, hc⟩
    · obtain ⟨_, sent, hm, hsuc, hpkg, htitle⟩ := mem_recorded.mp hin
      exact Or.inl ⟨sent, hm, hsuc, hpkg, htitle⟩

/-- **One greeting per sender and session**, in every run that meets the condition. -/
theorem greetedOnce_of_recorded {prefs : Preferences} {tr : Trace PhoneEvent Effect} {p : Phone}
    (h : Run phoneMachine Recorded (Phone.created prefs) tr p) : GreetedOnce tr p := by
  constructor
  · intro a title l₁ l₂ l₃ x y htr hx hy
    rw [htr] at h
    refine Run.separated (F := fun p => title ∈ p.service.appList a) ?_ ?_ ?_ h hx hy
    · exact fun _ hok hs hg => (greeted_step hok hs hg).1
    · -- the greeting is recorded
      intro tr s e s' es _ hok hs hg
      obtain ⟨_, hoff, hc⟩ := greeted_step hok hs hg
      obtain ⟨o, _, hh, rfl, hsv, _⟩ := Phone.step_eq_some hs
      obtain ⟨sent, hm, hsuc, hpkg, htitle, _⟩ := hg
      rw [hsv, hh.appList, hc]
      exact List.mem_append_right _ (mem_recorded.mpr ⟨hoff, sent, hm, hsuc, hpkg, htitle⟩)
    · exact fun _ _ hs hin hc => listed_keep hs hin hc
  · intro a title hin
    refine Run.since (F := fun p => title ∈ p.service.appList a) ?_ ?_ h hin
    · cases a <;> simp [Phone.created, appList]
    · exact fun _ _ hs hin => listed_source hs hin

end Runs

/-! ## A run with two sessions, and one driven by a tap -/

/-- A contact is greeted, the app is switched off and on, and the contact is greeted again. -/
def twoSessions : List PhoneEvent :=
  [.listenerConnected, .posted (App.whatsApp.message "Alice" "hello" 1) true,
   .broadcast ⟨.whatsApp, "0"⟩, .broadcast ⟨.whatsApp, "1"⟩,
   .posted (App.whatsApp.message "Alice" "hello again" 1) true]

theorem twoSessions_enabled :
    (phoneMachine.exec Recorded (Phone.created .assistBot) twoSessions).isSome := by decide

theorem twoSessions_greetedOnce :
    GreetedOnce ((phoneMachine.exec Recorded (Phone.created .assistBot) twoSessions).get
        twoSessions_enabled).2
      ((phoneMachine.exec Recorded (Phone.created .assistBot) twoSessions).get
        twoSessions_enabled).1 :=
  greetedOnce_of_recorded (run_exec_get twoSessions_enabled)

/-- The broadcasts that were delivered. -/
def delivered (tr : Trace PhoneEvent Effect) : List Broadcast :=
  tr.filterMap fun x =>
    match x.1 with
    | .broadcast intent => some intent
    | _                 => none

/-- The broadcasts of the run are those of `MainActivity`, delivered in order, for some taps on its
    switches. -/
def Driven (prefs : Preferences) (tr : Trace PhoneEvent Effect) : Prop :=
  ∃ taps m, (MainActivity.toggles taps).run (MainActivity.created prefs) = some ((), m) ∧
    delivered tr <+: m.broadcasts

/-- Notify mode has been switched on, and the broadcast that switches AssistBot mode off is still on its
    way: a contact who writes twice is greeted twice. -/
def bothModes : List PhoneEvent :=
  [.listenerConnected, .broadcast ⟨.notify, "1"⟩,
   .posted (App.whatsApp.message "Alice" "hello" 1) true,
   .posted (App.whatsApp.message "Alice" "hello again" 1) true]

theorem bothModes_enabled :
    (phoneMachine.exec NoRecords (Phone.created .assistBot) bothModes).isSome := by decide

def bothModesTrace : Trace PhoneEvent Effect :=
  ((phoneMachine.exec NoRecords (Phone.created .assistBot) bothModes).get bothModes_enabled).2

/-- The tap is on the Notify switch. -/
theorem bothModes_driven : Driven .assistBot bothModesTrace := by
  have htaps : ((MainActivity.toggles [.notify]).run (MainActivity.created .assistBot)).isSome := by
    decide
  exact ⟨[.notify], _, (Option.some_get htaps).symm, by decide⟩

def greetingAgain : Sent :=
  ⟨⟨1⟩, [⟨"reply"⟩], "com.whatsapp", some "Alice", none, [("reply", "Hey Alice, ")], true⟩

theorem greetedOnce_fails : ¬ ∀ (prefs : Preferences) (tr : Trace PhoneEvent Effect) (p : Phone),
    Run phoneMachine NoRecords (Phone.created prefs) tr p → Driven prefs tr → GreetedOnce tr p := by
  intro h
  have hrun := run_exec_get bothModes_enabled
  have hgreet : ∀ e, Greeted .whatsApp (some "Alice") (e, [.send greetingAgain]) :=
    fun e => ⟨greetingAgain, List.mem_singleton_self _, rfl, rfl, rfl, rfl⟩
  obtain ⟨z, hz, _⟩ := (h .assistBot _ _ hrun bothModes_driven).once .whatsApp (some "Alice")
    (bothModesTrace.take 2) [] []
    (.posted (App.whatsApp.message "Alice" "hello" 1) true, [.send greetingAgain])
    (.posted (App.whatsApp.message "Alice" "hello again" 1) true, [.send greetingAgain])
    (by decide) (hgreet _) (hgreet _)
  exact absurd hz (by simp)

end Greeting
end NotifyMe
