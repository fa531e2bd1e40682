import NotifyMe.Phone.Lifecycle

/-!
# `Toggles` — no automatic reply while it is switched off

The greeting path tests both flags when it sends. The bot path tests neither: it relies on the sender being
in a list, which is only so while the app is on, and sends later, from a callback, when both flags may have
gone off.

`Settled` is the condition under which they have not: while the bot can still answer, nothing that it would
answer for is switched off. `sendsEnabled_of_settled`: in a run that keeps to it, what is sent automatically is
sent while both flags are on (from the invariant `Switched`). `sendsEnabled_fails` is a run in which AssistBot
mode goes off between a question to the bot and its answer.
-/

namespace NotifyMe
namespace Toggles

open Reactive Service

/-- **Whatever is sent automatically is sent while AssistBot mode and the app are on.** The flags are those
    before the step; no handler that sends changes them. Desktop records are no automatic replies. -/
def SendsEnabled [CaseMap] (p : Phone) : Prop :=
  ∀ e p' es sent, p.step e = some (p', es) → Effect.send sent ∈ es →
    (∀ i object success, e ≠ .dataChange i object success) →
      p.service.isAssistEnabled = true ∧
        ∀ a : App, sent.packageName = a.packageName → p.service.appEnabled a = true

/-- What a request will be answered for is on. -/
def RequestOn (s : Service) (r : BotRequest) : Prop :=
  ∀ a : App, r.packageName = a.packageName → s.appEnabled a = true

/-- **The condition.** While an answer would be sent, the mode and the app of no request under way are
    switched off; and while an app with a request under way is off, no notification makes the fields usable
    again. -/
def Settled : Guard Phone PhoneEvent Effect := fun _ p e =>
  match e with
  | .broadcast intent => intent.on = false → p.service.target.usable ≠ none →
      ∀ r ∈ p.requests, intent.action ≠ .assist ∧
        ∀ a : App, r.packageName = a.packageName → intent.action ≠ a.toggle
  | .posted sbn _ => p.service.handedToBot sbn → (p.service.target.scan sbn.actions).usable ≠ none →
      ∀ r ∈ p.requests, RequestOn p.service r
  | .dataChange _ _ _ => False
  | _ => True

instance (s : Service) (r : BotRequest) : Decidable (RequestOn s r) := by
  unfold RequestOn; infer_instance

instance (tr : Trace PhoneEvent Effect) (p : Phone) (e : PhoneEvent) :
    Decidable (Settled tr p e) :=
  match e with
  | .broadcast _ | .posted _ _ | .dataChange _ _ _ => by dsimp only [Settled]; infer_instance
  | .listenerConnected | .listenerDisconnected | .removed _ | .botResponse _ _ _ | .login _
  | .customize _ _ => inferInstanceAs (Decidable True)

structure Switched (p : Phone) : Prop where
  /-- Only an app that is on has a list. -/
  listed : ∀ a, p.service.appList a ≠ [] → p.service.appEnabled a = true
  /-- Whatever an answer would be sent for is on. -/
  asked  : p.service.target.usable ≠ none → ∀ r ∈ p.requests,
    p.service.isAssistEnabled = true ∧ RequestOn p.service r

theorem switched_created (prefs : Preferences) : Switched (Phone.created prefs) where
  listed a h := absurd (by cases a <;> rfl) h
  asked _ r hr := absurd hr (by simp [Phone.created])

/-- A notification handed to the bot: its own app has a list, and so is on. -/
theorem asked_handover {p : Phone} {sbn : StatusBarNotification} {o : Outcome} {r : BotRequest}
    (h : Switched p) (ha : Asks p.service sbn o) (hold : r ∈ p.requests → RequestOn p.service r)
    (hr : r ∈ p.requests ++ Phone.executed o.effects) :
    o.service.isAssistEnabled = true ∧ RequestOn o.service r := by
  rw [ha.service_eq]
  refine ⟨ha.handed.1, fun a hpkg => ?_⟩
  rw [appEnabled_eq_toggle, retarget_toggle, ← appEnabled_eq_toggle]
  rcases List.mem_append.mp hr with hr | hr
  · exact hold hr a hpkg
  · have hown : r.sbn = sbn := (Phone.executed_asks ha).1 r hr
    have hpkg' : sbn.packageName = a.packageName := hown ▸ hpkg
    exact h.listed a (List.ne_nil_of_mem (ha.handed.listed hpkg'))

section Runs

variable [CaseMap]

theorem sendsEnabled_of_switched {p : Phone} (h : Switched p) : SendsEnabled p := by
  intro e p' es sent hs hm hdata
  obtain ⟨o, _, hh, rfl, _, _⟩ := Phone.step_eq_some hs
  rcases hh.sent hm with ⟨sbn, success, rfl, hg⟩ | ⟨i, r, speech, success, rfl, hr, ha⟩ |
    ⟨i, r, id, model, success, rfl, _⟩
  · -- a greeting: both flags have just been tested
    exact ⟨hg.assist_on, fun a hpkg => (hg.of_package hpkg).2.1⟩
  · -- a bot answer: it is sent, so the fields are usable
    have hu : p.service.target.usable ≠ none := by rw [ha.target_eq]; simp
    obtain ⟨hassist, hon⟩ := h.asked hu r (List.mem_of_getElem? hr)
    exact ⟨hassist, fun a hpkg => hon a (by rw [Option.some.inj ha.package_eq, hpkg])⟩
  · exact absurd rfl (hdata i (some r) success)

section Steps

variable {tr : Trace PhoneEvent Effect} {p p' : Phone} {e : PhoneEvent} {es : List Effect}

/-- An app whose list has not been cleared was on before the step, since something was sent for it, then or
    just now; and it has not been switched off. -/
theorem listed_step (hl : Phone.Lifecycle p) (h : Switched p) (hok : Settled tr p e)
    (hs : p.step e = some (p', es)) {a : App} (hne : p'.service.appList a ≠ []) :
    p'.service.appEnabled a = true := by
  obtain ⟨o, _, hh, rfl, hsv, _⟩ := Phone.step_eq_some hs
  rw [hsv, hh.appList] at hne
  have hc : e.clears a = false := by
    by_contra hc
    simp only [Bool.not_eq_false] at hc
    exact hne (by rw [if_pos hc])
  have hon : p.service.appEnabled a = true := by
    by_cases hold : p.service.appList a = []
    · -- the sender was recorded in this step
      rw [hc, hold, List.nil_append] at hne
      obtain ⟨name, hname⟩ := List.exists_mem_of_ne_nil _ hne
      obtain ⟨_, sent, hm, _, hpkg, _⟩ := mem_recorded.mp hname
      refine (sendsEnabled_of_switched h e p' o.effects sent hs hm ?_).2 a hpkg
      rintro i object success rfl
      exact hok
    · exact h.listed a hold
  rw [appEnabled_eq_toggle] at hon
  rw [hsv, appEnabled_eq_toggle]
  refine hl.toggle_keep hh hon ?_
  rintro intent rfl hact
  simpa [PhoneEvent.clears, hact] using hc

/-- A request that was under way, in a step that leaves the fields alone. -/
theorem asked_keep {o : Outcome} {r : BotRequest} (hl : Phone.Lifecycle p) (h : Switched p)
    (hok : Settled tr p e) (hh : Phone.Handled p o e) (hu : p.service.target.usable ≠ none)
    (hr : r ∈ p.requests) : o.service.isAssistEnabled = true ∧ RequestOn o.service r := by
  obtain ⟨hassist, hon⟩ := h.asked hu r hr
  constructor
  · refine hl.toggle_keep (t := .assist) hh hassist ?_
    rintro intent rfl hact
    by_contra hoff
    exact (hok (by simpa using hoff) hu r hr).1 hact
  · intro a hpkg
    have ha := hon a hpkg
    rw [appEnabled_eq_toggle] at ha ⊢
    refine hl.toggle_keep hh ha ?_
    rintro intent rfl hact
    by_contra hoff
    exact (hok (by simpa using hoff) hu r hr).2 a hpkg hact

theorem switched_step (hl : Phone.Lifecycle p) (h : Switched p) (hok : Settled tr p e)
    (hs : p.step e = some (p', es)) : Switched p' := by
  refine ⟨fun a hne => listed_step hl h hok hs hne, fun hu r hr => ?_⟩
  have hreq := Phone.step_requests hs
  obtain ⟨o, _, hh, rfl, hsv, _⟩ := Phone.step_eq_some hs
  rw [hsv] at hu ⊢
  rw [hreq] at hr
  rcases hh.asks_or with ⟨ht, hex⟩ | ⟨sbn, success, rfl, ha⟩
  · rw [hex, List.append_nil] at hr
    rw [ht] at hu
    exact asked_keep hl h hok hh hu (Phone.consume_requests hr)
  · rw [ha.service_eq] at hu
    exact asked_handover h ha (hok ha.handed hu r) hr

end Steps

/-- **No automatic reply while it is switched off**, in every settled run. -/
theorem sendsEnabled_of_settled {prefs : Preferences} {tr : Trace PhoneEvent Effect} {p : Phone}
    (h : Run phoneMachine Settled (Phone.created prefs) tr p) : SendsEnabled p :=
  sendsEnabled_of_switched
    (h.invariant (I := fun _ p => Switched p) (switched_created prefs)
      (fun hr hI hok hs => switched_step (Phone.lifecycle_run hr) hI hok hs))

end Runs

/-! ## Runs in which AssistBot mode stays on and in which it goes off -/

/-- A contact is greeted and writes again; the bot answers before the mode is switched off. -/
def answeredInTime : List PhoneEvent :=
  [.listenerConnected, .posted (App.whatsApp.message "Alice" "hello" 1) true,
   .posted (App.whatsApp.message "Alice" "are you free?" 1) true,
   .botResponse 0 (some (some "yes")) true, .broadcast ⟨.assist, "0"⟩]

theorem answeredInTime_enabled :
    (phoneMachine.exec Settled (Phone.created .assistBot) answeredInTime).isSome := by decide

theorem answeredInTime_sendsEnabled :
    SendsEnabled ((phoneMachine.exec Settled (Phone.created .assistBot) answeredInTime).get
      answeredInTime_enabled).1 :=
  sendsEnabled_of_settled (run_exec_get answeredInTime_enabled)

/-- The mode is switched off before the bot has answered. -/
def answeredLate : List PhoneEvent :=
  [.listenerConnected, .posted (App.whatsApp.message "Alice" "hello" 1) true,
   .posted (App.whatsApp.message "Alice" "are you free?" 1) true, .broadcast ⟨.assist, "0"⟩]

theorem answeredLate_enabled :
    (phoneMachine.exec NoRecords (Phone.created .assistBot) answeredLate).isSome := by decide

def answeredLateState : Phone :=
  ((phoneMachine.exec NoRecords (Phone.created .assistBot) answeredLate).get
    answeredLate_enabled).1

/-- The answer goes out although AssistBot mode is off. -/
theorem sendsEnabled_fails : ¬ ∀ (prefs : Preferences) (tr : Trace PhoneEvent Effect) (p : Phone),
    Run phoneMachine NoRecords (Phone.created prefs) tr p → SendsEnabled p := by
  intro h
  have hsends := h .assistBot _ _ (run_exec_get answeredLate_enabled)
  have hstep : (answeredLateState.step (.botResponse 0 (some (some "yes")) true)).map Prod.snd =
      some [.send ⟨⟨1⟩, [⟨"reply"⟩], "com.whatsapp", some "Alice", some "yes", [("reply", "yes")],
        true⟩] := by decide
  obtain ⟨⟨p', es⟩, hs, rfl⟩ := Option.map_eq_some_iff.mp hstep
  have hon := hsends _ p' _ _ hs (List.mem_singleton_self _) (by simp)
  exact absurd hon.1 (by decide)

end Toggles
end NotifyMe
