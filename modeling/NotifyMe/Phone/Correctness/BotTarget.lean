import NotifyMe.Phone.Machine

/-!
# `BotTarget` — through which intent a bot answer goes out

A bot request captures the extras, sender and package of its notification in the `AsyncTask`, but the
target of the answer stays behind in the two fields of the service, where the next notification handed to
the bot overwrites it. So an answer goes to the conversation it belongs to (`AnswersOwn`) only while the
fields still hold that notification's reply action.

`Undisturbed` is the condition on the notifications that keeps them so; `answersOwn_of_undisturbed` proves
it over whole runs from the one-step invariant `Aligned`, and `answersOwn_fails` is a run without it: two
conversations, and the first answer sent to the second.
-/

namespace NotifyMe
namespace BotTarget

open Reactive Service

/-- **A bot answer is sent through the reply action of the notification whose text was its query**, whenever
    it arrives and whatever it is; with no such action nothing is sent. -/
def AnswersOwn (p : Phone) : Prop :=
  ∀ r ∈ p.requests, ∀ aiResponse success sent,
    Effect.send sent ∈ (p.service.onPostExecute p.prefs r aiResponse success).effects →
      r.sbn.replyAction.usable = some (sent.remoteInputs, sent.pendingIntent)

/-- A notification may be handed over while requests are under way: it brings a usable reply action only
    if it is theirs too; and if it brings none, it asks the bot only while the fields are unusable. -/
def Compatible (p : Phone) (sbn : StatusBarNotification) : Prop :=
  (sbn.carriesReply → sbn.replyAction.usable ≠ none →
    ∀ r ∈ p.requests, r.sbn.replyAction.usable = sbn.replyAction.usable) ∧
  (¬ sbn.carriesReply → queryFor sbn ≠ none → p.service.target.usable = none)

/-- **The condition**: only compatible notifications are handed to the bot. -/
def Undisturbed : Guard Phone PhoneEvent Effect := fun _ p e =>
  match e with
  | .posted sbn _ => handedToBot p.service sbn → Compatible p sbn
  | _ => True

instance (p : Phone) (sbn : StatusBarNotification) : Decidable (Compatible p sbn) := by
  unfold Compatible; infer_instance

instance (tr : Trace PhoneEvent Effect) (p : Phone) (e : PhoneEvent) :
    Decidable (Undisturbed tr p e) := by
  unfold Undisturbed; split <;> infer_instance

/-- When the fields are usable, they hold the reply action of every notification a request is under way
    for. -/
def Aligned (p : Phone) : Prop :=
  p.service.target.usable ≠ none →
    ∀ r ∈ p.requests, r.sbn.replyAction.usable = p.service.target.usable

theorem aligned_created (prefs : Preferences) : Aligned (Phone.created prefs) := by
  intro _ r hr
  exact absurd hr (by simp [Phone.created])

/-- Every answer goes to its own conversation just when the fields are aligned with the requests. -/
theorem answersOwn_iff_aligned {p : Phone} : AnswersOwn p ↔ Aligned p := by
  constructor
  · intro h hu r hr
    obtain ⟨sent, ha⟩ := reply_message p.prefs p.service r.bundle r.senderName r.packageName ""
      r.senderName true hu
    have hown := h r hr (some (some "")) true sent (by
      show _ ∈ (reply p.prefs p.service p.service.target r.bundle r.senderName
        (some r.packageName) (some "") r.senderName true).effects
      rw [ha.effects_eq]
      exact List.mem_singleton_self _)
    rw [hown, ha.target_eq]
  · intro h r hr aiResponse success sent hsent
    rcases onPostExecute_spec p.prefs p.service r aiResponse success with
      ⟨_, heff⟩ | ⟨speech, sent', _, ha⟩
    · rw [heff] at hsent
      exact absurd hsent (by simp)
    · rw [ha.effects_eq, List.mem_singleton] at hsent
      obtain rfl := Effect.send.inj hsent
      rw [h (by rw [ha.target_eq]; simp) r hr, ha.target_eq]

/-- **Handing over a notification keeps the fields aligned exactly under the condition.** `asked` are the
    requests the handover adds: one for this notification, or none. -/
theorem aligned_handover {p p' : Phone} {sbn : StatusBarNotification} {asked : List BotRequest}
    (h : Aligned p) (ht : p'.service.target = p.service.target.scan sbn.actions)
    (hreq : p'.requests = p.requests ++ asked) (hown : ∀ r ∈ asked, r.sbn = sbn)
    (hasked : asked = [] ↔ queryFor sbn = none) :
    Aligned p' ↔ Compatible p sbn := by
  unfold Aligned Compatible
  rw [ht, hreq]
  by_cases hc : sbn.carriesReply
  · -- the fields are overwritten
    have hscan : p.service.target.scan sbn.actions = sbn.replyAction :=
      ReplyTarget.scan_carries hc _ _
    rw [hscan]
    constructor
    · exact fun hal => ⟨fun _ hu r hr => hal hu r (by simp [hr]), fun hn => absurd hc hn⟩
    · rintro ⟨hold, _⟩ hu r hr
      rcases List.mem_append.mp hr with hr | hr
      · exact hold hc hu r hr
      · rw [hown r hr]
  · -- the fields stay, and the notification has no reply action of its own
    have hscan : p.service.target.scan sbn.actions = p.service.target :=
      ReplyTarget.scan_not_carries hc _
    have hnull : sbn.replyAction.usable = none := by
      rw [show sbn.replyAction = {} from ReplyTarget.scan_not_carries hc _]
      rfl
    rw [hscan]
    constructor
    · refine fun hal => ⟨fun hy => absurd hy hc, fun _ hq => ?_⟩
      obtain ⟨r, hr⟩ := List.exists_mem_of_ne_nil asked (fun he => hq (hasked.mp he))
      by_contra hu
      have heq := hal hu r (by simp [hr])
      rw [hown r hr, hnull] at heq
      exact hu heq.symm
    · rintro ⟨_, hstale⟩ hu r hr
      rcases List.mem_append.mp hr with hr | hr
      · exact h hu r hr
      · have hq : queryFor sbn ≠ none :=
          fun hq => absurd (hasked.mpr hq) (List.ne_nil_of_mem hr)
        exact absurd (hstale hc hq) hu

section Runs

variable [CaseMap]

theorem aligned_step {tr : Trace PhoneEvent Effect} {p p' : Phone} {e : PhoneEvent}
    {es : List Effect} (h : Aligned p) (hok : Undisturbed tr p e) (hs : p.step e = some (p', es)) :
    Aligned p' := by
  obtain ⟨o, _, hh, he, hsv, _⟩ := Phone.step_eq_some hs
  have hreq := Phone.step_requests hs
  rcases hh.asks_or with ⟨ht, hex⟩ | ⟨sbn, success, rfl, ha⟩
  · -- the fields stay, and no request is new
    rw [he, hex, List.append_nil] at hreq
    intro hu r hr
    rw [hsv, ht] at hu ⊢
    rw [hreq] at hr
    exact h hu r (Phone.consume_requests hr)
  · have ht : p'.service.target = p.service.target.scan sbn.actions := by
      rw [hsv, ha.service_eq, retarget_target]
    rw [he] at hreq
    obtain ⟨hown, hasked⟩ := Phone.executed_asks ha
    exact (aligned_handover h ht hreq hown hasked).mpr (hok ha.handed)

/-- **Bot answers go to their own conversation in every undisturbed run.** -/
theorem answersOwn_of_undisturbed {prefs : Preferences} {tr : Trace PhoneEvent Effect} {p : Phone}
    (h : Run phoneMachine Undisturbed (Phone.created prefs) tr p) : AnswersOwn p :=
  answersOwn_iff_aligned.mpr
    (h.invariant (I := fun _ p => Aligned p) (aligned_created prefs)
      (fun _ hI hok hs => aligned_step hI hok hs))

end Runs

/-! ## Runs with one conversation and with two -/

/-- A contact is greeted and writes twice more, before the bot has answered. -/
def oneContact : List PhoneEvent :=
  [.listenerConnected, .posted (App.whatsApp.message "Alice" "hello" 1) true,
   .posted (App.whatsApp.message "Alice" "are you free?" 1) true,
   .posted (App.whatsApp.message "Alice" "hello?" 1) true]

theorem oneContact_enabled :
    (phoneMachine.exec Undisturbed (Phone.created .assistBot) oneContact).isSome := by decide

theorem oneContact_answersOwn :
    AnswersOwn ((phoneMachine.exec Undisturbed (Phone.created .assistBot) oneContact).get
      oneContact_enabled).1 :=
  answersOwn_of_undisturbed (run_exec_get oneContact_enabled)

/-- Two contacts are greeted, then both write again before the bot has answered either. -/
def twoContacts : List PhoneEvent :=
  [.listenerConnected,
   .posted (App.whatsApp.message "Alice" "hello" 1) true,
   .posted (App.whatsApp.message "Bob" "hello" 2) true,
   .posted (App.whatsApp.message "Alice" "are you free?" 1) true,
   .posted (App.whatsApp.message "Bob" "call me" 2) true]

theorem twoContacts_enabled :
    (phoneMachine.exec Guard.free (Phone.created .assistBot) twoContacts).isSome := by decide

/-- The bot's answer to the first contact goes out through the intent of the second. -/
theorem answersOwn_fails : ¬ ∀ (prefs : Preferences) (tr : Trace PhoneEvent Effect) (p : Phone),
    Run phoneMachine Guard.free (Phone.created prefs) tr p → AnswersOwn p := by
  intro h
  have hown := h .assistBot _ _ (run_exec_get twoContacts_enabled)
  have hwrong := hown ⟨App.whatsApp.message "Alice" "are you free?" 1, "are you free?", rfl⟩
    (by decide) (some (some "yes")) true
    ⟨⟨2⟩, [⟨"reply"⟩], "com.whatsapp", some "Alice", some "yes", [("reply", "yes")], true⟩
    (by decide)
  exact absurd hwrong (by decide)

end BotTarget
end NotifyMe
