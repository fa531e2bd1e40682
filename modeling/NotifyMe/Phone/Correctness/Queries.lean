import NotifyMe.Phone.Machine

/-!
# `Queries` — what the bot is asked about

A greeted sender's notification is a query for the bot, unless it is the summary that a messenger posts for
several messages. The code asks for the app's toggle only when it greets, and takes the toggle of a greeted
sender for granted; it keeps a summary back only if both texts that it looks for are in it; and a request with
an empty text ends in an exception that is swallowed.

`asked_iff` says exactly when the bot is asked just as it should be: a query comes from an app that is on, is not
empty, and does not contain the shorter text alone.
-/

namespace NotifyMe
namespace Queries

open Reactive Phone Service

/-- **When the bot should be asked**: in AssistBot mode, about a greeted sender of an app that is on, and about no
    summary. -/
def ShouldAsk (s : Service) (sbn : StatusBarNotification) (text : String) : Prop :=
  s.isAssistEnabled = true ∧
    (∃ a : App, sbn.packageName = a.packageName ∧ s.appEnabled a = true ∧ sbn.extras.title ∈ s.appList a) ∧
    containsText text "new message" = false ∧ containsText text "new messages" = false

/-- A request with that text is issued. -/
def Asked (es : List Effect) (text : String) : Prop := ∃ r ∈ executed es, r.queryText = text

/-- **The bot is asked exactly when it should be**, about a notification with a title and a text. -/
def AskedRight (p : Phone) (e : PhoneEvent) (es : List Effect) : Prop :=
  match e with
  | .posted sbn _ => sbn.extras.title ≠ none → ∀ text ∈ sbn.extras.text,
      (Asked es text ↔ ShouldAsk p.service sbn text)
  | _ => True

/-- The app is on, and the text is no summary of one message. -/
def Proper (s : Service) (sbn : StatusBarNotification) (text : String) : Prop :=
  (∀ a : App, sbn.packageName = a.packageName → s.appEnabled a = true) ∧
    containsText text "new message" = false

/-- **The condition.** A text handed to the bot that does not contain the longer of the two texts does not contain
    the shorter one either, and its app is on; unless it is empty, and then its app is off. -/
def Told : Guard Phone PhoneEvent Effect := fun _ p e =>
  match e with
  | .posted sbn _ => sbn.extras.title ≠ none → ∀ text ∈ sbn.extras.text, p.service.handedToBot sbn →
      containsText text "new messages" = false → (Proper p.service sbn text ↔ text ≠ "")
  | _ => True

instance (s : Service) (sbn : StatusBarNotification) (text : String) : Decidable (Proper s sbn text) := by
  unfold Proper; infer_instance

instance (tr : Trace PhoneEvent Effect) (p : Phone) (e : PhoneEvent) : Decidable (Told tr p e) :=
  match e with
  | .posted _ _ => by dsimp only [Told]; infer_instance
  | .listenerConnected | .listenerDisconnected | .broadcast _ | .removed _ | .botResponse _ _ _
  | .dataChange _ _ _ | .login _ | .customize _ _ => inferInstanceAs (Decidable True)

/-! ## The two texts -/

theorem containsText_iff {text sub : String} :
    containsText text sub = true ↔ sub.toList <:+: text.toList := by
  simp [containsText]

/-- The longer text contains the shorter one. -/
theorem contains_message {text : String} (h : containsText text "new messages" = true) :
    containsText text "new message" = true := by
  have hpre : "new message".toList <+: "new messages".toList := by decide
  rw [containsText_iff] at h ⊢
  exact hpre.isInfix.trans h

/-- So the filter keeps back what contains the longer one, and an empty text is no query. -/
theorem queryFor_eq_some {sbn : StatusBarNotification} {text : String} (ht : sbn.extras.text = some text) :
    queryFor sbn = some text ↔ containsText text "new messages" = false ∧ text ≠ "" := by
  simp only [queryFor, ht, Option.filter_eq_some_iff, true_and, Bool.and_eq_true, Bool.or_eq_true,
    Bool.not_eq_true', decide_eq_true_eq]
  refine and_congr_left fun _ => ⟨?_, Or.inl⟩
  rintro (hlong | hshort)
  · exact hlong
  · by_contra hlong
    rw [contains_message (by simpa using hlong)] at hshort
    exact absurd hshort (by simp)

theorem shouldAsk_iff {s : Service} {sbn : StatusBarNotification} {text : String} :
    ShouldAsk s sbn text ↔
      s.handedToBot sbn ∧ containsText text "new messages" = false ∧ Proper s sbn text := by
  constructor
  · rintro ⟨hassist, ⟨a, hpkg, hon, hlist⟩, hshort, hlong⟩
    refine ⟨⟨hassist, a, hpkg, hlist⟩, hlong, fun b hb => ?_, hshort⟩
    rwa [App.packageName_inj (hb.symm.trans hpkg)]
  · rintro ⟨⟨hassist, a, hpkg, hlist⟩, hlong, hon, hshort⟩
    exact ⟨hassist, ⟨a, hpkg, hon a hpkg, hlist⟩, hshort, hlong⟩

section Steps

variable [CaseMap] {tr : Trace PhoneEvent Effect} {p p' : Phone} {e : PhoneEvent} {es : List Effect}

/-- **A request is issued** for a listed sender's text that is a query. -/
theorem asked_posted {sbn : StatusBarNotification} {success : Bool} {text : String}
    (hs : p.step (.posted sbn success) = some (p', es)) (ht : sbn.extras.text = some text) :
    Asked es text ↔
      p.service.handedToBot sbn ∧ containsText text "new messages" = false ∧ text ≠ "" := by
  obtain ⟨o, ho, hh, rfl, _, _⟩ := step_eq_some hs
  obtain rfl := Option.some.inj ho
  rw [← queryFor_eq_some ht]
  constructor
  · rintro ⟨r, hr, rfl⟩
    rcases hh.asks_or with ⟨_, hnone⟩ | ⟨sbn, success, ⟨⟩, ha⟩
    · rw [hnone] at hr
      exact absurd hr (by simp)
    · refine ⟨ha.handed, ?_⟩
      rcases ha.effects_eq with ⟨_, he⟩ | ⟨q, hq, hfor, he⟩
      · rw [he] at hr
        exact absurd hr (by simp [executed])
      · rw [he] at hr
        obtain rfl : r = ⟨sbn, q, hq⟩ := by simpa [executed] using hr
        exact hfor
  · rintro ⟨hhanded, hquery⟩
    rcases (onNotificationPosted_asks p.prefs success hhanded).effects_eq with
      ⟨hnone, _⟩ | ⟨q, hq, hfor, he⟩
    · rw [hquery] at hnone
      exact absurd hnone (by simp)
    · obtain rfl : q = text := Option.some.inj (hfor.symm.trans hquery)
      rw [he]
      exact ⟨⟨sbn, q, hq⟩, by simp [executed], rfl⟩

theorem told_iff (hs : p.step e = some (p', es)) : Told tr p e ↔ AskedRight p e es := by
  cases e with
  | posted sbn success =>
      refine forall_congr' fun _ => forall₂_congr fun text ht => ?_
      rw [asked_posted hs ht, shouldAsk_iff]
      constructor
      · intro hok
        refine ⟨fun ⟨hhanded, hlong, hne⟩ => ⟨hhanded, hlong, (hok hhanded hlong).mpr hne⟩, ?_⟩
        rintro ⟨hhanded, hlong, hproper⟩
        exact ⟨hhanded, hlong, (hok hhanded hlong).mp hproper⟩
      · intro hiff hhanded hlong
        exact ⟨fun hproper => (hiff.mpr ⟨hhanded, hlong, hproper⟩).2.2,
          fun hne => (hiff.mp ⟨hhanded, hlong, hne⟩).2.2⟩
  | _ => exact Iff.rfl

/-- **The bot is asked exactly when it should be iff nothing improper is handed to it.** -/
theorem asked_iff {prefs : Preferences} (h : Run phoneMachine Guard.free (created prefs) tr p) :
    EachStep phoneMachine (created prefs) (fun _ p e es _ => AskedRight p e es) tr ↔
      Run phoneMachine Told (created prefs) tr p :=
  h.eachStep_iff (I := fun _ _ => True) trivial fun _ _ hs => ⟨told_iff hs, fun _ => trivial⟩

end Steps

/-! ## Two summaries -/

/-- A greeted contact writes, and a summary of both messages is posted. -/
def summarised : List PhoneEvent :=
  [.listenerConnected, .posted (App.whatsApp.message "Alice" "hello" 1) true,
   .posted (App.whatsApp.message "Alice" "are you free?" 1) true,
   .posted (App.whatsApp.message "Alice" "2 new messages" 1) true]

theorem summarised_enabled : (phoneMachine.exec Guard.free (created .assistBot) summarised).isSome := by
  decide

theorem summarised_asked :
    EachStep phoneMachine (created .assistBot) (fun _ p e es _ => AskedRight p e es)
        ((phoneMachine.exec Guard.free (created .assistBot) summarised).get summarised_enabled).2 ↔
      Run phoneMachine Told (created .assistBot)
        ((phoneMachine.exec Guard.free (created .assistBot) summarised).get summarised_enabled).2
        ((phoneMachine.exec Guard.free (created .assistBot) summarised).get summarised_enabled).1 :=
  asked_iff (run_exec_get summarised_enabled)

def greeted : List PhoneEvent :=
  [.listenerConnected, .posted (App.whatsApp.message "Alice" "hello" 1) true]

theorem greeted_enabled : (phoneMachine.exec Guard.free (created .assistBot) greeted).isSome := by decide

def greetedState : Phone :=
  ((phoneMachine.exec Guard.free (created .assistBot) greeted).get greeted_enabled).1

/-- The summary of one message is put to the bot. -/
theorem asked_fails : ¬ ∀ (prefs : Preferences) (tr : Trace PhoneEvent Effect) (p : Phone),
    Run phoneMachine Guard.free (created prefs) tr p →
      EachStep phoneMachine (created prefs) (fun _ p e es _ => AskedRight p e es) tr := by
  intro h
  have hrun : Run phoneMachine Guard.free (created .assistBot) _ greetedState :=
    run_exec_get greeted_enabled
  have hstep : (phoneMachine.step greetedState
      (.posted (App.whatsApp.message "Alice" "1 new message" 1) true)).map
        (fun r => (executed r.2).map BotRequest.queryText) = some ["1 new message"] := by decide
  obtain ⟨⟨p', es⟩, hs, hquery⟩ := Option.map_eq_some_iff.mp hstep
  have hasked : Asked es "1 new message" := by
    obtain ⟨r, hr, htext⟩ := List.mem_map.mp (hquery ▸ List.mem_singleton_self _)
    exact ⟨r, hr, htext⟩
  have hright := h .assistBot _ p' (hrun.snoc trivial hs) _ _ es [] greetedState p' rfl hrun hs
    (by decide) "1 new message" rfl
  exact absurd (hright.mp hasked).2.2.1 (by decide)

end Queries
end NotifyMe
