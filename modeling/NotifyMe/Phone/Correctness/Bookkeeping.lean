import NotifyMe.Phone.ReplyCall

/-!
# `Bookkeeping` — what one mode keeps of the other

The lists of greeted senders belong to AssistBot mode, the table of entries to Notify mode. Both modes reply
through `reply`, which does the bookkeeping of the mode that is on when the reply goes out, whoever called it.

`apart_iff` says exactly when no handler of one mode touches what the other keeps: in Notify mode no bot answer
goes out to a sender whose raw name is the id of an entry, and outside of it no desktop record goes out for one
of the apps. `apart_fails` is a bot answer that arrives after the mode has been changed.
-/

namespace NotifyMe
namespace Bookkeeping

open Reactive Phone Service

/-- **The step leaves the other mode's state alone**: a notification in AssistBot mode and a bot answer the
    table, a desktop record the two lists. -/
def Apart (p : Phone) (e : PhoneEvent) (p' : Phone) : Prop :=
  match e with
  | .posted _ _        => p.service.isAssistEnabled = true → p'.service.hashMap = p.service.hashMap
  | .botResponse _ _ _ => p'.service.hashMap = p.service.hashMap
  | .dataChange _ _ _  => ∀ a, p'.service.appList a = p.service.appList a
  | _                  => True

/-- What the call that an event leads to would record or remove is nothing. -/
def Harmless (s : Service) (e : PhoneEvent) (c : ReplyCall) : Prop :=
  match e with
  | .botResponse _ _ _ => ∀ id ∈ c.notifId, c.removes s id → s.hashMap.lookup id = none
  | .dataChange _ _ _  => ∀ a, ¬ c.records s a
  | _                  => True

/-- **The condition.** A bot answer that goes out in Notify mode finds no entry under its sender's name, and a
    desktop record that goes out for one of the apps does so in Notify mode. -/
def InMode : Guard Phone PhoneEvent Effect := fun _ p e =>
  ∀ c ∈ p.replyCall e, Harmless p.service e c

instance (s : Service) (e : PhoneEvent) (c : ReplyCall) : Decidable (Harmless s e c) :=
  match e with
  | .botResponse _ _ _ | .dataChange _ _ _ => by dsimp only [Harmless]; infer_instance
  | .listenerConnected | .listenerDisconnected | .broadcast _ | .posted _ _ | .removed _ | .login _
  | .customize _ _ => inferInstanceAs (Decidable True)

instance (tr : Trace PhoneEvent Effect) (p : Phone) (e : PhoneEvent) : Decidable (InMode tr p e) := by
  unfold InMode; infer_instance

section Steps

variable [CaseMap] {p p' : Phone} {e : PhoneEvent} {es : List Effect}

/-- In AssistBot mode no notification is mirrored. -/
theorem posted_apart {sbn : StatusBarNotification} {success : Bool}
    (hs : p.step (.posted sbn success) = some (p', es)) : Apart p (.posted sbn success) p' := by
  intro hassist
  obtain ⟨o, ho, _, _, hsv, _⟩ := step_eq_some hs
  obtain rfl := Option.some.inj ho
  rw [hsv]
  rcases (onNotificationPosted_spec p.prefs p.service sbn success).mirrors_or with
    ⟨_, _, hoff, _⟩ | ⟨htable, _⟩
  · exact absurd hoff (by simp [hassist])
  · exact Finmap.ext_lookup htable

/-- A call takes nothing out of the table iff there is nothing under its id, or it removes none. -/
theorem botResponse_apart {i : Nat} {aiResponse : Option (Option String)} {success : Bool}
    (hs : p.step (.botResponse i aiResponse success) = some (p', es)) :
    (∀ c ∈ p.replyCall (.botResponse i aiResponse success),
        Harmless p.service (.botResponse i aiResponse success) c) ↔
      Apart p (.botResponse i aiResponse success) p' := by
  have htable := step_hashMap hs rfl
  constructor
  · intro hok
    refine Finmap.ext_lookup fun id => ?_
    rw [htable]
    split
    · rename_i hrem
      obtain ⟨c, hc, hr⟩ := hrem
      exact (hok c hc id hr.2.2 hr).symm
    · rfl
  · intro hsame c hc id _ hr
    have hsame : p'.service.hashMap = p.service.hashMap := hsame
    rw [← hsame, htable, if_pos ⟨c, hc, hr⟩]

/-- A call adds nothing to the lists iff it records no sender. -/
theorem dataChange_apart {i : Nat} {object : Option Record} {success : Bool}
    (hs : p.step (.dataChange i object success) = some (p', es)) :
    (∀ c ∈ p.replyCall (.dataChange i object success),
        Harmless p.service (.dataChange i object success) c) ↔
      Apart p (.dataChange i object success) p' := by
  have hlist := step_appList hs rfl
  cases hc : p.replyCall (.dataChange i object success) with
  | none =>
      rw [hc] at hlist
      exact ⟨fun _ a => by simp [hlist], fun _ c hcall => absurd hcall (by simp)⟩
  | some c =>
      rw [hc] at hlist
      constructor
      · intro hok a
        have hno : ¬ c.records p.service a := hok c rfl a
        rw [hlist]
        simp [Option.filter, hno]
      · intro hsame c' hc' a hr
        obtain rfl := Option.some.inj hc'
        have hsame : ∀ a, p'.service.appList a = p.service.appList a := hsame
        have hlen := congrArg List.length ((hlist a).symm.trans (hsame a))
        simp [Option.filter, hr] at hlen

theorem inMode_iff {tr : Trace PhoneEvent Effect} (hs : p.step e = some (p', es)) :
    InMode tr p e ↔ Apart p e p' := by
  cases e with
  | posted sbn success =>
      exact ⟨fun _ => posted_apart hs, fun _ c hc => absurd hc (by simp [replyCall])⟩
  | botResponse i aiResponse success => exact botResponse_apart hs
  | dataChange i object success => exact dataChange_apart hs
  | _ => exact ⟨fun _ => trivial, fun _ c hc => absurd hc (by simp [replyCall])⟩

/-- **No step touches the state of the other mode iff every call is harmless to it.** -/
theorem apart_iff {prefs : Preferences} {tr : Trace PhoneEvent Effect}
    (h : Run phoneMachine Guard.free (created prefs) tr p) :
    EachStep phoneMachine (created prefs) (fun _ p e _ p' => Apart p e p') tr ↔
      Run phoneMachine InMode (created prefs) tr p :=
  h.eachStep_iff (I := fun _ _ => True) trivial fun _ _ hs => ⟨inMode_iff hs, fun _ => trivial⟩

end Steps

/-! ## A bot answer before the mode changes, and one after it -/

/-- A contact is greeted, writes again, and is answered by the bot. -/
def answered : List PhoneEvent :=
  [.listenerConnected, .posted (App.whatsApp.message "alice" "hello" 1) true,
   .posted (App.whatsApp.message "alice" "are you free?" 1) true,
   .botResponse 0 (some (some "yes")) true]

theorem answered_enabled : (phoneMachine.exec Guard.free (created .assistBot) answered).isSome := by decide

theorem answered_apart :
    EachStep phoneMachine (created .assistBot) (fun _ p e _ p' => Apart p e p')
        ((phoneMachine.exec Guard.free (created .assistBot) answered).get answered_enabled).2 ↔
      Run phoneMachine InMode (created .assistBot)
        ((phoneMachine.exec Guard.free (created .assistBot) answered).get answered_enabled).2
        ((phoneMachine.exec Guard.free (created .assistBot) answered).get answered_enabled).1 :=
  apart_iff (run_exec_get answered_enabled)

/-- Notify mode is turned on while the bot is thinking, and a message of the contact is mirrored. -/
def changedOver : List PhoneEvent :=
  [.listenerConnected, .posted (App.whatsApp.message "alice" "hello" 1) true,
   .posted (App.whatsApp.message "alice" "are you free?" 1) true, .broadcast ⟨.assist, "0"⟩,
   .broadcast ⟨.notify, "1"⟩, .posted (App.whatsApp.message "alice" "hello?" 1) true]

theorem changedOver_enabled :
    (phoneMachine.exec Guard.free (created .assistBot) changedOver).isSome := by decide

def changedOverState : Phone :=
  ((phoneMachine.exec Guard.free (created .assistBot) changedOver).get changedOver_enabled).1

/-- The answer of the bot takes the entry of the mirrored conversation out of the table. -/
theorem apart_fails : ¬ ∀ (prefs : Preferences) (tr : Trace PhoneEvent Effect) (p : Phone),
    Run phoneMachine Guard.free (created prefs) tr p →
      EachStep phoneMachine (created prefs) (fun _ p e _ p' => Apart p e p') tr := by
  intro h
  have hrun : Run phoneMachine Guard.free (created .assistBot) _ changedOverState :=
    run_exec_get changedOver_enabled
  have hstep : (phoneMachine.step changedOverState (.botResponse 0 (some (some "yes")) true)).map
      (fun r => r.1.service.hashMap.lookup "alice") = some none := by decide
  obtain ⟨⟨p', es⟩, hs, hnone⟩ := Option.map_eq_some_iff.mp hstep
  have hsame : p'.service.hashMap = changedOverState.service.hashMap :=
    h .assistBot _ p' (hrun.snoc trivial hs) _ _ es [] changedOverState p' rfl hrun hs
  have hentry : changedOverState.service.hashMap.lookup "alice" ≠ none := by decide
  exact hentry (hsame ▸ hnone)

end Bookkeeping
end NotifyMe
