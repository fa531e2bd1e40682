import NotifyMe.Phone.Correctness.Embedded
import Mathlib.Data.Multiset.Bind
import Mathlib.Data.Multiset.OrderedMonoid

/-!
# `Unprompted` — no text without a message

In AssistBot mode the service writes to people by itself. It answers what they have written, and nothing
else makes it write: `unprompted` says that in every run of the app, over all lifetimes of the service, the
senders it has written to by itself, together with those for whom the bot is still being asked, are among
the senders of the notifications that were posted, each of them at most as often. The services that have
been destroyed and still get the bot's answers are counted with it. So two of these apps cannot keep each
other busy with more than one text for one.

A text is counted for the app and the name that `reply` was called with. The action it goes through is the
one the service holds by then, which can be another contact's. What is sent for the desktop's replies does
not count here.
-/

namespace NotifyMe
namespace Unprompted

open Reactive Device Lifetimes Embedded

/-- Somebody who writes: the app, and the title of the notification. -/
abbrev Sender := String × Option String

/-- Those the service writes to by itself in a step. -/
def textedIn (x : PhoneEvent × List Effect) : List Sender :=
  match x.1 with
  | .dataChange _ _ _ => []
  | _ => x.2.filterMap fun
    | .send sent => some (sent.packageName, sent.senderName)
    | _          => none

def postedIn (x : PhoneEvent × List Effect) : List Sender :=
  match x.1 with
  | .posted sbn _ => [(sbn.packageName, sbn.extras.title)]
  | _             => []

def texted (tr : Trace PhoneEvent Effect) : List Sender := tr.flatMap textedIn

def posted (tr : Trace PhoneEvent Effect) : List Sender := tr.flatMap postedIn

/-- Those for whom the bot is being asked. -/
def asking (p : Phone) : List Sender := p.requests.map fun r => (r.packageName, r.senderName)

section Service

variable [CaseMap] {p p' : Phone} {e : PhoneEvent} {es : List Effect}

omit [CaseMap] in
theorem asking_consume (p : Phone) (e : PhoneEvent) : (asking (p.consume e)).Sublist (asking p) := by
  cases e with
  | botResponse i _ _ => exact (List.eraseIdx_sublist _ _).map _
  | _ => exact List.Sublist.refl _

open Service in
/-- **One step**: who is written to or asked about was so before, or has just written. -/
theorem texted_step (h : p.step e = some (p', es)) :
    List.Subperm (textedIn (e, es) ++ asking p') (asking p ++ postedIn (e, es)) := by
  obtain ⟨o, _, hh, rfl, _, _⟩ := Phone.step_eq_some h
  have hasking : asking p' = asking (p.consume e) ++
      (Phone.executed o.effects).map fun r => (r.packageName, r.senderName) := by
    rw [asking, Phone.step_requests h, List.map_append]
    rfl
  -- a step that writes to nobody and asks for nobody
  have hquiet : textedIn (e, o.effects) = [] → Phone.executed o.effects = [] →
      List.Subperm (textedIn (e, o.effects) ++ asking p') (asking p ++ postedIn (e, o.effects)) := by
    intro htext hexec
    rw [htext, hasking, hexec, List.map_nil, List.append_nil, List.nil_append]
    exact ((asking_consume p e).trans (List.sublist_append_left _ _)).subperm
  cases hh with
  | quiet _ hq => exact hquiet (by rw [hq.2]; cases e <;> rfl) (by rw [hq.2]; rfl)
  | @posted sbn success hp =>
      cases hp with
      | quiet hq => exact hquiet (by rw [hq.2]; rfl) (by rw [hq.2]; rfl)
      | greet sent hg =>
          have hto : textedIn (.posted sbn success, o.effects) = [(sbn.packageName, sbn.extras.title)] := by
            rw [hg.answers.effects_eq, Option.some.inj hg.answers.package_eq, ← hg.answers.sender_eq]
            rfl
          have hnone : Phone.executed o.effects = [] := by rw [hg.answers.effects_eq]; rfl
          rw [hto, hasking, hnone, List.map_nil, List.append_nil]
          exact (List.perm_append_comm).subperm
      | ask ha =>
          rcases ha.effects_eq with ⟨_, he⟩ | ⟨q, hq, _, he⟩
          · exact hquiet (by rw [he]; rfl) (by rw [he]; rfl)
          · rw [hasking, he]
            exact List.Subperm.refl _
      | mirror _ _ _ _ hm => exact hquiet (by rw [hm.effects_eq]; rfl) (by rw [hm.effects_eq]; rfl)
  | @answer i r speech success sent hr ha =>
      have hto : textedIn (.botResponse i (some speech) success, o.effects) = [(r.packageName, r.senderName)] := by
        rw [ha.effects_eq, Option.some.inj ha.package_eq, ← ha.sender_eq]
        rfl
      have hnone : Phone.executed o.effects = [] := by rw [ha.effects_eq]; rfl
      obtain ⟨hi, rfl⟩ := List.getElem?_eq_some_iff.mp hr
      rw [hto, hasking, hnone, List.map_nil, List.append_nil]
      show List.Subperm _ (asking p ++ [])
      rw [List.append_nil]
      -- the request is no longer under way
      have hperm : (p.requests[i] :: p.requests.eraseIdx i).Perm p.requests := List.getElem_cons_eraseIdx_perm hi
      exact (hperm.map fun r => (r.packageName, r.senderName)).subperm
  | record _ _ ha => exact hquiet rfl (by rw [ha.effects_eq]; rfl)
  | removed _ _ _ _ he => exact hquiet (by rw [he]; rfl) (by rw [he]; rfl)
  | connected ho =>
      subst ho
      cases onListenerConnected_spec p.prefs p.service with
      | on _ _ hc | refused _ _ hc | off _ hc => exact hquiet (by rw [hc]; rfl) (by rw [hc]; rfl)
  | disconnected _ _ he => exact hquiet (by rw [he]; rfl) (by rw [he]; rfl)
  | received _ hr =>
      cases hr with
      | assist _ _ he | notifyOn _ _ _ he | notifyOff _ _ _ _ _ he | appOn _ _ _ _ he | appOff _ _ _ _ he =>
          exact hquiet (by rw [he]; rfl) (by rw [he]; rfl)

end Service

/-- The senders of a trace, as the sum of those of its steps. -/
theorem coe_flatMap {α β : Type*} (xs : List α) (f : α → List β) :
    ((xs.flatMap f : List β) : Multiset β) = (xs.map fun x => (f x : Multiset β)).sum := by
  rw [← Multiset.coe_bind, Multiset.bind, Multiset.join, Multiset.map_coe, Multiset.sum_coe]

section App

variable [CaseMap] [PhonePattern] {tr : Trace DeviceEvent DeviceEffect} {s : Device}

/-- **No text without a message.** -/
theorem unprompted {prefs : Preferences} {msgs : AssistMsgs} {flat : Option (List Char)}
    (h : Run deviceMachine Guard.free (installed prefs msgs flat) tr s) :
    List.Subperm (texted (tr.filterMap anyOf) ++ (asking s.phone ++ s.destroyed.flatMap asking))
      (posted (tr.filterMap anyOf)) := by
  have hacc := account (fun x => (textedIn x : Multiset Sender)) (fun x => (postedIn x : Multiset Sender))
    (fun p => (asking p : Multiset Sender)) (fun _ => Multiset.zero_le _) (fun _ => rfl) (fun _ _ => rfl)
    (fun _ _ _ hp => ?_) h
  · rw [total, ← coe_flatMap, ← coe_flatMap, ← coe_flatMap, Multiset.coe_add, Multiset.coe_add,
      Multiset.coe_le] at hacc
    exact hacc
  · rw [Multiset.coe_add, Multiset.coe_add, Multiset.coe_le]
    exact texted_step hp

end App

/-! ## A contact in two lifetimes -/

def assistPrefs : Preferences := { isLoggedIn := true, isAssistOn := true, isWhatsAppOn := true }

/-- Ann is greeted, and her next message is answered by the bot, when another service is there already. That one
    greets her again. -/
def greetedTwice : List DeviceEvent :=
  [.createService, .phone .listenerConnected, .phone (.posted (App.whatsApp.message "Ann" "hello" 1) true),
   .phone (.posted (App.whatsApp.message "Ann" "are you there?" 2) true), .destroyService, .createService,
   .phone .listenerConnected, .afterDestroy 0 (.botResponse 0 (some (some "yes")) true),
   .phone (.posted (App.whatsApp.message "Ann" "hello?" 3) true)]

theorem greetedTwice_enabled :
    ((@deviceMachine _ LoginNumber.digits).exec Guard.free
      (installed assistPrefs (fun _ => none) (some Consent.enabledListeners)) greetedTwice).isSome := by
  decide +kernel

def greetedTwiceState : Device :=
  (((@deviceMachine _ LoginNumber.digits).exec Guard.free
    (installed assistPrefs (fun _ => none) (some Consent.enabledListeners)) greetedTwice).get greetedTwice_enabled).1

def greetedTwiceTrace : Trace DeviceEvent DeviceEffect :=
  (((@deviceMachine _ LoginNumber.digits).exec Guard.free
    (installed assistPrefs (fun _ => none) (some Consent.enabledListeners)) greetedTwice).get greetedTwice_enabled).2

/-- Three texts for three messages. -/
example : texted (greetedTwiceTrace.filterMap anyOf) = List.replicate 3 ("com.whatsapp", some "Ann") := by
  decide +kernel

theorem greetedTwice_unprompted :
    List.Subperm (texted (greetedTwiceTrace.filterMap anyOf) ++
        (asking greetedTwiceState.phone ++ greetedTwiceState.destroyed.flatMap asking))
      (posted (greetedTwiceTrace.filterMap anyOf)) :=
  @unprompted _ LoginNumber.digits greetedTwiceTrace greetedTwiceState assistPrefs (fun _ => none)
    (some Consent.enabledListeners) (run_exec_get greetedTwice_enabled)

end Unprompted
end NotifyMe
