import NotifyMe.Phone.Lifecycle
import NotifyMe.Phone.ReplyCall

/-!
# `FreshSession` — an app that is turned off forgets its senders

Turning an app off clears its list, so that everybody is greeted again once it is on. But `reply` records its
sender whenever it sends, and a bot answer or a desktop record may be sent at any time.

`fresh_iff` says exactly when the list stays empty while the app is off, and afterwards holds only senders heard
since: whatever such a call records is for an app that is on, and a sender of its session. `Session` computes the
session from the events, and `mem_step_appList` says where a listed sender comes from. `fresh_fails` is an answer
that comes too late.
-/

namespace NotifyMe
namespace FreshSession

open Reactive Phone Service

/-- What the broadcasts of an app have made of its session: it has not been turned off yet, it is off, or it is
    on again, with the senders whose notifications have been posted since. -/
inductive Session where
  | first
  | off
  | again (heard : List (Option String))
  deriving DecidableEq, Repr

namespace Session

def switch : Session → Bool → Session
  | .off, true => .again []
  | σ,    true => σ
  | _,    false => .off

def hear : Session → Option String → Session
  | .again heard, name => .again (name :: heard)
  | σ,            _    => σ

def after (a : App) (σ : Session) : PhoneEvent → Session
  | .broadcast intent => if intent.action = a.toggle then σ.switch intent.on else σ
  | .posted sbn _     => if sbn.packageName = a.packageName then σ.hear sbn.extras.title else σ
  | _                 => σ

/-- The sender may be in the list. -/
def Knows : Session → Option String → Prop
  | .first,       _    => True
  | .off,         _    => False
  | .again heard, name => name ∈ heard

instance (σ : Session) (name : Option String) : Decidable (σ.Knows name) :=
  match σ with
  | .first       => inferInstanceAs (Decidable True)
  | .off         => inferInstanceAs (Decidable False)
  | .again heard => inferInstanceAs (Decidable (name ∈ heard))

/-- Nobody is forgotten until the list is cleared. -/
theorem Knows.after {σ : Session} {a : App} {e : PhoneEvent} {name : Option String} (h : σ.Knows name)
    (hc : e.clears a = false) : (σ.after a e).Knows name := by
  cases e with
  | broadcast intent =>
      simp only [Session.after]
      split
      · rename_i hact
        have hon : intent.on = true := by simpa [PhoneEvent.clears, hact] using hc
        rw [hon]
        cases σ with
        | off => exact absurd h not_false
        | first | again _ => exact h
      · exact h
  | posted sbn success =>
      simp only [Session.after]
      split
      · cases σ with
        | again heard => exact List.mem_cons_of_mem _ h
        | first | off => exact h
      · exact h
  | _ => exact h

/-- Whoever is heard while the app is not off is known. -/
theorem knows_hear {σ : Session} (h : σ ≠ .off) (name : Option String) : (σ.hear name).Knows name := by
  cases σ with
  | first => trivial
  | off => exact absurd rfl h
  | again heard => exact List.mem_cons_self

theorem after_of_speaks {σ : Session} {a : App} {e : PhoneEvent} (h : e.speaks = true) : σ.after a e = σ := by
  cases e with
  | botResponse _ _ _ | dataChange _ _ _ => rfl
  | _ => exact absurd h (by simp [PhoneEvent.speaks])

/-- Only its own broadcast turns an app off. -/
theorem after_eq_off {σ : Session} {a : App} {e : PhoneEvent} (h : σ.after a e = .off) :
    (∃ intent, e = .broadcast intent ∧ intent.action = a.toggle ∧ intent.on = false) ∨
      (σ = .off ∧ ∀ intent, e = .broadcast intent → intent.action ≠ a.toggle) := by
  cases e with
  | broadcast intent =>
      simp only [Session.after] at h
      split at h
      · rename_i hact
        cases hon : intent.on with
        | false => exact Or.inl ⟨intent, rfl, hact, hon⟩
        | true => rw [hon] at h; cases σ <;> simp [switch] at h
      · rename_i hact
        refine Or.inr ⟨h, ?_⟩
        rintro _ ⟨⟩
        exact hact
  | posted sbn success =>
      simp only [Session.after] at h
      refine Or.inr ⟨?_, by simp⟩
      split at h
      · cases σ with
        | off => rfl
        | first | again _ => simp [hear] at h
      · exact h
  | _ => exact Or.inr ⟨h, by simp⟩

end Session

def session (a : App) (tr : Trace PhoneEvent Effect) : Session :=
  tr.foldl (fun σ x => σ.after a x.1) .first

theorem session_snoc (a : App) (tr : Trace PhoneEvent Effect) (x : PhoneEvent × List Effect) :
    session a (tr ++ [x]) = (session a tr).after a x.1 := by
  simp [session]

/-- **The list of an app is empty while it is off, and starts anew when it is on again.** -/
def Fresh (tr : Trace PhoneEvent Effect) (p : Phone) : Prop :=
  ∀ a, (p.service.appEnabled a = false → p.service.appList a = []) ∧
    ∀ name ∈ p.service.appList a, (session a tr).Knows name

/-- An app with a list is on. -/
theorem Fresh.on {tr : Trace PhoneEvent Effect} {p : Phone} (h : Fresh tr p) {a : App} {name : Option String}
    (hin : name ∈ p.service.appList a) : p.service.appEnabled a = true := by
  by_contra hoff
  rw [(h a).1 (by simpa using hoff)] at hin
  exact absurd hin (by simp)

/-- **The condition.** A bot answer or a desktop record whose sender is recorded goes out for an app that is
    on, and the sender has been heard in its session. -/
def InSession : Guard Phone PhoneEvent Effect := fun tr p e => ∀ c ∈ p.replyCall e, ∀ a,
  c.records p.service a → p.service.appEnabled a = true ∧ (session a tr).Knows c.senderName

instance (tr : Trace PhoneEvent Effect) (p : Phone) (e : PhoneEvent) : Decidable (InSession tr p e) := by
  unfold InSession; infer_instance

/-- A session is off just as its app is. -/
def OffIsOff (tr : Trace PhoneEvent Effect) (p : Phone) : Prop :=
  ∀ a, session a tr = .off → p.service.editor = true ∧ p.service.appEnabled a = false

section Steps

variable [CaseMap] {tr : Trace PhoneEvent Effect} {p p' : Phone} {e : PhoneEvent} {es : List Effect}

theorem offIsOff_step (hl : Lifecycle p) (h : OffIsOff tr p) (hs : p.step e = some (p', es)) :
    OffIsOff (tr ++ [(e, es)]) p' := by
  intro a hoff
  rw [session_snoc] at hoff
  rw [appEnabled_eq_toggle]
  rcases Session.after_eq_off hoff with ⟨intent, rfl, hact, hon⟩ | ⟨hold, hne⟩
  · obtain ⟨htog, hed⟩ := step_broadcast hs
    rw [htog, hed, hact, Function.update_self]
    exact ⟨step_broadcast_editor hs, hon⟩
  · obtain ⟨hed, hflag⟩ := h a hold
    rw [appEnabled_eq_toggle] at hflag
    cases e with
    | broadcast intent =>
        obtain ⟨htog, hed'⟩ := step_broadcast hs
        rw [htog, hed', Function.update_of_ne (Ne.symm (hne intent rfl))]
        exact ⟨hed, hflag⟩
    | _ =>
        obtain ⟨htog, hed'⟩ := hl.toggle_eq hed hs (by simp)
        rw [htog]
        exact ⟨hed', hflag⟩

/-- A call changes no flag. -/
theorem speaks_appEnabled (hs : p.step e = some (p', es)) (he : e.speaks = true) (a : App) :
    p'.service.appEnabled a = p.service.appEnabled a := by
  obtain ⟨o, _, hh, _, hsv, _⟩ := step_eq_some hs
  rw [hsv, appEnabled_eq_toggle, appEnabled_eq_toggle]
  rcases hh.flags with ⟨hkeep, _⟩ | ⟨rfl, _⟩ | ⟨_, rfl, _⟩
  · exact hkeep _
  · exact absurd he (by simp [PhoneEvent.speaks])
  · exact absurd he (by simp [PhoneEvent.speaks])

/-- While the app is off nobody is added. -/
theorem empty_step (hl : Lifecycle p) (h : Fresh tr p) (hok : InSession tr p e)
    (hs : p.step e = some (p', es)) {a : App} (hoff : p'.service.appEnabled a = false) :
    p'.service.appList a = [] := by
  rw [List.eq_nil_iff_forall_not_mem]
  intro name hin
  obtain ⟨hc, hfrom⟩ := mem_step_appList hs hin
  -- the app was on before the step, so it is on after it
  have hon : p.service.appEnabled a = true := by
    rcases hfrom with hold | ⟨_, _, _, _, _, hon⟩ | ⟨c, hcall, hr, _⟩
    · exact h.on hold
    · exact hon
    · exact (hok c hcall a hr).1
  obtain ⟨o, _, hh, _, hsv, _⟩ := step_eq_some hs
  rw [appEnabled_eq_toggle] at hon
  rw [hsv, appEnabled_eq_toggle] at hoff
  have hstays : o.service.toggle a.toggle = true := by
    refine hl.toggle_keep hh hon ?_
    rintro intent rfl hact
    simpa [PhoneEvent.clears, hact] using hc
  exact absurd hoff (by simp [hstays])

theorem known_step (h : Fresh tr p) (hoff : OffIsOff tr p) (hok : InSession tr p e)
    (hs : p.step e = some (p', es)) {a : App} {name : Option String}
    (hin : name ∈ p'.service.appList a) : ((session a tr).after a e).Knows name := by
  obtain ⟨hc, hold | ⟨sbn, success, rfl, hpkg, rfl, hon⟩ | ⟨c, hcall, hr, rfl⟩⟩ :=
    mem_step_appList hs hin
  · exact ((h a).2 name hold).after hc
  · -- a greeting answers a notification that has just been posted
    have hne : session a tr ≠ .off := fun ho => absurd (hoff a ho).2 (by simp [hon])
    simp only [Session.after, if_pos hpkg]
    exact Session.knows_hear hne _
  · exact (hok c hcall a hr).2.after hc

/-- What a call records has to be fresh. -/
theorem inSession_of_fresh (h : Fresh (tr ++ [(e, es)]) p') (hs : p.step e = some (p', es)) :
    InSession tr p e := by
  intro c hcall a hr
  have he : e.speaks = true := replyCall_speaks hcall
  have hin : c.senderName ∈ p'.service.appList a := by
    rw [step_appList hs he, hcall]
    simp [Option.filter, hr]
  have hon : p'.service.appEnabled a = true := h.on hin
  have hknown := (h a).2 _ hin
  rw [session_snoc, Session.after_of_speaks he] at hknown
  exact ⟨speaks_appEnabled hs he a ▸ hon, hknown⟩

/-- **Turning an app off starts a fresh session iff what is recorded without a greeting belongs to the
    session.** -/
theorem fresh_iff {prefs : Preferences} (h : Run phoneMachine Guard.free (created prefs) tr p) :
    Always phoneMachine (created prefs) Fresh tr ↔ Run phoneMachine InSession (created prefs) tr p := by
  have hnil : ∀ a, (created prefs).service.appList a = [] := fun a => by cases a <;> rfl
  have hfresh : Fresh [] (created prefs) := fun a => by simp [hnil a]
  refine h.always_iff (I := fun tr p => Fresh tr p ∧ OffIsOff tr p)
    ⟨hfresh, fun a ho => absurd ho (by simp [session])⟩ hfresh ?_
  intro tr p e p' es hr hI hs
  have hl := lifecycle_run hr
  have hkeep : InSession tr p e → Fresh (tr ++ [(e, es)]) p' := by
    intro hok a
    refine ⟨fun hoff => empty_step hl hI.1 hok hs hoff, fun name hin => ?_⟩
    rw [session_snoc]
    exact known_step hI.1 hI.2 hok hs hin
  exact ⟨⟨hkeep, fun hf => inSession_of_fresh hf hs⟩,
    fun hok => ⟨hkeep hok, offIsOff_step hl hI.2 hs⟩⟩

end Steps

/-! ## An answer before the app is turned off, and one after it -/

/-- The app is turned off and on again after the answer, and the contact is greeted again. -/
def answeredBefore : List PhoneEvent :=
  [.listenerConnected, .posted (App.whatsApp.message "Alice" "hello" 1) true,
   .posted (App.whatsApp.message "Alice" "are you free?" 1) true, .botResponse 0 (some (some "yes")) true,
   .broadcast ⟨.whatsApp, "0"⟩, .broadcast ⟨.whatsApp, "1"⟩,
   .posted (App.whatsApp.message "Alice" "hello" 1) true]

theorem answeredBefore_enabled :
    (phoneMachine.exec Guard.free (created .assistBot) answeredBefore).isSome := by decide

theorem answeredBefore_fresh :
    Always phoneMachine (created .assistBot) Fresh
        ((phoneMachine.exec Guard.free (created .assistBot) answeredBefore).get answeredBefore_enabled).2 ↔
      Run phoneMachine InSession (created .assistBot)
        ((phoneMachine.exec Guard.free (created .assistBot) answeredBefore).get answeredBefore_enabled).2
        ((phoneMachine.exec Guard.free (created .assistBot) answeredBefore).get answeredBefore_enabled).1 :=
  fresh_iff (run_exec_get answeredBefore_enabled)

/-- The app is turned off before the bot has answered. -/
def answeredAfter : List PhoneEvent :=
  [.listenerConnected, .posted (App.whatsApp.message "Alice" "hello" 1) true,
   .posted (App.whatsApp.message "Alice" "are you free?" 1) true, .broadcast ⟨.whatsApp, "0"⟩,
   .botResponse 0 (some (some "yes")) true]

theorem answeredAfter_enabled :
    (phoneMachine.exec Guard.free (created .assistBot) answeredAfter).isSome := by decide

/-- The answer puts the contact back on the list of the app, which is off. -/
theorem fresh_fails : ¬ ∀ (prefs : Preferences) (tr : Trace PhoneEvent Effect) (p : Phone),
    Run phoneMachine Guard.free (created prefs) tr p → Fresh tr p := by
  intro h
  have hfresh := h .assistBot _ _ (run_exec_get answeredAfter_enabled)
  have hempty := (hfresh .whatsApp).1 (by decide)
  exact absurd hempty (by decide)

end FreshSession
end NotifyMe
