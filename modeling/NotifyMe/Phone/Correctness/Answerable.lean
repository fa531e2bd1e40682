import NotifyMe.Phone.Machine

/-!
# `Answerable` — a mirrored conversation can be answered

In Notify mode a notification of one of the apps is mirrored as soon as it has an action at all, and the entry
stored for it is what the loop over the actions leaves in the two variables. If they are null, the entry is there
and `reply` returns early for it.

`answerable_iff` says exactly when every entry can be answered: every mirrored notification has an action that
takes remote input, and the last such action has an intent. The entry is then that action of the latest
notification mirrored under its id.
-/

namespace NotifyMe
namespace Answerable

open Reactive Phone Service

section Property

variable [CaseMap]

/-- The latest notification mirrored with an id. -/
def latest (tr : Trace PhoneEvent Effect) (id : String) : Option StatusBarNotification :=
  ((tr.filterMap (mirroredIn fun _ => true)).filter fun sbn => sbn.extras.title.map conversationId = some id).getLast?

/-- **Every entry can be answered**: `reply` finds both variables set, to the remote inputs and the intent of
    one action of the latest notification mirrored with that id. -/
def EveryAnswerable (tr : Trace PhoneEvent Effect) (p : Phone) : Prop :=
  ∀ id model, p.service.hashMap.lookup id = some model →
    ∃ sbn remoteInputs pendingIntent, latest tr id = some sbn ∧
      some ⟨some remoteInputs, some pendingIntent⟩ ∈ sbn.actions ∧
      ReplyTarget.usable ⟨model.remoteInputs, model.pendingIntent⟩ = some (remoteInputs, pendingIntent)

/-- **The condition.** A notification that is mirrored has a usable reply action. -/
def Repliable : Guard Phone PhoneEvent Effect := fun _ p e =>
  match e with
  | .posted sbn _ => mirrorId p.service sbn ≠ none → sbn.replyAction.usable ≠ none
  | _ => True

instance (tr : Trace PhoneEvent Effect) (p : Phone) (e : PhoneEvent) : Decidable (Repliable tr p e) :=
  match e with
  | .posted _ _ => by dsimp only [Repliable]; infer_instance
  | .listenerConnected | .listenerDisconnected | .broadcast _ | .removed _ | .botResponse _ _ _
  | .dataChange _ _ _ | .login _ | .customize _ _ => inferInstanceAs (Decidable True)

/-! ## The latest notification -/

section Latest

variable {tr : Trace PhoneEvent Effect} {e : PhoneEvent} {es : List Effect}

theorem latest_keep (h : ∀ location object, Effect.setApp location object ∉ es) (id : String) :
    latest (tr ++ [(e, es)]) id = latest tr id := by
  have hno : mirroredIn (fun _ => true) (e, es) = none := mirroredIn_none fun location object _ => h location object
  simp [latest, hno]

theorem latest_mirrors {s : Service} {sbn : StatusBarNotification} {success : Bool} {title reference : String}
    {o : Outcome} (h : Mirrors s sbn title reference o) (id : String) :
    latest (tr ++ [(.posted sbn success, o.effects)]) id =
      if conversationId title = id then some sbn else latest tr id := by
  have hin : mirroredIn (fun _ => true) (.posted sbn success, o.effects) = some sbn := by
    simp [mirroredIn, h.effects_eq]
  by_cases hid : conversationId title = id
  · simp [latest, hin, h.title_eq, hid]
  · simp [latest, hin, h.title_eq, hid]

end Latest

/-! ## The entries of the table -/

section Steps

variable {tr : Trace PhoneEvent Effect} {p p' : Phone} {e : PhoneEvent} {es : List Effect}

/-- A step that mirrors nothing leaves fewer entries, with the same latest notifications. -/
theorem EveryAnswerable.keep (h : EveryAnswerable tr p)
    (hset : ∀ location object, Effect.setApp location object ∉ es)
    (hold : ∀ id model, p'.service.hashMap.lookup id = some model →
      p.service.hashMap.lookup id = some model) : EveryAnswerable (tr ++ [(e, es)]) p' := by
  intro id model hl
  rw [latest_keep hset]
  exact h id model (hold id model hl)

/-- The entry of a mirrored notification is its reply action. -/
theorem mirrored_iff {sbn : StatusBarNotification} {success : Bool} {title reference : String} {o : Outcome}
    (h : EveryAnswerable tr p) (hm : Mirrors p.service sbn title reference o)
    (hsv : p'.service = o.service) :
    sbn.replyAction.usable ≠ none ↔ EveryAnswerable (tr ++ [(.posted sbn success, o.effects)]) p' := by
  rw [hm.service_eq] at hsv
  constructor
  · intro hu id model hl
    rw [latest_mirrors hm]
    by_cases hid : conversationId title = id
    · subst hid
      obtain ⟨⟨ris, pi⟩, hu⟩ := Option.ne_none_iff_exists'.mp hu
      obtain rfl : _ = model := by simpa [hsv, mirrored] using hl
      exact ⟨sbn, ris, pi, if_pos rfl, ReplyTarget.usable_mem hu, hu⟩
    · rw [if_neg hid]
      exact h id model (by simpa [hsv, mirrored, Ne.symm hid] using hl)
  · intro h'
    obtain ⟨_, _, _, _, _, hu⟩ := h' (conversationId title)
      ⟨sbn.extras, sbn.replyAction.pendingIntent, sbn.replyAction.remoteInputs⟩ (by simp [hsv, mirrored])
    have hsame : ReplyTarget.usable sbn.replyAction = some _ := hu
    rw [hsame]
    simp

theorem repliable_iff (h : EveryAnswerable tr p) (hs : p.step e = some (p', es)) :
    Repliable tr p e ↔ EveryAnswerable (tr ++ [(e, es)]) p' := by
  obtain ⟨o, ho, hh, rfl, hsv, _⟩ := step_eq_some hs
  rcases hh.mirrors_or with ⟨sbn, success, title, reference, rfl, hassist, hnotify, hm⟩ | ⟨hset, hold⟩
  · rw [← mirrored_iff h hm hsv]
    show (mirrorId p.service sbn ≠ none → _) ↔ _
    rw [hm.mirrorId_eq hassist hnotify]
    simp
  · refine ⟨fun _ => h.keep hset (by rw [hsv]; exact hold), fun _ => ?_⟩
    cases e with
    | posted sbn success =>
        -- had it an id to be mirrored under, it would have been
        intro hid
        obtain ⟨id, hid⟩ := Option.ne_none_iff_exists'.mp hid
        obtain ⟨_, _, hm⟩ := onNotificationPosted_mirrors p.prefs success hid
        obtain rfl := Option.some.inj ho
        exact absurd (hm.effects_eq ▸ List.mem_singleton_self _) (hset _ _)
    | _ => trivial

/-- **Every mirrored conversation can be answered iff every mirrored notification has a usable action.** -/
theorem answerable_iff {prefs : Preferences} (h : Run phoneMachine Guard.free (created prefs) tr p) :
    Always phoneMachine (created prefs) EveryAnswerable tr ↔
      Run phoneMachine Repliable (created prefs) tr p := by
  have hnil : EveryAnswerable [] (created prefs) := fun id model hl => absurd hl (by simp [created])
  refine h.always_iff (I := EveryAnswerable) hnil hnil ?_
  intro tr p e p' es _ hI hs
  exact ⟨repliable_iff hI hs, (repliable_iff hI hs).mp⟩

end Steps

end Property

/-! ## A notification with a reply action, and one without -/

/-- A message is mirrored, and another one of the same contact. -/
def twoMessages : List PhoneEvent :=
  [.listenerConnected, .posted (App.whatsApp.message "Ann" "hello" 1) true,
   .posted (App.whatsApp.message "Ann (2 messages)" "are you there?" 2) true]

theorem twoMessages_enabled : (phoneMachine.exec Guard.free (created .notifyMode) twoMessages).isSome := by
  decide

theorem twoMessages_answerable :
    Always phoneMachine (created .notifyMode) EveryAnswerable
        ((phoneMachine.exec Guard.free (created .notifyMode) twoMessages).get twoMessages_enabled).2 ↔
      Run phoneMachine Repliable (created .notifyMode)
        ((phoneMachine.exec Guard.free (created .notifyMode) twoMessages).get twoMessages_enabled).2
        ((phoneMachine.exec Guard.free (created .notifyMode) twoMessages).get twoMessages_enabled).1 :=
  answerable_iff (run_exec_get twoMessages_enabled)

/-- A missed call: its one action calls back, and takes no text. -/
def missedCall : StatusBarNotification where
  packageName := "com.whatsapp"
  extras      := { title := some "Ann", text := some "Missed voice call" }
  actions     := [some ⟨none, some ⟨2⟩⟩]

/-- It is posted after a message of the same contact, and overwrites a usable entry. -/
def thenMissed : List PhoneEvent :=
  [.listenerConnected, .posted (App.whatsApp.message "Ann" "hello" 1) true, .posted missedCall true]

theorem thenMissed_enabled : (phoneMachine.exec Guard.free (created .notifyMode) thenMissed).isSome := by
  decide

/-- The entry cannot be answered. -/
theorem answerable_fails : ¬ ∀ (prefs : Preferences) (tr : Trace PhoneEvent Effect) (p : Phone),
    Run phoneMachine Guard.free (created prefs) tr p → EveryAnswerable tr p := by
  intro h
  obtain ⟨_, _, _, _, _, hu⟩ := h .notifyMode _ _ (run_exec_get thenMissed_enabled) "ann"
    ⟨missedCall.extras, none, none⟩ (by decide)
  exact absurd hu (by simp [ReplyTarget.usable])

end Answerable
end NotifyMe
