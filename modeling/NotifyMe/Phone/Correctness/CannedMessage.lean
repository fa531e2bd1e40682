import NotifyMe.Phone.Correctness.FirstContact
import NotifyMe.Phone.Correctness.Lifetimes

/-!
# `CannedMessage` — the greeting says what the screen shows

`CustomizationActivity` shows and stores the message of an app, and the service puts it behind the name of a new
contact.

* `greeting_says`: in every run, each text that goes out when a notification is posted is `Hey`, the first word of its
  title, and the message that was stored last.
* `greeting_as_shown`: what a screen of that app shows is that message too, unless none has been stored. Then the
  screen shows its placeholder, and the greeting ends after the comma.

Screens that lie over each other show an older message after the one on top has stored a new one, hence `OneScreen` in
the second.
-/

namespace NotifyMe
namespace CannedMessage

open Reactive Device Lifetimes

/-- The messages that are stored, after those saved in the run. -/
def lastSaved (msgs : AssistMsgs) (tr : Trace DeviceEvent DeviceEffect) : AssistMsgs :=
  tr.outputs.foldl (fun msgs o =>
    match o with
    | .saved a message => Function.update msgs a (some message)
    | _                => msgs) msgs

/-- The service's view of the two entries. -/
def Stored (prefs : Preferences) (msgs : AssistMsgs) : Prop := ∀ a, prefs.assistMsg a = msgs.getString a ""

/-- **The condition**: no two screens are open for one app. -/
def OneScreen : Guard Device DeviceEvent DeviceEffect := fun _ s e =>
  match e with
  | .create j => ∀ packageName, s.stack[j]? = some (.started (.customization packageName)) →
      ∀ a, App.ofExtra packageName = some a → a ∉ s.shown.map Prod.fst
  | _ => True

/-! ## The texts of a greeting -/

/-- `senderName.split(" ")[0]`, as it is written in the source. -/
theorem firstWord_eq (name : String) :
    Service.firstWord name = ((split ' ' name.toList).head?).map String.ofList := by
  have hall : name.toList.all (· == ' ') = true ↔ ∀ c ∈ name.toList, c = ' ' := by
    simp [List.all_eq_true]
  rw [split_head?, Service.firstWord]
  by_cases h : name.toList ≠ [] ∧ ∀ c ∈ name.toList, c = ' '
  · rw [if_pos h, if_pos ⟨h.1, hall.mpr h.2⟩]
    rfl
  · rw [if_neg h, if_neg fun h' => h ⟨h'.1, hall.mp h'.2⟩]
    rfl

open Service in
/-- Only the greeting is sent for a posted notification. -/
theorem onNotificationPosted_sends [CaseMap] {prefs : Preferences} {s : Service} {sbn : StatusBarNotification}
    {success : Bool} {sent : Sent} (h : Effect.send sent ∈ (onNotificationPosted prefs s sbn success).effects) :
    Effect.send sent ∈ (reply prefs s sbn.replyAction sbn.extras sbn.extras.title (some sbn.packageName) none none
      success).effects := by
  unfold onNotificationPosted at h
  by_cases hassist : s.isAssistEnabled = true
  · rw [if_pos hassist, Outcome.catchAll_effects] at h
    unfold handleAssistBotNotifications at h
    cases hp : App.ofPackage sbn.packageName with
    | none => exact absurd h (by simp [hp])
    | some a =>
        simp only [hp] at h
        by_cases hk : sbn.extras.title ∈ s.appList a
        · rw [if_pos hk, andThen_reply_null] at h
          obtain ⟨_, he⟩ := handleConversationalBot_spec s sbn
          rcases he with ⟨_, he⟩ | ⟨_, _, _, he⟩ <;> exact absurd h (by simp [he])
        · rw [if_neg hk] at h
          by_cases hon : s.appEnabled a = true
          · rw [if_pos hon] at h
            exact h
          · rw [if_neg hon] at h
            exact absurd h (by simp)
  · rw [if_neg hassist] at h
    by_cases hn : s.isNotifyEnabled = true
    · rw [if_pos hn] at h
      rcases handleNotifyNotifications_spec s sbn with hq | ⟨_, _, hm⟩
      · exact absurd h (by simp [hq.2])
      · exact absurd h (by simp [hm.effects_eq])
    · rw [if_neg hn] at h
      exact absurd h (by simp)

/-- **What a greeting says.** -/
theorem greeting_text [CaseMap] {p p' : Phone} {sbn : StatusBarNotification} {success : Bool} {es : List Effect}
    (hp : p.step (.posted sbn success) = some (p', es)) {sent : Sent} (hm : Effect.send sent ∈ es) {text : String}
    (ht : text ∈ FirstContact.texts sent) :
    ∃ (a : App) (title : String) (word : List Char), sbn.packageName = a.packageName ∧
      sbn.extras.title = some title ∧ (split ' ' title.toList).head? = some word ∧
      text = "Hey " ++ String.ofList word ++ ", " ++ p.prefs.assistMsg a := by
  obtain ⟨o, ho, _, rfl, _, _⟩ := Phone.step_eq_some hp
  obtain rfl := Option.some.inj ho
  obtain ⟨a, _, hpkg, _, _, htext⟩ := (FirstContact.reply_texts ..).mp
    ⟨sent, onNotificationPosted_sends hm, ht⟩
  cases htitle : sbn.extras.title with
  | none => exact absurd htext (by simp [Service.replyText, htitle])
  | some title =>
      rw [htitle] at htext
      simp only [Service.replyText] at htext
      cases hword : Service.firstWord title with
      | none => exact absurd htext (by simp [hword])
      | some w =>
          simp only [hword] at htext
          split at htext
          · obtain rfl := Except.ok.inj htext
            rw [firstWord_eq] at hword
            obtain ⟨word, hhead, rfl⟩ := Option.map_eq_some_iff.mp hword
            exact ⟨a, title, word, Option.some.inj hpkg, rfl, hhead, rfl⟩
          · exact absurd htext (by simp)

/-! ## What is stored -/

/-- The entries are the messages saved last, for the activities and for the service. -/
structure Saved (msgs : AssistMsgs) (tr : Trace DeviceEvent DeviceEffect) (s : Device) : Prop where
  saved  : s.assistMsg = lastSaved msgs tr
  stored : Stored s.phone.prefs s.assistMsg

theorem lastSaved_snoc (msgs : AssistMsgs) (tr : Trace DeviceEvent DeviceEffect) (e : DeviceEvent)
    (os : List DeviceEffect) : lastSaved msgs (tr ++ [(e, os)]) = lastSaved (lastSaved msgs tr) [(e, os)] := by
  simp only [lastSaved, Trace.outputs_append, List.foldl_append]

theorem lastSaved_keep (msgs : AssistMsgs) {e : DeviceEvent} {os : List DeviceEffect}
    (h : ∀ a message, DeviceEffect.saved a message ∉ os) : lastSaved msgs [(e, os)] = msgs := by
  rw [lastSaved, Trace.outputs_singleton]
  induction os with
  | nil => rfl
  | cons o os ih =>
      rw [List.foldl_cons]
      cases o with
      | saved a message => exact absurd List.mem_cons_self (h a message)
      | _ => exact ih fun a message hm => h a message (List.mem_cons_of_mem _ hm)

section Steps

variable [CaseMap] {msgs : AssistMsgs} {tr : Trace DeviceEvent DeviceEffect} {s s' : Device} {e : DeviceEvent}
  {os : List DeviceEffect}

/-- The service leaves the messages alone. -/
theorem step_assistMsg {p p' : Phone} {e : PhoneEvent} {es : List Effect}
    (hcustom : ∀ a message, e ≠ .customize a message) (hp : p.step e = some (p', es)) (a : App) :
    p'.prefs.assistMsg a = p.prefs.assistMsg a := by
  obtain ⟨o, _, _, _, _, rfl⟩ := Phone.step_eq_some hp
  have hfold : ∀ (es : List Effect) (q : Phone),
      (es.foldl Phone.apply q).prefs.assistMsg a = q.prefs.assistMsg a := by
    intro es
    induction es with
    | nil => exact fun _ => rfl
    | cons x es ih =>
        intro q
        rw [List.foldl_cons, ih]
        cases x with
        | putBoolean t b => cases t <;> cases a <;> rfl
        | _ => rfl
  rw [hfold]
  cases e with
  | customize b message => exact absurd rfl (hcustom b message)
  | login number => cases a <;> rfl
  | _ => rfl

omit [CaseMap] in
/-- A step that stores no message. -/
theorem Saved.keep (h : Saved msgs tr s) (hos : ∀ a message, DeviceEffect.saved a message ∉ os)
    (hmsgs : s'.assistMsg = s.assistMsg) (hprefs : ∀ a, s'.phone.prefs.assistMsg a = s.phone.prefs.assistMsg a) :
    Saved msgs (tr ++ [(e, os)]) s' where
  saved    := by rw [hmsgs, h.saved, lastSaved_snoc, lastSaved_keep _ hos]
  stored a := by rw [hprefs, hmsgs, h.stored]

theorem saved_step [PhonePattern] (h : Saved msgs tr s) (hs : s.step e = some (s', os)) :
    Saved msgs (tr ++ [(e, os)]) s' := by
  cases stepped hs with
  | quiet _ hq =>
      refine h.keep (fun a message hm => ?_) hq.assistMsg fun a => by rw [hq.phone]
      obtain ⟨x, hx, _⟩ := hq.outputs _ hm
      exact absurd hx (by simp)
  | setListeners heq | createMain _ _ _ heq | createCustomization _ _ heq | tap _ _ heq | lost _ _ heq
  | created _ heq | destroyed _ heq | afterDestroy _ _ _ heq | killed heq =>
      obtain rfl := heq
      exact h.keep (by simp) rfl fun _ => rfl
  | stored heq =>
      obtain rfl := heq
      exact h.keep (by simp) rfl fun a => by cases a <;> rfl
  | delivered _ _ hp heq =>
      obtain rfl := heq
      exact h.keep (by simp) rfl (step_assistMsg (by simp) hp)
  | phone _ _ _ hcustom hp heq =>
      obtain rfl := heq
      exact h.keep (by simp) rfl (step_assistMsg hcustom hp)
  | @saved a c message rest _ _ heq =>
      obtain rfl := heq
      refine ⟨?_, fun b => ?_⟩
      · show Function.update s.assistMsg a (some message) = _
        rw [lastSaved_snoc, ← h.saved]
        rfl
      · show (s.phone.prefs.putAssistMsg a message).assistMsg b =
          AssistMsgs.getString (Function.update s.assistMsg a (some message)) b ""
        have hb := h.stored b
        by_cases hab : b = a
        · subst hab
          cases b <;> simp [AssistMsgs.getString, Preferences.putAssistMsg, Preferences.assistMsg]
        · rw [AssistMsgs.getString, Function.update_of_ne hab]
          rw [AssistMsgs.getString] at hb
          rw [← hb]
          cases a <;> cases b <;> first | exact absurd rfl hab | rfl

/-- **What a greeting says**: the first word of the title, and the message stored last. -/
theorem greeting_says [PhonePattern] {prefs : Preferences} {flat : Option (List Char)}
    {ok : Guard Device DeviceEvent DeviceEffect} (hstored : Stored prefs msgs)
    (h : Run deviceMachine ok (installed prefs msgs flat) tr s)
    {sbn : StatusBarNotification} {success : Bool} (hs : s.step (.phone (.posted sbn success)) = some (s', os))
    {sent : Sent} (hm : DeviceEffect.phone (.send sent) ∈ os) {text : String}
    (ht : text ∈ FirstContact.texts sent) :
    ∃ (a : App) (title : String) (word : List Char), sbn.packageName = a.packageName ∧
      sbn.extras.title = some title ∧ (split ' ' title.toList).head? = some word ∧
      text = "Hey " ++ String.ofList word ++ ", " ++ (lastSaved msgs tr).getString a "" := by
  have hsaved : Saved msgs tr s := h.invariant (I := Saved msgs) ⟨rfl, hstored⟩ fun _ hI _ hs => saved_step hI hs
  cases stepped hs with
  | quiet _ hq =>
      obtain ⟨x, hx, _⟩ := hq.outputs _ hm
      exact absurd hx (by simp)
  | phone _ _ _ _ hp _ =>
      obtain ⟨x, hx, hsent⟩ := List.mem_map.mp hm
      obtain rfl := DeviceEffect.phone.inj hsent
      obtain ⟨a, title, word, hpkg, htitle, hhead, rfl⟩ := greeting_text hp hx ht
      exact ⟨a, title, word, hpkg, htitle, hhead, by rw [hsaved.stored a, hsaved.saved]⟩

/-! ## What is shown -/

/-- **The invariant**: there is one screen for an app, and it shows the entry. -/
structure OnScreen (s : Device) : Prop where
  nodup : (s.shown.map Prod.fst).Nodup
  shown : ∀ a text, (a, text) ∈ s.shown → text = s.assistMsg.getString a CustomizationActivity.placeholder

omit [CaseMap] in
/-- A step that brings nothing new to the screen. -/
theorem OnScreen.keep (h : OnScreen s) (hmsgs : s'.assistMsg = s.assistMsg) (hshown : s'.shown.Sublist s.shown) :
    OnScreen s' where
  nodup        := h.nodup.sublist (hshown.map _)
  shown a t hm := by rw [hmsgs]; exact h.shown a t (hshown.subset hm)

omit [CaseMap] in
/-- A new screen has the stored message, and is the only one of its app. -/
theorem onScreen_create (h : OnScreen s) {l r : List Activity} {packageName : String}
    (hstack : s.stack = l ++ .started (.customization packageName) :: r)
    (hone : ∀ a, App.ofExtra packageName = some a → a ∉ s.shown.map Prod.fst) :
    OnScreen { s with stack := l ++ .customization (.onCreate s.assistMsg packageName) :: r } := by
  have hshown : s.shown = l.filterMap shownOf ++ r.filterMap shownOf := by
    rw [Device.shown, hstack, List.filterMap_append]
    rfl
  cases ha : App.ofExtra packageName with
  | none =>
      refine h.keep rfl ?_
      have hof : shownOf (.customization (.onCreate s.assistMsg packageName)) = none := by
        simp [shownOf, CustomizationActivity.onCreate, ha]
      show ((l ++ .customization (.onCreate s.assistMsg packageName) :: r).filterMap shownOf).Sublist s.shown
      rw [hshown, List.filterMap_append, List.filterMap_cons_none hof]
  | some a =>
      -- the new screen is the only one of its app
      have hnew : a ∉ s.shown.map Prod.fst := hone a ha
      have hshown' : Device.shown { s with
          stack := l ++ .customization (.onCreate s.assistMsg packageName) :: r } = l.filterMap shownOf ++
            (a, s.assistMsg.getString a CustomizationActivity.placeholder) :: r.filterMap shownOf := by
        have hof : shownOf (.customization (.onCreate s.assistMsg packageName)) =
            some (a, s.assistMsg.getString a CustomizationActivity.placeholder) := by
          simp [shownOf, CustomizationActivity.onCreate, ha]
        show (l ++ .customization (.onCreate s.assistMsg packageName) :: r).filterMap shownOf = _
        rw [List.filterMap_append, List.filterMap_cons_some hof]
      refine ⟨?_, fun b text hm => ?_⟩
      · rw [hshown', List.map_append, List.map_cons, List.nodup_middle, List.nodup_cons, ← List.map_append,
          ← hshown]
        exact ⟨hnew, h.nodup⟩
      · rw [hshown', List.mem_append, List.mem_cons, or_left_comm, ← List.mem_append, ← hshown] at hm
        rcases hm with hm | hm
        · obtain ⟨rfl, rfl⟩ := Prod.mk.inj hm
          rfl
        · exact h.shown b text hm

omit [CaseMap] in
/-- What a screen stores is what it shows from then on, and no other one is of its app. -/
theorem onScreen_saved (h : OnScreen s) {a : App} {c : CustomizationActivity} {message : String}
    {rest : List Activity} (htop : s.stack = .customization c :: rest) (ha : App.ofExtra c.packageName = some a) :
    OnScreen { s.storeMessage a message with
      stack := .customization { c with assistBotText := message, assistMsg := none } :: rest } := by
  have hshown : s.shown = (a, c.assistBotText) :: rest.filterMap shownOf := by
    have hof : shownOf (.customization c) = some (a, c.assistBotText) := by simp [shownOf, ha]
    rw [Device.shown, htop, List.filterMap_cons_some hof]
  have hnodup : a ∉ (rest.filterMap shownOf).map Prod.fst ∧ ((rest.filterMap shownOf).map Prod.fst).Nodup := by
    have hall := h.nodup
    rw [hshown, List.map_cons, List.nodup_cons] at hall
    exact hall
  have hshown' : Device.shown { s.storeMessage a message with
      stack := .customization { c with assistBotText := message, assistMsg := none } :: rest } =
      (a, message) :: rest.filterMap shownOf := by
    have hof : shownOf (.customization { c with assistBotText := message, assistMsg := none }) =
        some (a, message) := by simp [shownOf, ha]
    exact List.filterMap_cons_some hof
  refine ⟨?_, fun b text hm => ?_⟩
  · rw [hshown', List.map_cons, List.nodup_cons]
    exact hnodup
  · rw [hshown'] at hm
    show text = AssistMsgs.getString (Function.update s.assistMsg a (some message)) b _
    rcases List.mem_cons.mp hm with hself | hrest
    · obtain ⟨rfl, rfl⟩ := Prod.mk.inj hself
      simp [AssistMsgs.getString]
    · have hab : b ≠ a := by
        rintro rfl
        exact hnodup.1 (List.mem_map_of_mem hrest)
      rw [AssistMsgs.getString, Function.update_of_ne hab]
      exact h.shown b text (by rw [hshown]; exact List.mem_cons_of_mem _ hrest)

theorem onScreen_step [PhonePattern] (h : OnScreen s) (hone : OneScreen tr s e) (hs : s.step e = some (s', os)) :
    OnScreen s' := by
  cases stepped hs with
  | quiet _ hq => exact h.keep hq.assistMsg hq.shown
  | setListeners heq | delivered _ _ _ heq | lost _ _ heq | created _ heq | phone _ _ _ _ _ heq
  | destroyed _ heq | afterDestroy _ _ _ heq =>
      obtain rfl := heq
      exact h.keep rfl (List.Sublist.refl _)
  | @createMain j l r _ hstack _ heq =>
      obtain rfl := heq
      refine h.keep rfl ?_
      show ((l ++ .main _ _ :: r).filterMap shownOf).Sublist (s.stack.filterMap shownOf)
      rw [hstack, List.filterMap_append, List.filterMap_append]
      exact List.Sublist.refl _
  | createCustomization hj hstack heq =>
      obtain rfl := heq
      exact onScreen_create h hstack (hone _ hj)
  | @tap t m m' rest htop _ heq =>
      obtain rfl := heq
      refine h.keep rfl ?_
      show ((.main _ _ :: rest).filterMap shownOf).Sublist (s.stack.filterMap shownOf)
      rw [htop]
      exact List.Sublist.refl (rest.filterMap shownOf)
  | @stored i e number logins heq =>
      obtain rfl := heq
      refine h.keep rfl ?_
      show ((.started .main :: s.stack.filter (· ≠ .login i)).filterMap shownOf).Sublist _
      exact (List.filter_sublist).filterMap shownOf
  | saved htop ha heq =>
      obtain rfl := heq
      exact onScreen_saved h htop ha
  | killed heq =>
      obtain rfl := heq
      exact h.keep rfl (List.nil_sublist _)

/-- **The greeting says what the screen shows.** -/
theorem greeting_as_shown [PhonePattern] {prefs : Preferences} {flat : Option (List Char)}
    (hstored : Stored prefs msgs) (h : Run deviceMachine OneScreen (installed prefs msgs flat) tr s)
    {sbn : StatusBarNotification} {success : Bool} (hs : s.step (.phone (.posted sbn success)) = some (s', os))
    {sent : Sent} (hm : DeviceEffect.phone (.send sent) ∈ os) {text : String}
    (ht : text ∈ FirstContact.texts sent) :
    ∃ (a : App) (title : String) (word : List Char), sbn.packageName = a.packageName ∧
      sbn.extras.title = some title ∧ (split ' ' title.toList).head? = some word ∧
      text = "Hey " ++ String.ofList word ++ ", " ++ (lastSaved msgs tr).getString a "" ∧
      ∀ t, (a, t) ∈ s.shown → t = (lastSaved msgs tr).getString a CustomizationActivity.placeholder := by
  obtain ⟨a, title, word, hpkg, htitle, hhead, htext⟩ := greeting_says hstored h hs hm ht
  have hsaved : Saved msgs tr s := h.invariant (I := Saved msgs) ⟨rfl, hstored⟩ fun _ hI _ hs => saved_step hI hs
  have hscreen : OnScreen s := h.invariant (I := fun _ s => OnScreen s)
    ⟨by simp [installed, Device.shown], by simp [installed, Device.shown]⟩
    fun _ hI hone hs => onScreen_step hI hone hs
  refine ⟨a, title, word, hpkg, htitle, hhead, htext, fun t hshown => ?_⟩
  rw [← hsaved.saved]
  exact hscreen.shown a t hshown

end Steps

/-! ## A message of one's own -/

instance (tr : Trace DeviceEvent DeviceEffect) (s : Device) (e : DeviceEvent) : Decidable (OneScreen tr s e) :=
  match e with
  | .create j =>
      match hj : s.stack[j]? with
      | some (.started (.customization packageName)) =>
          decidable_of_iff (∀ a, App.ofExtra packageName = some a → a ∉ s.shown.map Prod.fst)
            (by simp [OneScreen, hj])
      | some (.started .main) | some (.started .login) | some (.main _ _) | some (.login _)
      | some (.customization _) | none => isTrue (by simp [OneScreen, hj])
  | .launch | .setListeners _ | .openSettings | .notNow | .activityResult | .tap _ | .customize _ | .editAssist
  | .typeAssist _ | .saveAssist | .back | .login _ _ | .deliver | .createService | .phone _ | .destroyService
  | .afterDestroy _ _ | .kill => isTrue trivial

/-- AssistBot mode is on, and the user opens the screen of WhatsApp and stores a message. -/
def messageSaved : List DeviceEvent :=
  [.createService, .phone .listenerConnected, .launch, .create 0, .customize .whatsApp, .create 0, .editAssist,
   .typeAssist "I am busy", .saveAssist]

def busyPrefs : Preferences := { isLoggedIn := true, isAssistOn := true, isWhatsAppOn := true }

theorem messageSaved_enabled :
    ((@deviceMachine _ LoginNumber.digits).exec OneScreen
      (installed busyPrefs (fun _ => none) (some Consent.enabledListeners)) messageSaved).isSome := by decide +kernel

def messageSavedState : Device :=
  (((@deviceMachine _ LoginNumber.digits).exec OneScreen
    (installed busyPrefs (fun _ => none) (some Consent.enabledListeners)) messageSaved).get messageSaved_enabled).1

def messageSavedTrace : Trace DeviceEvent DeviceEffect :=
  (((@deviceMachine _ LoginNumber.digits).exec OneScreen
    (installed busyPrefs (fun _ => none) (some Consent.enabledListeners)) messageSaved).get messageSaved_enabled).2

theorem messageSaved_posted :
    (@Device.step _ LoginNumber.digits messageSavedState
      (.phone (.posted (App.whatsApp.message "Ann Lee" "hello" 1) true))).isSome := by decide +kernel

theorem messageSaved_greeting :
    DeviceEffect.phone (.send ⟨⟨1⟩, [⟨"reply"⟩], "com.whatsapp", some "Ann Lee", none,
      [("reply", "Hey Ann, I am busy")], true⟩) ∈
        ((@Device.step _ LoginNumber.digits messageSavedState
          (.phone (.posted (App.whatsApp.message "Ann Lee" "hello" 1) true))).get messageSaved_posted).2 := by
  decide +kernel

theorem messageSaved_step :
    @Device.step _ LoginNumber.digits messageSavedState
        (.phone (.posted (App.whatsApp.message "Ann Lee" "hello" 1) true)) =
      some (((@Device.step _ LoginNumber.digits messageSavedState
          (.phone (.posted (App.whatsApp.message "Ann Lee" "hello" 1) true))).get messageSaved_posted).1,
        ((@Device.step _ LoginNumber.digits messageSavedState
          (.phone (.posted (App.whatsApp.message "Ann Lee" "hello" 1) true))).get messageSaved_posted).2) := by
  rw [Prod.mk.eta, Option.some_get]

theorem messageSaved_run :
    Run (@deviceMachine _ LoginNumber.digits) OneScreen
      (installed busyPrefs (fun _ => none) (some Consent.enabledListeners)) messageSavedTrace messageSavedState :=
  run_exec_get messageSaved_enabled

theorem messageSaved_shown :
    ∃ (a : App) (title : String) (word : List Char),
      (App.whatsApp.message "Ann Lee" "hello" 1).packageName = a.packageName ∧
      (App.whatsApp.message "Ann Lee" "hello" 1).extras.title = some title ∧
      (split ' ' title.toList).head? = some word ∧
      "Hey Ann, I am busy" = "Hey " ++ String.ofList word ++ ", " ++
        (lastSaved (fun _ => none) messageSavedTrace).getString a "" ∧
      ∀ t, (a, t) ∈ messageSavedState.shown →
        t = (lastSaved (fun _ => none) messageSavedTrace).getString a CustomizationActivity.placeholder :=
  @greeting_as_shown _ (fun _ => none) messageSavedTrace messageSavedState _ _ LoginNumber.digits busyPrefs
    (some Consent.enabledListeners) (fun a => by cases a <;> rfl) messageSaved_run
    (App.whatsApp.message "Ann Lee" "hello" 1) true messageSaved_step _ messageSaved_greeting "Hey Ann, I am busy"
    (by decide)

end CannedMessage
end NotifyMe
