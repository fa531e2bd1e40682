import NotifyMe.Phone.NotificationListener

/-!
# `Phone.HandlerSpec` — what each handler can do

One inversion lemma for each handler with branches, so that no later proof unfolds one:

* `reply_spec` — `reply` either leaves everything alone or is one `send` (`Answers`) followed by its
  bookkeeping (`recordReply`, whose effect on each field is below). `sends` decides between the two.
* `onNotificationPosted_spec` — a posted notification is ignored, greeted, handed to the bot or mirrored
  (`Posted`); nothing escapes from the handler.
* `onDataChange_spec` — a desktop record is ignored or handed to `reply` with the entry of its id.
-/

namespace NotifyMe

namespace Outcome

/-- The handler did nothing, or nothing but throw. -/
def Quiet (s : Service) (o : Outcome) : Prop := o.service = s ∧ o.effects = []

theorem done_quiet (s : Service) : (done s).Quiet s := ⟨rfl, rfl⟩
theorem throw_quiet (s : Service) (x : JavaException) : (throw s x).Quiet s := ⟨rfl, rfl⟩

@[simp] theorem done_service (s : Service) : (done s).service = s := rfl
@[simp] theorem done_effects (s : Service) : (done s).effects = [] := rfl
@[simp] theorem done_thrown (s : Service) : (done s).thrown = none := rfl
@[simp] theorem throw_service (s : Service) (x : JavaException) : (throw s x).service = s := rfl
@[simp] theorem throw_effects (s : Service) (x : JavaException) : (throw s x).effects = [] := rfl
@[simp] theorem throw_thrown (s : Service) (x : JavaException) : (throw s x).thrown = some x := rfl
@[simp] theorem catchAll_service (o : Outcome) : o.catchAll.service = o.service := rfl
@[simp] theorem catchAll_effects (o : Outcome) : o.catchAll.effects = o.effects := rfl
@[simp] theorem catchAll_thrown (o : Outcome) : o.catchAll.thrown = none := rfl

end Outcome

namespace Service

open Outcome

/-- The flag a toggle sets. -/
def toggle (s : Service) : Toggle → Bool
  | .assist   => s.isAssistEnabled
  | .notify   => s.isNotifyEnabled
  | .whatsApp => s.isWhatsAppEnabled
  | .fbMsg    => s.isFbMsgEnabled

theorem appEnabled_eq_toggle (s : Service) (a : App) : s.appEnabled a = s.toggle a.toggle := by
  cases a <;> rfl

/-! ## The bookkeeping after a send -/

section RecordReply

variable (s : Service) (senderName : Option String) (packageName : String) (notifId : Option String)

/-- Only the two lists and the table change. -/
theorem recordReply_frame : ∃ wa fb hm, s.recordReply senderName packageName notifId =
    { s with waList := wa, fbMsgList := fb, hashMap := hm } := by
  unfold recordReply removeModel addToList
  by_cases hn : s.isNotifyEnabled = true
  · rw [if_pos hn]
    cases App.ofPackage packageName with
    | none => cases notifId <;> exact ⟨_, _, _, rfl⟩
    | some a => simp only [if_pos hn]; cases notifId <;> exact ⟨_, _, _, rfl⟩
  · rw [if_neg hn]
    cases App.ofPackage packageName with
    | none => exact ⟨_, _, _, rfl⟩
    | some a => simp only [if_neg hn]; cases a <;> exact ⟨_, _, _, rfl⟩

@[simp] theorem recordReply_toggle (t : Toggle) :
    (s.recordReply senderName packageName notifId).toggle t = s.toggle t := by
  obtain ⟨_, _, _, h⟩ := recordReply_frame s senderName packageName notifId
  rw [h]
  cases t <;> rfl

@[simp] theorem recordReply_editor :
    (s.recordReply senderName packageName notifId).editor = s.editor := by
  obtain ⟨_, _, _, h⟩ := recordReply_frame s senderName packageName notifId
  rw [h]

@[simp] theorem recordReply_target :
    (s.recordReply senderName packageName notifId).target = s.target := by
  obtain ⟨_, _, _, h⟩ := recordReply_frame s senderName packageName notifId
  rw [h]
  rfl

@[simp] theorem recordReply_reference :
    (s.recordReply senderName packageName notifId).reference = s.reference := by
  obtain ⟨_, _, _, h⟩ := recordReply_frame s senderName packageName notifId
  rw [h]

@[simp] theorem recordReply_phoneNumber :
    (s.recordReply senderName packageName notifId).phoneNumber = s.phoneNumber := by
  obtain ⟨_, _, _, h⟩ := recordReply_frame s senderName packageName notifId
  rw [h]

/-- The sender is recorded in the app's list exactly when Notify mode is off. -/
theorem recordReply_appList (a : App) :
    (s.recordReply senderName packageName notifId).appList a =
      if s.isNotifyEnabled = false ∧ packageName = a.packageName then
        s.appList a ++ [senderName] else s.appList a := by
  simp only [← App.ofPackage_eq_some]
  unfold recordReply removeModel addToList
  by_cases hn : s.isNotifyEnabled = true
  · cases App.ofPackage packageName <;> cases notifId <;> cases a <;> simp [appList, hn]
  · cases App.ofPackage packageName with
    | none => simp [hn]
    | some b => cases a <;> cases b <;> simp [appList, hn]

/-- The entry is removed exactly when Notify mode is on. -/
theorem recordReply_hashMap :
    (s.recordReply senderName packageName notifId).hashMap =
      if s.isNotifyEnabled then (s.removeModel notifId).hashMap else s.hashMap := by
  unfold recordReply removeModel addToList
  by_cases hn : s.isNotifyEnabled = true
  · cases App.ofPackage packageName <;> cases notifId <;> simp [hn]
  · cases App.ofPackage packageName with
    | none => simp [hn]
    | some a => cases a <;> simp [hn]

end RecordReply

/-! ## `reply` -/

/-- `reply` gets as far as sending: both variables are set, there is a package, and the text of each key is the
    message or a greeting that can be composed. -/
def sends (s : Service) (target : ReplyTarget) (senderName packageName message : Option String) : Bool :=
  match target.usable, packageName with
  | some (remoteInputs, _), some packageName =>
      (App.ofPackage packageName).isNone || remoteInputs.isEmpty || message.isSome ||
        ((senderName.bind firstWord).isSome && s.sharedPreferences)
  | _, _ => false

section Reply

variable {prefs : Preferences} {s : Service} {a : App} {senderName message : Option String}

/-- A text is a message, or a greeting for a name with a first word, once the preferences have been read. -/
theorem replyText_ok_iff (prefs : Preferences) (a : App) :
    (∃ t, replyText prefs s a senderName message = .ok t) ↔ message.isSome = true ∨
      ((senderName.bind firstWord).isSome = true ∧ s.sharedPreferences = true) := by
  cases message with
  | some m => simp [replyText]
  | none =>
      cases senderName with
      | none => simp [replyText]
      | some name =>
          cases hw : firstWord name with
          | none => simp [replyText, hw]
          | some word => cases hp : s.sharedPreferences <;> simp [replyText, hw, hp]

/-- The same text is put under every key. -/
theorem putReplies_ok {packageName t : String} (happ : App.ofPackage packageName = some a)
    (h : replyText prefs s a senderName message = .ok t) (ris : List RemoteInput) (bundle : Bundle) :
    putReplies prefs s ris bundle senderName packageName message =
      .ok (ris.foldl (fun b ri => b.putCharSequence ri.resultKey t) bundle) := by
  unfold putReplies
  simp only [happ, h]
  induction ris generalizing bundle with
  | nil => rfl
  | cons ri ris ih => exact ih (bundle.putCharSequence ri.resultKey t)

/-- A text that cannot be composed is an exception as soon as there is a key for it. -/
theorem putReplies_error {packageName : String} {x : JavaException}
    (happ : App.ofPackage packageName = some a)
    (h : replyText prefs s a senderName message = .error x) {ris : List RemoteInput} (hne : ris ≠ [])
    (bundle : Bundle) :
    putReplies prefs s ris bundle senderName packageName message = .error x := by
  unfold putReplies
  simp only [happ, h]
  cases ris with
  | nil => exact absurd rfl hne
  | cons ri ris => rfl

/-- The loops that fill the bundle come to their end just when `sends` says so. -/
theorem putReplies_ok_iff (ris : List RemoteInput) (bundle : Bundle) (packageName : String) :
    (∃ b, putReplies prefs s ris bundle senderName packageName message = .ok b) ↔
      App.ofPackage packageName = none ∨ ris = [] ∨ message.isSome = true ∨
        ((senderName.bind firstWord).isSome = true ∧ s.sharedPreferences = true) := by
  cases happ : App.ofPackage packageName with
  | none => simp [putReplies, happ]
  | some a =>
      rw [← replyText_ok_iff prefs a]
      cases htext : replyText prefs s a senderName message with
      | ok t =>
          rw [putReplies_ok happ htext]
          simp
      | error x =>
          by_cases hnil : ris = []
          · rw [hnil]
            simp [putReplies, happ, pure, Except.pure]
          · rw [putReplies_error happ htext hnil]
            simp [hnil]

/-- With an intent and a package it is the loops that decide. -/
theorem sends_iff (prefs : Preferences) (s : Service) {target : ReplyTarget} {ris : List RemoteInput}
    {pi : PendingIntent} (ht : target.usable = some (ris, pi)) (bundle : Bundle)
    (senderName message : Option String) (packageName : String) :
    s.sends target senderName (some packageName) message = true ↔
      ∃ b, putReplies prefs s ris bundle senderName packageName message = .ok b := by
  rw [putReplies_ok_iff]
  simp only [sends, ht, Bool.or_eq_true, Option.isNone_iff_eq_none, List.isEmpty_iff, Bool.and_eq_true,
    or_assoc]

end Reply

/-- **A call of `reply` that sends**: through which target, with which of its arguments, and what is
    recorded when the intent goes out. -/
structure Answers (s : Service) (target : ReplyTarget)
    (senderName packageName message notifId : Option String) (success : Bool) (o : Outcome)
    (sent : Sent) : Prop where
  target_eq   : target.usable = some (sent.remoteInputs, sent.pendingIntent)
  package_eq  : packageName = some sent.packageName
  sender_eq   : sent.senderName = senderName
  message_eq  : sent.message = message
  success_eq  : sent.success = success
  effects_eq  : o.effects = [.send sent]
  thrown_eq   : o.thrown = none
  service_eq  : o.service =
    if success then s.recordReply senderName sent.packageName notifId else s
  sends_eq    : s.sends target senderName packageName message = true

theorem removeModel_lookup (s : Service) (notifId : Option String) (id : String) :
    (s.removeModel notifId).hashMap.lookup id =
      if notifId = some id then none else s.hashMap.lookup id := by
  cases notifId with
  | none => simp [removeModel]
  | some i =>
      by_cases hi : i = id
      · simp [removeModel, hi]
      · simp [removeModel, hi, Ne.symm hi]

/-- The senders that effects add to the list of an app: those of the intents that went out for it, if
    Notify mode is off. -/
def recorded (s : Service) (a : App) (es : List Effect) : List (Option String) :=
  if s.isNotifyEnabled then [] else es.filterMap fun
    | .send sent =>
        if sent.success ∧ sent.packageName = a.packageName then some sent.senderName else none
    | _ => none

theorem mem_recorded {s : Service} {a : App} {es : List Effect} {name : Option String} :
    name ∈ recorded s a es ↔ s.isNotifyEnabled = false ∧ ∃ sent, Effect.send sent ∈ es ∧
      sent.success = true ∧ sent.packageName = a.packageName ∧ sent.senderName = name := by
  unfold recorded
  by_cases hn : s.isNotifyEnabled = true
  · simp [hn]
  · simp only [hn, Bool.false_eq_true, if_false, List.mem_filterMap, true_and]
    constructor
    · rintro ⟨e, he, hname⟩
      cases e with
      | send sent =>
          simp only [Option.ite_none_right_eq_some, Option.some.injEq] at hname
          exact ⟨sent, he, hname.1.1, hname.1.2, hname.2⟩
      | _ => exact absurd hname (by simp)
    · rintro ⟨sent, he, hsuc, hpkg, hname⟩
      exact ⟨.send sent, he, by simp [hsuc, hpkg, hname]⟩

theorem recorded_eq_nil {es : List Effect} (h : ∀ sent, Effect.send sent ∉ es) (s : Service)
    (a : App) : recorded s a es = [] := by
  rw [List.eq_nil_iff_forall_not_mem]
  intro name hname
  obtain ⟨_, sent, hm, _⟩ := mem_recorded.mp hname
  exact h sent hm

section Answers

variable {s : Service} {target : ReplyTarget} {senderName packageName message notifId : Option String}
  {success : Bool} {o : Outcome} {sent : Sent}

theorem Answers.service_target
    (h : Answers s target senderName packageName message notifId success o sent) :
    o.service.target = s.target := by
  rw [h.service_eq]
  split <;> simp

theorem Answers.service_toggle
    (h : Answers s target senderName packageName message notifId success o sent) (t : Toggle) :
    o.service.toggle t = s.toggle t := by
  rw [h.service_eq]
  split <;> simp

theorem Answers.service_editor
    (h : Answers s target senderName packageName message notifId success o sent) :
    o.service.editor = s.editor := by
  rw [h.service_eq]
  split <;> simp

theorem Answers.service_reference
    (h : Answers s target senderName packageName message notifId success o sent) :
    o.service.reference = s.reference := by
  rw [h.service_eq]
  split <;> simp

theorem Answers.service_phoneNumber
    (h : Answers s target senderName packageName message notifId success o sent) :
    o.service.phoneNumber = s.phoneNumber := by
  rw [h.service_eq]
  split <;> simp

/-- A reply that goes out in Notify mode removes the entry of its id, and nothing else touches the table. -/
theorem Answers.service_lookup
    (h : Answers s target senderName packageName message notifId success o sent) (id : String) :
    o.service.hashMap.lookup id =
      if success = true ∧ s.isNotifyEnabled = true ∧ notifId = some id then none
      else s.hashMap.lookup id := by
  rw [h.service_eq]
  cases success with
  | false => simp
  | true =>
      rw [if_pos rfl, recordReply_hashMap]
      by_cases hn : s.isNotifyEnabled = true
      · simp [hn, removeModel_lookup]
      · simp [hn]

theorem Answers.lookup_sub
    (h : Answers s target senderName packageName message notifId success o sent) {id : String}
    {model : NotificationModel} (hl : o.service.hashMap.lookup id = some model) :
    s.hashMap.lookup id = some model := by
  rw [h.service_lookup] at hl
  split at hl
  · exact absurd hl (by simp)
  · exact hl

/-- The list of an app grows by the sender exactly when the intent goes out with Notify mode off. -/
theorem Answers.service_appList
    (h : Answers s target senderName packageName message notifId success o sent) (a : App) :
    o.service.appList a = s.appList a ++ recorded s a o.effects := by
  rw [h.service_eq, h.effects_eq]
  unfold recorded
  cases hsuc : success with
  | false => simp [h.success_eq, hsuc]
  | true =>
      rw [if_pos rfl, recordReply_appList]
      by_cases hn : s.isNotifyEnabled = true
      · simp [hn]
      · by_cases ha : sent.packageName = a.packageName
        · simp [hn, ha, h.success_eq, hsuc, h.sender_eq]
        · simp [hn, ha]

end Answers

/-- **What `reply` does**: nothing or a send, and its arguments settle which. -/
theorem reply_spec (prefs : Preferences) (s : Service) (target : ReplyTarget) (bundle : Bundle)
    (senderName packageName message notifId : Option String) (success : Bool) :
    (s.sends target senderName packageName message = false ∧
      (reply prefs s target bundle senderName packageName message notifId success).Quiet s) ∨
    ∃ sent, Answers s target senderName packageName message notifId success
      (reply prefs s target bundle senderName packageName message notifId success) sent := by
  cases ht : target.usable with
  | none => exact Or.inl ⟨by simp [sends, ht], by simp [reply, ht, Quiet]⟩
  | some r =>
      obtain ⟨ris, pi⟩ := r
      cases packageName with
      | none => exact Or.inl ⟨by simp [sends, ht], by simp [reply, ht, Quiet]⟩
      | some pkg =>
          have hsends := sends_iff prefs s ht bundle senderName message pkg
          unfold reply
          simp only [ht]
          cases hb : putReplies prefs s ris bundle senderName pkg message with
          | error x =>
              have hno : ¬ s.sends target senderName (some pkg) message = true := by
                rw [hsends, hb]
                simp
              exact Or.inl ⟨by simpa using hno, throw_quiet s x⟩
          | ok b => exact Or.inr ⟨_, ht, rfl, rfl, rfl, rfl, rfl, rfl, rfl, hsends.mpr ⟨b, hb⟩⟩

/-- **With a usable target, a package and a message, `reply` sends**: there is no greeting to compose. -/
theorem reply_message (prefs : Preferences) (s : Service) {target : ReplyTarget} (bundle : Bundle)
    (senderName : Option String) (packageName message : String) (notifId : Option String)
    (success : Bool) (ht : target.usable ≠ none) :
    ∃ sent, Answers s target senderName (some packageName) (some message) notifId success
      (reply prefs s target bundle senderName (some packageName) (some message) notifId success)
      sent := by
  obtain ⟨t, ht⟩ := Option.ne_none_iff_exists'.mp ht
  refine (reply_spec prefs s target bundle senderName (some packageName) (some message) notifId
    success).resolve_left fun h => ?_
  exact absurd h.1 (by simp [sends, ht])

/-! ## Posted notifications -/

/-- The service after the bot has been handed a notification: the fields hold its reply action, or what
    they held before if it has none. -/
def retarget (s : Service) (sbn : StatusBarNotification) : Service :=
  { s with
    remoteInputs  := (s.target.scan sbn.actions).remoteInputs
    pendingIntent := (s.target.scan sbn.actions).pendingIntent }

@[simp] theorem retarget_target (s : Service) (sbn : StatusBarNotification) :
    (s.retarget sbn).target = s.target.scan sbn.actions := rfl
@[simp] theorem retarget_appList (s : Service) (sbn : StatusBarNotification) (a : App) :
    (s.retarget sbn).appList a = s.appList a := by cases a <;> rfl
@[simp] theorem retarget_toggle (s : Service) (sbn : StatusBarNotification) (t : Toggle) :
    (s.retarget sbn).toggle t = s.toggle t := by cases t <;> rfl

/-- The service after a notification has been mirrored. -/
def mirrored [CaseMap] (s : Service) (sbn : StatusBarNotification) (title : String) : Service :=
  { s with
    hashMap := s.hashMap.insert (conversationId title)
      ⟨sbn.extras, sbn.replyAction.pendingIntent, sbn.replyAction.remoteInputs⟩ }

@[simp] theorem mirrored_appList [CaseMap] (s : Service) (sbn : StatusBarNotification)
    (title : String) (a : App) : (s.mirrored sbn title).appList a = s.appList a := by
  cases a <;> rfl
@[simp] theorem mirrored_toggle [CaseMap] (s : Service) (sbn : StatusBarNotification)
    (title : String) (t : Toggle) : (s.mirrored sbn title).toggle t = s.toggle t := by
  cases t <;> rfl
@[simp] theorem mirrored_target [CaseMap] (s : Service) (sbn : StatusBarNotification)
    (title : String) : (s.mirrored sbn title).target = s.target := rfl

/-- The text of the notification, if it is one the bot is asked about. -/
def queryFor (sbn : StatusBarNotification) : Option String :=
  sbn.extras.text.filter fun queryText =>
    (!containsText queryText "new messages" || !containsText queryText "new message") && queryText ≠ ""

/-- The notification is handed to the bot: its sender is in the list of its app. -/
def handedToBot (s : Service) (sbn : StatusBarNotification) : Prop :=
  s.isAssistEnabled = true ∧
    ∃ a : App, sbn.packageName = a.packageName ∧ sbn.extras.title ∈ s.appList a

instance (s : Service) (sbn : StatusBarNotification) : Decidable (s.handedToBot sbn) := by
  unfold handedToBot; infer_instance

/-- Its app is that of its package. -/
theorem handedToBot.listed {s : Service} {sbn : StatusBarNotification} (h : s.handedToBot sbn) {a : App}
    (hpkg : sbn.packageName = a.packageName) : sbn.extras.title ∈ s.appList a := by
  obtain ⟨_, b, hb, hlist⟩ := h
  obtain rfl := App.packageName_inj (hb.symm.trans hpkg)
  exact hlist

/-- **A greeted sender**: not in the list of an app that is on, and sent the canned message. -/
structure Greets (s : Service) (sbn : StatusBarNotification) (success : Bool) (o : Outcome)
    (sent : Sent) : Prop where
  assist_on : s.isAssistEnabled = true
  unlisted  : ∃ a : App, sbn.packageName = a.packageName ∧ s.appEnabled a = true ∧
    sbn.extras.title ∉ s.appList a
  answers   : Answers s sbn.replyAction sbn.extras.title (some sbn.packageName) none none success o
    sent

/-- What is sent for an app goes to a sender who is not in its list, and the app is on. -/
theorem Greets.of_package {s : Service} {sbn : StatusBarNotification} {success : Bool} {o : Outcome}
    {sent : Sent} (h : Greets s sbn success o sent) {a : App} (hpkg : sent.packageName = a.packageName) :
    sbn.packageName = a.packageName ∧ s.appEnabled a = true ∧ sbn.extras.title ∉ s.appList a := by
  obtain ⟨b, hb, hon, hnew⟩ := h.unlisted
  have hown : sbn.packageName = a.packageName := (Option.some.inj h.answers.package_eq).trans hpkg
  obtain rfl := App.packageName_inj (hb.symm.trans hown)
  exact ⟨hown, hon, hnew⟩

/-- **A notification handed to the bot**: the fields take its reply action, and the bot is asked if the
    notification has a query for it. -/
structure Asks (s : Service) (sbn : StatusBarNotification) (o : Outcome) : Prop where
  handed      : s.handedToBot sbn
  service_eq  : o.service = s.retarget sbn
  effects_eq  : (queryFor sbn = none ∧ o.effects = []) ∨
    ∃ q hq, queryFor sbn = some q ∧ o.effects = [.execute ⟨sbn, q, hq⟩]

/-- The record of a mirrored notification, entry by entry. -/
theorem appObject_lookup (title : String) (text : Option String) (id packageName : String) :
    (appObject title text id packageName).lookup "name" = some title ∧
      (appObject title text id packageName).lookup "message" = text ∧
      (appObject title text id packageName).lookup "id" = some id ∧
      (appObject title text id packageName).lookup "app_name" = some packageName := by
  unfold appObject
  refine ⟨?_, ?_, ?_, ?_⟩
  · rw [Record.lookup_put_ne _ (by decide), Record.lookup_put_ne _ (by decide),
      Record.lookup_put_ne _ (by decide), Record.lookup_put_self]
  · rw [Record.lookup_put_ne _ (by decide), Record.lookup_put_ne _ (by decide),
      Record.lookup_put_self]
  · rw [Record.lookup_put_ne _ (by decide), Record.lookup_put_self]
  · rw [Record.lookup_put_self]

/-- **A mirrored notification**: its entry is stored under its id, and its record is written. -/
structure Mirrors [CaseMap] (s : Service) (sbn : StatusBarNotification) (title reference : String)
    (o : Outcome) : Prop where
  package_eq   : ∃ a : App, sbn.packageName = a.packageName
  actions_pos  : sbn.actions.length > 0
  title_eq     : sbn.extras.title = some title
  reference_eq : s.reference = some reference
  service_eq   : o.service = s.mirrored sbn title
  effects_eq   : o.effects = [.setApp reference
    (appObject title sbn.extras.text (conversationId title) sbn.packageName)]

/-- The id under which a posted notification is mirrored, if it is. -/
def mirrorId [CaseMap] (s : Service) (sbn : StatusBarNotification) : Option String :=
  if s.isAssistEnabled = false ∧ s.isNotifyEnabled = true ∧ s.reference ≠ none ∧
      App.ofPackage sbn.packageName ≠ none ∧ sbn.actions.length > 0 then
    sbn.extras.title.map conversationId
  else none

theorem Mirrors.mirrorId_eq [CaseMap] {s : Service} {sbn : StatusBarNotification}
    {title reference : String} {o : Outcome} (h : Mirrors s sbn title reference o)
    (hassist : s.isAssistEnabled = false) (hnotify : s.isNotifyEnabled = true) :
    mirrorId s sbn = some (conversationId title) := by
  obtain ⟨a, ha⟩ := h.package_eq
  have hp : App.ofPackage sbn.packageName ≠ none := by rw [ha]; simp
  have href : s.reference ≠ none := by rw [h.reference_eq]; simp
  rw [mirrorId, if_pos ⟨hassist, hnotify, href, hp, h.actions_pos⟩, h.title_eq]
  rfl

/-- **The four things a posted notification can lead to**. -/
inductive Posted [CaseMap] (s : Service) (sbn : StatusBarNotification) (success : Bool)
    (o : Outcome) : Prop where
  | quiet (h : o.Quiet s)
  | greet (sent : Sent) (h : Greets s sbn success o sent)
  | ask (h : Asks s sbn o)
  | mirror (title reference : String) (hassist : s.isAssistEnabled = false)
      (hnotify : s.isNotifyEnabled = true) (h : Mirrors s sbn title reference o)

/-- A posted notification is mirrored, or the table stays as it is and no record is written. -/
theorem Posted.mirrors_or [CaseMap] {s : Service} {sbn : StatusBarNotification} {success : Bool}
    {o : Outcome} (h : Posted s sbn success o) :
    (∃ title reference, s.isAssistEnabled = false ∧ s.isNotifyEnabled = true ∧
      Mirrors s sbn title reference o) ∨
    ((∀ id, o.service.hashMap.lookup id = s.hashMap.lookup id) ∧
      ∀ location object, Effect.setApp location object ∉ o.effects) := by
  cases h with
  | quiet hq => exact Or.inr ⟨fun id => by rw [hq.1], fun _ _ => by simp [hq.2]⟩
  | greet _ hg =>
      exact Or.inr ⟨fun id => by simp [hg.answers.service_lookup],
        fun _ _ => by simp [hg.answers.effects_eq]⟩
  | ask ha =>
      refine Or.inr ⟨fun id => by rw [ha.service_eq]; rfl, fun _ _ => ?_⟩
      rcases ha.effects_eq with ⟨_, he⟩ | ⟨_, _, _, he⟩ <;> simp [he]
  | mirror title reference hassist hnotify hm => exact Or.inl ⟨title, reference, hassist, hnotify, hm⟩

theorem handleConversationalBot_spec (s : Service) (sbn : StatusBarNotification) :
    (handleConversationalBot s sbn).service = s.retarget sbn ∧
    ((queryFor sbn = none ∧ (handleConversationalBot s sbn).effects = []) ∨
      ∃ q hq, queryFor sbn = some q ∧
        (handleConversationalBot s sbn).effects = [.execute ⟨sbn, q, hq⟩]) := by
  unfold handleConversationalBot
  simp only
  split
  · rename_i hq
    exact ⟨rfl, Or.inl ⟨by simp [queryFor, hq], rfl⟩⟩
  · rename_i q hq
    split
    · rename_i hc
      by_cases hempty : q = ""
      · have hfor : queryFor sbn = none := by
          rw [queryFor, hq]
          exact if_neg (by simp [hempty])
        rw [if_pos hempty]
        exact ⟨rfl, Or.inl ⟨hfor, rfl⟩⟩
      · have hfor : queryFor sbn = some q := by
          rw [queryFor, hq]
          exact if_pos (by simp [hc, hempty])
        rw [if_neg hempty]
        exact ⟨rfl, Or.inr ⟨q, hq, hfor, rfl⟩⟩
    · rename_i hc
      have hfor : queryFor sbn = none := by
        rw [queryFor, hq]
        exact if_neg (by simp [hc])
      exact ⟨rfl, Or.inl ⟨hfor, rfl⟩⟩

/-- Continuing with a `reply` that has no target changes nothing. -/
theorem andThen_reply_null (o : Outcome) (prefs : Preferences) (a : App) (bundle : Bundle)
    (senderName packageName : Option String) (success : Bool) :
    (o.andThen fun s => if s.appEnabled a then
      reply prefs s {} bundle senderName packageName none none success else .done s) = o := by
  have hf : ∀ s : Service, (if s.appEnabled a then
      reply prefs s {} bundle senderName packageName none none success else .done s) = .done s := by
    intro s
    split <;> rfl
  simp only [hf]
  obtain ⟨s, es, x⟩ := o
  cases x <;> simp [Outcome.andThen, Outcome.done]

section Titles

variable [CaseMap]

/-- In Notify mode a notification is ignored or mirrored. -/
theorem handleNotifyNotifications_spec (s : Service) (sbn : StatusBarNotification) :
    (handleNotifyNotifications s sbn).Quiet s ∨
      ∃ title reference, Mirrors s sbn title reference (handleNotifyNotifications s sbn) := by
  unfold handleNotifyNotifications
  cases hp : App.ofPackage sbn.packageName with
  | none => exact Or.inl (done_quiet s)
  | some a =>
      simp only
      by_cases hact : sbn.actions.length > 0
      · rw [if_pos hact]
        cases ht : sbn.extras.title with
        | none => exact Or.inl (done_quiet s)
        | some title =>
            cases hr : s.reference with
            | none => exact Or.inl (done_quiet s)
            | some reference =>
                refine Or.inr ⟨title, reference, ⟨a, App.ofPackage_eq_some.mp hp⟩, hact, ht, hr, ?_,
                  rfl⟩
                simp only [mirrored, hr]
      · rw [if_neg hact]
        exact Or.inl (done_quiet s)

theorem onNotificationPosted_spec (prefs : Preferences) (s : Service)
    (sbn : StatusBarNotification) (success : Bool) :
    Posted s sbn success (onNotificationPosted prefs s sbn success) := by
  unfold onNotificationPosted
  by_cases hassist : s.isAssistEnabled = true
  · rw [if_pos hassist]
    unfold handleAssistBotNotifications
    cases hp : App.ofPackage sbn.packageName with
    | none => exact Posted.quiet (done_quiet s)
    | some a =>
        have hpkg := App.ofPackage_eq_some.mp hp
        simp only
        by_cases hk : sbn.extras.title ∈ s.appList a
        · -- behind the bot, `reply` runs on local variables that are still null
          rw [if_pos hk, andThen_reply_null]
          obtain ⟨hs, he⟩ := handleConversationalBot_spec s sbn
          exact Posted.ask ⟨⟨hassist, a, hpkg, hk⟩, hs, he⟩
        · rw [if_neg hk]
          by_cases hon : s.appEnabled a = true
          · rw [if_pos hon]
            rcases reply_spec prefs s sbn.replyAction sbn.extras sbn.extras.title
              (some sbn.packageName) none none success with ⟨_, hq⟩ | ⟨sent, h⟩
            · exact Posted.quiet hq
            · exact Posted.greet sent ⟨hassist, ⟨a, hpkg, hon, hk⟩, { h with thrown_eq := rfl }⟩
          · rw [if_neg hon]
            exact Posted.quiet (done_quiet s)
  · rw [if_neg hassist]
    by_cases hn : s.isNotifyEnabled = true
    · rw [if_pos hn]
      rcases handleNotifyNotifications_spec s sbn with hq | ⟨title, reference, hm⟩
      · exact Posted.quiet hq
      · exact Posted.mirror title reference (by simpa using hassist) hn { hm with }
    · rw [if_neg hn]
      exact Posted.quiet (done_quiet s)

/-- A notification with an id to be mirrored under is mirrored. -/
theorem onNotificationPosted_mirrors (prefs : Preferences) {s : Service} {sbn : StatusBarNotification}
    (success : Bool) {id : String} (h : mirrorId s sbn = some id) :
    ∃ title reference, Mirrors s sbn title reference (onNotificationPosted prefs s sbn success) := by
  unfold mirrorId at h
  split at h
  · rename_i hcond
    obtain ⟨hassist, hnotify, href, hp, hact⟩ := hcond
    obtain ⟨title, htitle, _⟩ := Option.map_eq_some_iff.mp h
    obtain ⟨a, ha⟩ := Option.ne_none_iff_exists'.mp hp
    obtain ⟨reference, href⟩ := Option.ne_none_iff_exists'.mp href
    refine ⟨title, reference, ⟨a, App.ofPackage_eq_some.mp ha⟩, hact, htitle, href, ?_, ?_⟩ <;>
      simp [onNotificationPosted, handleNotifyNotifications, hassist, hnotify, ha, hact, htitle, href,
        mirrored]
  · exact absurd h (by simp)

/-- A notification of a listed sender is handed to the bot. -/
theorem onNotificationPosted_asks (prefs : Preferences) {s : Service} {sbn : StatusBarNotification}
    (success : Bool) (h : s.handedToBot sbn) : Asks s sbn (onNotificationPosted prefs s sbn success) := by
  obtain ⟨hassist, a, hpkg, hlist⟩ := h
  obtain ⟨hs, he⟩ := handleConversationalBot_spec s sbn
  have hp : App.ofPackage sbn.packageName = some a := App.ofPackage_eq_some.mpr hpkg
  have hbot : onNotificationPosted prefs s sbn success = (handleConversationalBot s sbn).catchAll := by
    simp only [onNotificationPosted, if_pos hassist, handleAssistBotNotifications, hp, if_pos hlist,
      andThen_reply_null]
  rw [hbot]
  exact ⟨⟨hassist, a, hpkg, hlist⟩, hs, he⟩

/-- A removal is ignored or, in Notify mode, passed on to the desktop. -/
theorem onNotificationRemoved_spec (s : Service) (sbn : StatusBarNotification) :
    (s.onNotificationRemoved sbn).Quiet s ∨
    ∃ title location, s.isNotifyEnabled = true ∧ sbn.extras.title = some title ∧
      s.reference = some location ∧ (s.onNotificationRemoved sbn).service = s ∧
      (s.onNotificationRemoved sbn).effects = [.setRemoveId location (conversationId title)] := by
  unfold onNotificationRemoved
  split
  · rename_i hn
    split
    · exact Or.inl (done_quiet s)
    · split
      · rename_i title location htitle href
        exact Or.inr ⟨title, location, hn, htitle, href, rfl, rfl⟩
      · exact Or.inl (throw_quiet s _)
  · exact Or.inl (done_quiet s)

end Titles

/-- In Notify mode the removal of a notification of one of the apps is passed on, unless it ends in an
    exception. -/
theorem onNotificationRemoved_passes [CaseMap] {s : Service} {sbn : StatusBarNotification}
    (hn : s.isNotifyEnabled = true) (happ : App.ofPackage sbn.packageName ≠ none)
    (ht : (s.onNotificationRemoved sbn).thrown = none) :
    ∃ title location, sbn.extras.title = some title ∧ s.reference = some location ∧
      (s.onNotificationRemoved sbn).effects = [.setRemoveId location (conversationId title)] := by
  obtain ⟨a, ha⟩ := Option.ne_none_iff_exists'.mp happ
  unfold onNotificationRemoved at ht ⊢
  rw [if_pos hn] at ht ⊢
  simp only [ha] at ht ⊢
  split at ht
  · rename_i title location htitle href
    exact ⟨title, location, htitle, href, rfl⟩
  · exact absurd ht (by simp)

/-! ## Lifecycle and toggles -/

/-- The fields that `onListenerConnected` reads from the preferences. -/
def restored (s : Service) (prefs : Preferences) : Service :=
  { s with
    sharedPreferences := true
    editor            := true
    phoneNumber       := prefs.phone
    isAssistEnabled   := prefs.isAssistOn
    isNotifyEnabled   := prefs.isNotifyOn
    isWhatsAppEnabled := prefs.isWhatsAppOn
    isFbMsgEnabled    := prefs.isFbMsgOn }

theorem getReference_rootPath (phone : String) :
    getReference (rootPath phone) = if validRoot phone then .ok (rootOf phone) else .error .database := rfl

/-- The listener is attached at the node of the number, if the database takes its path. -/
theorem connectToFirebase_eq (s : Service) :
    s.connectToFirebase =
      if validRoot s.phoneNumber then
        ⟨{ s with reference := some (rootOf s.phoneNumber) }, [.addListener (rootOf s.phoneNumber)], none⟩
      else .throw s .database := by
  unfold connectToFirebase
  rw [getReference_rootPath]
  by_cases hv : validRoot s.phoneNumber = true
  · rw [if_pos hv, if_pos hv]
  · rw [if_neg hv, if_neg hv]

/-- A connect restores the fields and, in Notify mode, attaches the listener. -/
theorem onListenerConnected_eq (prefs : Preferences) (s : Service) :
    s.onListenerConnected prefs =
      if prefs.isNotifyOn then
        if validRoot prefs.phone then
          ⟨{ s.restored prefs with reference := some prefs.location }, [.addListener prefs.location], none⟩
        else .throw (s.restored prefs) .database
      else .done (s.restored prefs) := by
  show (if prefs.isNotifyOn then (s.restored prefs).connectToFirebase else .done (s.restored prefs)) = _
  rw [connectToFirebase_eq]
  rfl

/-- **What a connect does.** -/
inductive Connects (prefs : Preferences) (s : Service) (o : Outcome) : Prop where
  /-- In Notify mode the listener is attached. -/
  | on (hon : prefs.isNotifyOn = true) (hvalid : validRoot prefs.phone = true)
      (ho : o = ⟨{ s.restored prefs with reference := some prefs.location },
        [.addListener prefs.location], none⟩)
  /-- The database does not take the number. -/
  | refused (hon : prefs.isNotifyOn = true) (hvalid : validRoot prefs.phone = false)
      (ho : o = .throw (s.restored prefs) .database)
  | off (hoff : prefs.isNotifyOn = false) (ho : o = .done (s.restored prefs))

theorem onListenerConnected_spec (prefs : Preferences) (s : Service) :
    Connects prefs s (s.onListenerConnected prefs) := by
  rw [onListenerConnected_eq]
  split
  · rename_i hon
    split
    · rename_i hv
      exact Connects.on hon hv rfl
    · rename_i hv
      exact Connects.refused hon (by simpa using hv) rfl
  · rename_i hoff
    exact Connects.off (by simpa using hoff) rfl

theorem onListenerConnected_flags (prefs : Preferences) (s : Service) :
    (∀ t, (s.onListenerConnected prefs).service.toggle t = prefs.getBoolean t) ∧
      (s.onListenerConnected prefs).service.editor = true ∧
      ∀ t b, Effect.putBoolean t b ∉ (s.onListenerConnected prefs).effects := by
  cases onListenerConnected_spec prefs s with
  | on _ _ ho | refused _ _ ho | off _ ho =>
      rw [ho]
      exact ⟨fun t => by cases t <;> rfl, rfl, fun t b => by simp⟩

theorem onListenerConnected_appList (prefs : Preferences) (s : Service) :
    (∀ a, (s.onListenerConnected prefs).service.appList a = s.appList a) ∧
      ∀ sent, Effect.send sent ∉ (s.onListenerConnected prefs).effects := by
  cases onListenerConnected_spec prefs s with
  | on _ _ ho | refused _ _ ho | off _ ho =>
      rw [ho]
      exact ⟨fun a => by cases a <;> rfl, fun sent => by simp⟩

theorem removeEventListener_spec {s : Service} (h : s.removeEventListener.thrown = none) :
    ∃ location, s.reference = some location ∧
      s.removeEventListener = ⟨s, [.removeListener location], none⟩ := by
  unfold removeEventListener at h ⊢
  cases href : s.reference with
  | none => simp [href] at h
  | some location => exact ⟨location, rfl, rfl⟩

theorem onListenerDisconnected_spec {s : Service} (h : s.onListenerDisconnected.thrown = none) :
    ∃ location, s.reference = some location ∧
      s.onListenerDisconnected =
        ⟨{ s with fbMsgList := [], waList := [] }, [.removeListener location], none⟩ :=
  removeEventListener_spec h

/-- **What a toggle broadcast does** when no exception escapes. -/
inductive Received (s : Service) (intent : Broadcast) (o : Outcome) : Prop where
  | assist (h : intent.action = .assist) (hs : o.service = { s with isAssistEnabled := intent.on })
      (he : o.effects = [.putBoolean .assist intent.on])
  /-- Notify mode goes on, and the listener is attached under the cached number. -/
  | notifyOn (h : intent.action = .notify) (hon : intent.on = true)
      (hs : o.service = { s with
        isNotifyEnabled := true
        reference       := some (rootOf s.phoneNumber) })
      (he : o.effects = [.addListener (rootOf s.phoneNumber), .putBoolean .notify true])
  /-- Notify mode goes off, and the listener is detached from the last location. -/
  | notifyOff (location : String) (h : intent.action = .notify) (hoff : intent.on = false)
      (href : s.reference = some location) (hs : o.service = { s with isNotifyEnabled := false })
      (he : o.effects = [.removeListener location, .putBoolean .notify false])
  | appOn (a : App) (h : intent.action = a.toggle) (hon : intent.on = true)
      (hs : o.service = s.setAppEnabled a true) (he : o.effects = [.putBoolean a.toggle true])
  /-- An app goes off, and its list is cleared. -/
  | appOff (a : App) (h : intent.action = a.toggle) (hoff : intent.on = false)
      (hs : o.service = (s.setAppEnabled a false).clearList a)
      (he : o.effects = [.putBoolean a.toggle false])

theorem receiveApp_spec {s : Service} {a : App} {intent : Broadcast} (h : intent.action = a.toggle)
    (ht : (s.receiveApp a intent.on).thrown = none) :
    Received s intent (s.receiveApp a intent.on) := by
  unfold receiveApp at ht ⊢
  simp only at ht ⊢
  split at ht
  · rename_i he
    rw [if_pos he]
    cases hon : intent.on with
    | true => exact Received.appOn a h hon rfl rfl
    | false => exact Received.appOff a h hon rfl rfl
  · exact absurd ht (by simp)

theorem onReceive_spec {s : Service} {intent : Broadcast}
    (ht : (s.onReceive intent).thrown = none) : Received s intent (s.onReceive intent) := by
  unfold onReceive at ht ⊢
  cases hact : intent.action with
  | assist =>
      simp only [hact] at ht ⊢
      split at ht
      · rename_i he
        rw [if_pos he]
        exact Received.assist hact rfl rfl
      · exact absurd ht (by simp)
  | notify =>
      simp only [hact] at ht ⊢
      split at ht
      · rename_i he
        rw [if_pos he]
        cases hon : intent.on with
        | true =>
            rw [if_pos rfl, connectToFirebase_eq]
            by_cases hv : validRoot s.phoneNumber = true
            · rw [if_pos (show validRoot _ = true from hv)]
              exact Received.notifyOn hact hon rfl rfl
            · simp [hon, andThen, connectToFirebase_eq, hv] at ht
        | false =>
            have hd : (removeEventListener { s with isNotifyEnabled := false }).thrown = none := by
              cases hx : (removeEventListener { s with isNotifyEnabled := false }).thrown with
              | none => rfl
              | some x => simp [hon, andThen, hx] at ht
            obtain ⟨location, href, heq⟩ := removeEventListener_spec hd
            rw [if_neg (by simp), heq]
            exact Received.notifyOff location hact hon href rfl rfl
      · exact absurd ht (by simp)
  | whatsApp =>
      simp only [hact] at ht ⊢
      exact receiveApp_spec (a := .whatsApp) hact ht
  | fbMsg =>
      simp only [hact] at ht ⊢
      exact receiveApp_spec (a := .fbMessenger) hact ht

@[simp] theorem setAppEnabled_target (s : Service) (a : App) (b : Bool) :
    (s.setAppEnabled a b).target = s.target := by cases a <;> rfl
@[simp] theorem clearList_target (s : Service) (a : App) : (s.clearList a).target = s.target := by
  cases a <;> rfl

/-- Without an editor every broadcast ends in an exception. -/
theorem onReceive_editor {s : Service} {intent : Broadcast}
    (ht : (s.onReceive intent).thrown = none) : s.editor = true := by
  by_contra he
  unfold onReceive receiveApp at ht
  cases hact : intent.action <;> simp [hact, setAppEnabled, he] at ht

theorem setAppEnabled_toggle (s : Service) (a : App) (b : Bool) (t : Toggle) :
    (s.setAppEnabled a b).toggle t = if t = a.toggle then b else s.toggle t := by
  cases a <;> cases t <;> rfl
@[simp] theorem clearList_toggle (s : Service) (a : App) (t : Toggle) :
    (s.clearList a).toggle t = s.toggle t := by cases a <;> rfl

section Received

variable {s : Service} {intent : Broadcast} {o : Outcome}

/-- A broadcast sets its own flag. -/
theorem Received.service_toggle (h : Received s intent o) (t : Toggle) :
    o.service.toggle t = if t = intent.action then intent.on else s.toggle t := by
  cases h with
  | assist ha hs _ => rw [hs, ha]; cases t <;> rfl
  | notifyOn ha hon hs _ => rw [hs, ha, hon]; cases t <;> rfl
  | notifyOff _ ha hoff _ hs _ => rw [hs, ha, hoff]; cases t <;> rfl
  | appOn a ha hon hs _ => rw [hs, ha, hon, setAppEnabled_toggle]
  | appOff a ha hoff hs _ => rw [hs, ha, hoff, clearList_toggle, setAppEnabled_toggle]

theorem Received.service_target (h : Received s intent o) : o.service.target = s.target := by
  cases h with
  | assist _ hs _ | notifyOn _ _ hs _ | notifyOff _ _ _ _ hs _ => rw [hs]; rfl
  | appOn _ _ _ hs _ | appOff _ _ _ hs _ => rw [hs]; simp

/-- A broadcast that turns an app off clears its list; every other one leaves it alone. -/
theorem Received.service_appList (h : Received s intent o) (a : App) :
    o.service.appList a =
      if intent.action = a.toggle ∧ intent.on = false then [] else s.appList a := by
  cases h with
  | assist ha hs _ => rw [hs, ha]; cases a <;> rfl
  | notifyOn ha hon hs _ => rw [hs, ha]; cases a <;> rfl
  | notifyOff _ ha hoff _ hs _ => rw [hs, ha]; cases a <;> rfl
  | appOn b ha hon hs _ => rw [hs, ha, hon]; cases a <;> cases b <;> rfl
  | appOff b ha hoff hs _ => rw [hs, ha, hoff]; cases a <;> cases b <;> rfl

theorem Received.not_send (h : Received s intent o) (sent : Sent) : Effect.send sent ∉ o.effects := by
  cases h with
  | assist _ _ he | notifyOn _ _ _ he | notifyOff _ _ _ _ _ he | appOn _ _ _ _ he
  | appOff _ _ _ _ he => simp [he]

theorem Received.service_hashMap (h : Received s intent o) : o.service.hashMap = s.hashMap := by
  cases h with
  | assist _ hs _ | notifyOn _ _ hs _ | notifyOff _ _ _ _ hs _ => rw [hs]
  | appOn a _ _ hs _ | appOff a _ _ hs _ => rw [hs]; cases a <;> rfl

/-- Only a broadcast of the mode moves the listener. -/
theorem Received.stays (h : Received s intent o) (hne : intent.action ≠ .notify) :
    o.service.reference = s.reference ∧
      ∀ location, Effect.addListener location ∉ o.effects ∧
        Effect.removeListener location ∉ o.effects := by
  cases h with
  | assist _ hs he => exact ⟨by rw [hs], fun location => by simp [he]⟩
  | notifyOn ha _ _ _ | notifyOff _ ha _ _ _ _ => exact absurd ha hne
  | appOn a _ _ hs he | appOff a _ _ hs he =>
      exact ⟨by rw [hs]; cases a <;> rfl, fun location => by simp [he]⟩

theorem Received.service_phoneNumber (h : Received s intent o) :
    o.service.phoneNumber = s.phoneNumber := by
  cases h with
  | assist _ hs _ | notifyOn _ _ hs _ | notifyOff _ _ _ _ hs _ => rw [hs]
  | appOn a _ _ hs _ | appOff a _ _ hs _ => rw [hs]; cases a <;> rfl

theorem Received.service_editor (h : Received s intent o) : o.service.editor = s.editor := by
  cases h with
  | assist _ hs _ | notifyOn _ _ hs _ | notifyOff _ _ _ _ hs _ => rw [hs]
  | appOn a _ _ hs _ | appOff a _ _ hs _ => rw [hs]; cases a <;> rfl

end Received

/-! ## Desktop records -/

/-- A desktop record is ignored, or handed to `reply` with the entry of its id. -/
theorem onDataChange_spec (prefs : Preferences) (s : Service) (object : Option Record)
    (success : Bool) :
    (onDataChange prefs s object success).Quiet s ∨
    ∃ r id model sent, object = some r ∧ r.lookup "id" = some id ∧
      s.hashMap.lookup id = some model ∧
      Answers s ⟨model.remoteInputs, model.pendingIntent⟩ (r.lookup "name") (r.lookup "app_name")
        (r.lookup "message") (some id) success (onDataChange prefs s object success) sent := by
  unfold onDataChange
  cases object with
  | none => exact Or.inl (done_quiet s)
  | some r =>
      simp only
      cases hm : (r.lookup "id").bind s.hashMap.lookup with
      | none => exact Or.inl (done_quiet s)
      | some model =>
          obtain ⟨id, hid, hmodel⟩ := Option.bind_eq_some_iff.mp hm
          rcases reply_spec prefs s ⟨model.remoteInputs, model.pendingIntent⟩ model.bundle
            (r.lookup "name") (r.lookup "app_name") (r.lookup "message") (r.lookup "id") success
            with ⟨_, hq⟩ | ⟨sent, h⟩
          · exact Or.inl hq
          · rw [hid] at h ⊢
            exact Or.inr ⟨r, id, model, sent, rfl, hid, hmodel, { h with thrown_eq := rfl }⟩

/-! ## Bot answers -/

/-- A bot answer is dropped, or handed to `reply` with the fields as they are now. -/
theorem onPostExecute_spec (prefs : Preferences) (s : Service) (r : BotRequest)
    (aiResponse : Option (Option String)) (success : Bool) :
    (onPostExecute prefs s r aiResponse success).Quiet s ∨
    ∃ speech sent, aiResponse = some speech ∧
      Answers s s.target r.senderName (some r.packageName) speech r.senderName success
        (onPostExecute prefs s r aiResponse success) sent := by
  unfold onPostExecute
  cases aiResponse with
  | none => exact Or.inl (done_quiet s)
  | some speech =>
      rcases reply_spec prefs s s.target r.bundle r.senderName (some r.packageName) speech
        r.senderName success with ⟨_, hq⟩ | ⟨sent, h⟩
      · exact Or.inl hq
      · exact Or.inr ⟨speech, sent, rfl, h⟩

/-! ## When an exception escapes

The handlers of notifications and of desktop records catch everything. -/

section Thrown

variable (prefs : Preferences) (s : Service)

@[simp] theorem onNotificationPosted_thrown [CaseMap] (sbn : StatusBarNotification) (success : Bool) :
    (onNotificationPosted prefs s sbn success).thrown = none := rfl

@[simp] theorem onDataChange_thrown (object : Option Record) (success : Bool) :
    (onDataChange prefs s object success).thrown = none := by
  unfold onDataChange
  split
  · rfl
  · split <;> rfl

/-- A connect in Notify mode needs a number that the database takes. -/
theorem onListenerConnected_thrown :
    (s.onListenerConnected prefs).thrown = none ↔
      (prefs.isNotifyOn = true → validRoot prefs.phone = true) := by
  cases onListenerConnected_spec prefs s with
  | on _ hv ho => simp [ho, hv]
  | refused hon hv ho => simp [ho, hon, hv]
  | off hoff ho => simp [ho, hoff]

/-- A removal in Notify mode reads the title and the reference. -/
theorem onNotificationRemoved_thrown [CaseMap] (sbn : StatusBarNotification) :
    (s.onNotificationRemoved sbn).thrown = none ↔
      (s.isNotifyEnabled = true → App.ofPackage sbn.packageName ≠ none →
        sbn.extras.title ≠ none ∧ s.reference ≠ none) := by
  unfold onNotificationRemoved
  by_cases hn : s.isNotifyEnabled = true
  · rw [if_pos hn]
    cases App.ofPackage sbn.packageName with
    | none => simp
    | some a => cases sbn.extras.title <;> cases s.reference <;> simp [hn]
  · rw [if_neg hn]
    simp [hn]

theorem removeEventListener_thrown :
    s.removeEventListener.thrown = none ↔ s.reference ≠ none := by
  unfold removeEventListener
  cases s.reference <;> simp

theorem onListenerDisconnected_thrown :
    s.onListenerDisconnected.thrown = none ↔ s.reference ≠ none :=
  removeEventListener_thrown _

/-- A broadcast reads the editor, one that turns Notify mode on needs a number that the database takes, and one
    that turns it off reads the reference. -/
theorem onReceive_thrown (intent : Broadcast) :
    (s.onReceive intent).thrown = none ↔ s.editor = true ∧
      (intent.action = .notify →
        if intent.on then validRoot s.phoneNumber = true else s.reference ≠ none) := by
  cases hed : s.editor with
  | false =>
      simp only [Bool.false_eq_true, false_and, iff_false]
      intro ht
      exact absurd (onReceive_editor ht) (by simp [hed])
  | true =>
      unfold onReceive
      cases hact : intent.action with
      | assist => simp [hed]
      | notify =>
          cases hon : intent.on with
          | true =>
              by_cases hv : validRoot s.phoneNumber = true <;> simp [hed, connectToFirebase_eq, andThen, hv]
          | false => cases s.reference <;> simp [hed, removeEventListener, andThen]
      | whatsApp => simp [receiveApp, setAppEnabled, hed]
      | fbMsg => simp [receiveApp, setAppEnabled, hed]

end Thrown

end Service

end NotifyMe
