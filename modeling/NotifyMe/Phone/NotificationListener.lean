import NotifyMe.Phone.Data
import NotifyMe.Text.ConversationId

/-!
# `Phone.NotificationListener` — the handlers of the phone service

`NotificationListener.java`, one definition for each method. A handler is a function from the service's
fields to an `Outcome`: the fields afterwards, the effects on the outside world in order, and the exception
that escapes from it, if one does. What the outside decides is an argument: whether a `PendingIntent` can
still be sent (`success`), the shared preferences, the answer of the bot.

All handlers run on the main thread, so each is one atomic step.
-/

namespace NotifyMe

/-! ## State, effects, outcomes -/

structure NotificationModel where
  bundle        : Bundle
  pendingIntent : Option PendingIntent
  remoteInputs  : Option (List RemoteInput)
  deriving DecidableEq, Repr

/-- The fields of the service. `sharedPreferences` and `editor` are null until the first
    `onListenerConnected`; the Booleans say whether they are set. -/
structure Service where
  waList            : List (Option String)      := []
  fbMsgList         : List (Option String)      := []
  phoneNumber       : String                    := ""
  sharedPreferences : Bool                      := false
  editor            : Bool                      := false
  isWhatsAppEnabled : Bool                      := false
  isAssistEnabled   : Bool                      := false
  isNotifyEnabled   : Bool                      := false
  isFbMsgEnabled    : Bool                      := false
  reference         : Option String             := none
  hashMap           : StrMap NotificationModel  := ∅
  remoteInputs      : Option (List RemoteInput) := none
  pendingIntent     : Option PendingIntent      := none

/-- A bot request under way, with the notification whose text is the query. The `AsyncTask` captures the
    extras, the sender and the package of that notification, and nothing else of it. -/
structure BotRequest where
  sbn       : StatusBarNotification
  queryText : String
  query_eq  : sbn.extras.text = some queryText
  deriving DecidableEq

def BotRequest.bundle (r : BotRequest) : Bundle := r.sbn.extras
def BotRequest.senderName (r : BotRequest) : Option String := r.sbn.extras.title
def BotRequest.packageName (r : BotRequest) : String := r.sbn.packageName

/-- One `pendingIntent.send`: the intent and what it carries, the arguments `reply` was called with, and
    whether it went out (`false`: `CanceledException`). -/
structure Sent where
  pendingIntent : PendingIntent
  remoteInputs  : List RemoteInput
  packageName   : String
  senderName    : Option String
  message       : Option String
  results       : List (String × String)
  success       : Bool
  deriving DecidableEq, Repr

/-- What a handler does outside the service. A location is the path of `reference`. -/
inductive Effect where
  | send (s : Sent)
  | setApp (location : String) (object : Record)
  | setRemoveId (location id : String)
  | addListener (location : String)
  | removeListener (location : String)
  | putBoolean (key : Toggle) (value : Bool)
  | execute (r : BotRequest)
  deriving DecidableEq

inductive JavaException where
  | nullPointer
  | arrayIndexOutOfBounds
  /-- `IllegalStateException`: a bot request with an empty query. -/
  | illegalState
  /-- `DatabaseException`: a path that the database does not take. -/
  | database
  deriving DecidableEq, Repr

structure Outcome where
  service : Service
  effects : List Effect
  thrown  : Option JavaException

namespace Outcome

/-- Return with no effect. -/
def done (s : Service) : Outcome := ⟨s, [], none⟩

def throw (s : Service) (x : JavaException) : Outcome := ⟨s, [], some x⟩

/-- Continue with `f` unless an exception is on its way. -/
def andThen (o : Outcome) (f : Service → Outcome) : Outcome :=
  match o.thrown with
  | some _ => o
  | none   => ⟨(f o.service).service, o.effects ++ (f o.service).effects, (f o.service).thrown⟩

/-- `try { .. } catch (Exception e) { e.printStackTrace(); }`. -/
def catchAll (o : Outcome) : Outcome := { o with thrown := none }

end Outcome

namespace Service

/-- `remoteInputs` and `pendingIntent`, the two fields. -/
def target (s : Service) : ReplyTarget := ⟨s.remoteInputs, s.pendingIntent⟩

/-- `waList` or `fbMsgList`. -/
def appList (s : Service) : App → List (Option String)
  | .whatsApp    => s.waList
  | .fbMessenger => s.fbMsgList

/-- `isWhatsAppEnabled` or `isFbMsgEnabled`. -/
def appEnabled (s : Service) : App → Bool
  | .whatsApp    => s.isWhatsAppEnabled
  | .fbMessenger => s.isFbMsgEnabled

def setAppEnabled (s : Service) (a : App) (b : Bool) : Service :=
  match a with
  | .whatsApp    => { s with isWhatsAppEnabled := b }
  | .fbMessenger => { s with isFbMsgEnabled := b }

def addToList (s : Service) (a : App) (senderName : Option String) : Service :=
  match a with
  | .whatsApp    => { s with waList := s.waList ++ [senderName] }
  | .fbMessenger => { s with fbMsgList := s.fbMsgList ++ [senderName] }

def clearList (s : Service) : App → Service
  | .whatsApp    => { s with waList := [] }
  | .fbMessenger => { s with fbMsgList := [] }

/-- `hashMap.remove(notifId)`, where `notifId` may be null. No entry has a null key. -/
def removeModel (s : Service) (notifId : Option String) : Service :=
  match notifId with
  | some id => { s with hashMap := s.hashMap.erase id }
  | none    => s

/-! ## `reply` -/

/-- `senderName.split(" ")[0]`. Java drops trailing empty strings, so a name of blanks only splits into
    nothing and has no first element. -/
def firstWord (name : String) : Option String :=
  if name.toList ≠ [] ∧ name.toList.all (· == ' ') then none
  else some (String.ofList (name.toList.takeWhile (· ≠ ' ')))

/-- The text put under a result key: the message, or the canned greeting when it is null. -/
def replyText (prefs : Preferences) (s : Service) (a : App) (senderName message : Option String) :
    Except JavaException String :=
  match message, senderName with
  | some m, _      => .ok m
  | none, none     => .error .nullPointer
  | none, some name =>
      match firstWord name with
      | none   => .error .arrayIndexOutOfBounds
      | some w =>
          -- `sharedPreferences` is null until the first connect
          if s.sharedPreferences then .ok ("Hey " ++ w ++ ", " ++ prefs.assistMsg a)
          else .error .nullPointer

/-- The two loops that fill the bundle; a package that is neither app's fills in nothing. -/
def putReplies (prefs : Preferences) (s : Service) (remoteInputs : List RemoteInput) (bundle : Bundle)
    (senderName : Option String) (packageName : String) (message : Option String) :
    Except JavaException Bundle :=
  match App.ofPackage packageName with
  | some a => remoteInputs.foldlM (fun b ri => do
      let text ← replyText prefs s a senderName message
      return b.putCharSequence ri.resultKey text) bundle
  | none   => .ok bundle

/-- The bookkeeping after a send that went out. -/
def recordReply (s : Service) (senderName : Option String) (packageName : String)
    (notifId : Option String) : Service :=
  let s₁ := match App.ofPackage packageName with
    | some a => if s.isNotifyEnabled then s else s.addToList a senderName
    | none   => s
  if s.isNotifyEnabled then s₁.removeModel notifId else s₁

def reply (prefs : Preferences) (s : Service) (target : ReplyTarget) (bundle : Bundle)
    (senderName packageName message notifId : Option String) (success : Bool) : Outcome :=
  match target.usable with
  | none => .done s
  | some (remoteInputs, pendingIntent) =>
      match packageName with
      | none => .throw s .nullPointer  -- `packageName.equals(..)`
      | some packageName =>
          match putReplies prefs s remoteInputs bundle senderName packageName message with
          | .error x   => .throw s x
          | .ok bundle =>
              let sent : Sent :=
                ⟨pendingIntent, remoteInputs, packageName, senderName, message,
                  addResultsToIntent remoteInputs bundle, success⟩
              -- a cancelled intent is logged, and nothing is recorded
              ⟨if success then s.recordReply senderName packageName notifId else s,
                [.send sent], none⟩

/-! ## Notifications in AssistBot mode -/

/-- `text.contains(sub)`. -/
def containsText (text sub : String) : Bool := decide (sub.toList <:+: text.toList)

/-- The fields are overwritten before the query is looked at. `new AIRequest(queryText)` refuses an empty query,
    and comes before `execute`. -/
def handleConversationalBot (s : Service) (sbn : StatusBarNotification) : Outcome :=
  let t := s.target.scan sbn.actions
  let s₁ := { s with remoteInputs := t.remoteInputs, pendingIntent := t.pendingIntent }
  match h : sbn.extras.text with
  | none => .throw s₁ .nullPointer
  | some queryText =>
      if !containsText queryText "new messages" || !containsText queryText "new message" then
        if queryText = "" then .throw s₁ .illegalState
        else ⟨s₁, [.execute ⟨sbn, queryText, h⟩], none⟩
      else .done s₁

/-- `onPostExecute`. `aiResponse` is null when the request failed, and its speech may be null. -/
def onPostExecute (prefs : Preferences) (s : Service) (r : BotRequest)
    (aiResponse : Option (Option String)) (success : Bool) : Outcome :=
  match aiResponse with
  | none        => .done s
  | some speech =>
      reply prefs s s.target r.bundle r.senderName (some r.packageName) speech r.senderName success

/-- The branches for the two packages differ in the app only. After the branch for a greeted sender the
    local variables are still null, so the `reply` behind it sends nothing. -/
def handleAssistBotNotifications (prefs : Preferences) (s : Service) (sbn : StatusBarNotification)
    (success : Bool) : Outcome :=
  match App.ofPackage sbn.packageName with
  | none   => .done s
  | some a =>
      let replyIfEnabled (target : ReplyTarget) (senderName : Option String) (s : Service) :=
        if s.appEnabled a then
          reply prefs s target sbn.extras senderName (some sbn.packageName) none none success
        else .done s
      if sbn.extras.title ∈ s.appList a then
        (handleConversationalBot s sbn).andThen (replyIfEnabled {} (some ""))
      else
        replyIfEnabled sbn.replyAction sbn.extras.title s

/-! ## Notifications in Notify mode -/

/-- The map written to the `app` node. -/
def appObject (title : String) (text : Option String) (id packageName : String) : Record :=
  Record.put (Record.put (Record.put (Record.put ∅
    "name" (some title)) "message" text) "id" (some id)) "app_name" (some packageName)

/-- A null title or a null `reference` raises a `NullPointerException` before anything is written; it is
    caught. -/
def handleNotifyNotifications [CaseMap] (s : Service) (sbn : StatusBarNotification) : Outcome :=
  let t := sbn.replyAction
  match App.ofPackage sbn.packageName with
  | none   => .done s
  | some _ =>
      if sbn.actions.length > 0 then
        match sbn.extras.title, s.reference with
        | some title, some reference =>
            let id := conversationId title
            ⟨{ s with hashMap := s.hashMap.insert id ⟨sbn.extras, t.pendingIntent, t.remoteInputs⟩ },
              [.setApp reference (appObject title sbn.extras.text id sbn.packageName)], none⟩
        | _, _ => .done s
      else .done s

def onNotificationPosted [CaseMap] (prefs : Preferences) (s : Service) (sbn : StatusBarNotification)
    (success : Bool) : Outcome :=
  Outcome.catchAll
    (if s.isAssistEnabled then handleAssistBotNotifications prefs s sbn success
     else if s.isNotifyEnabled then handleNotifyNotifications s sbn
     else .done s)

def onNotificationRemoved [CaseMap] (s : Service) (sbn : StatusBarNotification) : Outcome :=
  if s.isNotifyEnabled then
    match App.ofPackage sbn.packageName with
    | none   => .done s
    | some _ =>
        match sbn.extras.title, s.reference with
        | some title, some reference => ⟨s, [.setRemoveId reference (conversationId title)], none⟩
        | _, _ => .throw s .nullPointer
  else .done s

/-- `messagesListener.onDataChange`. `hashMap.get(id)` is dereferenced inside the `try`. -/
def onDataChange (prefs : Preferences) (s : Service) (object : Option Record) (success : Bool) :
    Outcome :=
  match object with
  | none => .done s
  | some object =>
      match (object.lookup "id").bind s.hashMap.lookup with
      | none => .done s
      | some model =>
          Outcome.catchAll
            (reply prefs s ⟨model.remoteInputs, model.pendingIntent⟩ model.bundle
              (object.lookup "name") (object.lookup "app_name") (object.lookup "message")
              (object.lookup "id") success)

/-! ## Lifecycle and toggles -/

/-- `FirebaseDatabase.getReference`. -/
def getReference (path : String) : Except JavaException String :=
  if path.toList.all isPathChar then .ok (nodeOf path) else .error .database

def connectToFirebase (s : Service) : Outcome :=
  match getReference (rootPath s.phoneNumber) with
  | .error x     => .throw s x
  | .ok location => ⟨{ s with reference := some location }, [.addListener location], none⟩

def onListenerConnected (prefs : Preferences) (s : Service) : Outcome :=
  let s₁ := { s with
    sharedPreferences := true
    editor            := true
    phoneNumber       := prefs.phone
    isAssistEnabled   := prefs.isAssistOn
    isNotifyEnabled   := prefs.isNotifyOn
    isWhatsAppEnabled := prefs.isWhatsAppOn
    isFbMsgEnabled    := prefs.isFbMsgOn }
  if s₁.isNotifyEnabled then s₁.connectToFirebase else .done s₁

/-- `reference.child("desktop").removeEventListener(messagesListener)`. -/
def removeEventListener (s : Service) : Outcome :=
  match s.reference with
  | some location => ⟨s, [.removeListener location], none⟩
  | none          => .throw s .nullPointer

def onListenerDisconnected (s : Service) : Outcome :=
  removeEventListener { s with fbMsgList := [], waList := [] }

/-- The branches for the two apps: the toggle, its preference, and the list cleared when it goes off. -/
def receiveApp (s : Service) (a : App) (on : Bool) : Outcome :=
  let s₁ := s.setAppEnabled a on
  -- `editor` is null until the first connect
  if s₁.editor then ⟨if on then s₁ else s₁.clearList a, [.putBoolean a.toggle on], none⟩
  else .throw s₁ .nullPointer

def onReceive (s : Service) (intent : Broadcast) : Outcome :=
  match intent.action with
  | .assist =>
      let s₁ := { s with isAssistEnabled := intent.on }
      if s₁.editor then ⟨s₁, [.putBoolean .assist intent.on], none⟩ else .throw s₁ .nullPointer
  | .notify =>
      let s₁ := { s with isNotifyEnabled := intent.on }
      if s₁.editor then
        -- without a `reference` the detachment throws, and nothing is persisted
        Outcome.andThen
          (if intent.on then s₁.connectToFirebase else s₁.removeEventListener)
          fun s₂ => ⟨s₂, [.putBoolean .notify intent.on], none⟩
      else .throw s₁ .nullPointer
  | .whatsApp => s.receiveApp .whatsApp intent.on
  | .fbMsg    => s.receiveApp .fbMessenger intent.on

end Service

end NotifyMe
