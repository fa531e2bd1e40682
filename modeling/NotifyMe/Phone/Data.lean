import Mathlib.Data.Finmap
import Mathlib.Data.Fintype.Defs

/-!
# `Phone.Data` — the values the programs pass around

The Android and Java objects the phone service reads and writes, with the fields it uses, and the records
the two programs exchange through the database.

* **Notifications.** `StatusBarNotification` with its extras (`Bundle`) and the actions of its wearable
  extender; `ReplyTarget.scan` is the loop that picks the reply action out of them.
* **Apps.** `App`: the two packages the service handles, with what it keeps for each.
* **Records.** A `Record` is a string map. A Java map entry with a null value, a Swift dictionary entry set
  to `nil` and an absent key are one thing here (`Record.put`): all three read back as null, and the
  database stores none of them.
* **Preferences.** The shared preferences file, written by the activities and by the service.
-/

namespace NotifyMe

/-! ## String maps and records -/

/-- A finite map with string keys: a Java `HashMap`, a database node. Keys are compared code unit by code unit,
    as Java does; a Swift dictionary does not (`Text.Canonical`). -/
abbrev StrMap (α : Type) := Finmap (fun _ : String => α)

/-- What the programs exchange: a map of strings. -/
abbrev Record := StrMap String

/-- `map.put(key, value)` in Java and `map[key] = value` in Swift, where `value` may be null. -/
def Record.put (r : Record) (key : String) (value : Option String) : Record :=
  match value with
  | some v => r.insert key v
  | none   => r.erase key

@[simp] theorem Record.lookup_put_self (r : Record) (key : String) (value : Option String) :
    (Record.put r key value).lookup key = value := by
  cases value <;> simp [Record.put]

@[simp] theorem Record.lookup_put_ne (r : Record) {key key' : String} (h : key' ≠ key)
    (value : Option String) : (Record.put r key value).lookup key' = r.lookup key' := by
  cases value <;> simp [Record.put, h]

/-! ## Notifications -/

/-- A system-side intent. Two handles with one token act on the same intent. -/
structure PendingIntent where
  token : Nat
  deriving DecidableEq, Repr

structure RemoteInput where
  resultKey : String
  deriving DecidableEq, Repr

/-- `Notification.Action`: both fields may be null. -/
structure Action where
  remoteInputs : Option (List RemoteInput)
  actionIntent : Option PendingIntent
  deriving DecidableEq, Repr

/-- The extras of a notification. `title` and `text` are what `getString` returns for `EXTRA_TITLE` and
    `EXTRA_TEXT`: null when the entry is absent or no `String`. `results` are the char sequences put in
    later, last one first. -/
structure Bundle where
  title   : Option String
  text    : Option String
  results : List (String × String) := []
  deriving DecidableEq, Repr

def Bundle.putCharSequence (b : Bundle) (key value : String) : Bundle :=
  { b with results := (key, value) :: b.results }

def Bundle.getCharSequence (b : Bundle) (key : String) : Option String := b.results.lookup key

/-- `RemoteInput.addResultsToIntent`: the intent carries, for each remote input, what the bundle holds
    under its key. -/
def addResultsToIntent (remoteInputs : List RemoteInput) (b : Bundle) : List (String × String) :=
  remoteInputs.filterMap fun ri => (b.getCharSequence ri.resultKey).map fun v => (ri.resultKey, v)

/-- `actions` are those of the notification's `WearableExtender`; an element may be null. -/
structure StatusBarNotification where
  packageName : String
  extras      : Bundle
  actions     : List (Option Action)
  deriving DecidableEq, Repr

/-- The two variables an answer is sent through. -/
structure ReplyTarget where
  remoteInputs  : Option (List RemoteInput)  := none
  pendingIntent : Option PendingIntent       := none
  deriving DecidableEq, Repr

namespace ReplyTarget

/-- An action with remote inputs overwrites both variables; any other action leaves them alone. -/
def visit (t : ReplyTarget) : Option Action → ReplyTarget
  | some act => if act.remoteInputs.isSome then ⟨act.remoteInputs, act.actionIntent⟩ else t
  | none     => t

/-- The loop over the actions, from what the variables hold before it. -/
def scan (t : ReplyTarget) (actions : List (Option Action)) : ReplyTarget := actions.foldl visit t

/-- What `reply` can send through: both variables, when neither is null. -/
def usable (t : ReplyTarget) : Option (List RemoteInput × PendingIntent) :=
  match t.remoteInputs, t.pendingIntent with
  | some ris, some pi => some (ris, pi)
  | _, _              => none

theorem usable_eq_some {t : ReplyTarget} {ris : List RemoteInput} {pi : PendingIntent} :
    t.usable = some (ris, pi) ↔ t.remoteInputs = some ris ∧ t.pendingIntent = some pi := by
  obtain ⟨r, p⟩ := t
  cases r <;> cases p <;> simp [usable]

@[simp] theorem scan_cons (t : ReplyTarget) (act : Option Action) (acts : List (Option Action)) :
    t.scan (act :: acts) = (t.visit act).scan acts := rfl

end ReplyTarget

/-- Some action of the notification takes remote input. -/
def StatusBarNotification.carriesReply (sbn : StatusBarNotification) : Prop :=
  ∃ act ∈ sbn.actions, ∃ a, act = some a ∧ a.remoteInputs.isSome = true

instance (sbn : StatusBarNotification) : Decidable sbn.carriesReply :=
  decidable_of_iff (sbn.actions.any fun act => act.any fun a => a.remoteInputs.isSome) (by
    simp [StatusBarNotification.carriesReply, Option.any_eq_true])

/-- The reply action of a notification: the last action that takes remote input, if there is one. -/
def StatusBarNotification.replyAction (sbn : StatusBarNotification) : ReplyTarget :=
  ReplyTarget.scan {} sbn.actions

namespace ReplyTarget

/-- With no action that takes remote input the loop changes nothing. -/
theorem scan_not_carries {sbn : StatusBarNotification} (h : ¬ sbn.carriesReply)
    (t : ReplyTarget) : t.scan sbn.actions = t := by
  have hv : ∀ act ∈ sbn.actions, t.visit act = t := by
    intro act hact
    cases act with
    | none => rfl
    | some a =>
        have ha : ¬ a.remoteInputs.isSome = true := fun hr => h ⟨some a, hact, a, rfl, hr⟩
        simp only [visit, if_neg ha]
  generalize sbn.actions = acts at hv
  induction acts with
  | nil => rfl
  | cons act acts ih =>
      rw [scan_cons, hv act (by simp)]
      exact ih (fun a ha => hv a (by simp [ha]))

/-- What the loop leaves in the two variables was there before, or is taken from one action. -/
theorem scan_eq_or (t : ReplyTarget) (acts : List (Option Action)) :
    t.scan acts = t ∨ ∃ act, some act ∈ acts ∧ t.scan acts = ⟨act.remoteInputs, act.actionIntent⟩ := by
  induction acts generalizing t with
  | nil => exact Or.inl rfl
  | cons act acts ih =>
      rw [scan_cons]
      rcases ih (t.visit act) with hkeep | ⟨last, hmem, hlast⟩
      · rw [hkeep]
        cases act with
        | none => exact Or.inl rfl
        | some act =>
            by_cases hr : act.remoteInputs.isSome = true
            · exact Or.inr ⟨act, List.mem_cons_self, by rw [visit, if_pos hr]⟩
            · exact Or.inl (by rw [visit, if_neg hr])
      · exact Or.inr ⟨last, List.mem_cons_of_mem _ hmem, hlast⟩

/-- With such an action the result does not depend on what the variables held before. -/
theorem scan_carries {sbn : StatusBarNotification} (h : sbn.carriesReply)
    (t t' : ReplyTarget) : t.scan sbn.actions = t'.scan sbn.actions := by
  unfold StatusBarNotification.carriesReply at h
  generalize sbn.actions = acts at h
  induction acts generalizing t t' with
  | nil => obtain ⟨_, hact, _⟩ := h; exact absurd hact (by simp)
  | cons act acts ih =>
      rw [scan_cons, scan_cons]
      by_cases htl : ∃ x ∈ acts, ∃ a, x = some a ∧ a.remoteInputs.isSome = true
      · exact ih _ _ htl
      · obtain ⟨x, hx, a, rfl, ha⟩ := h
        rcases List.mem_cons.mp hx with rfl | hx
        · simp only [visit, if_pos ha]
        · exact absurd ⟨_, hx, a, rfl, ha⟩ htl

/-- A usable reply action is an action of the notification. -/
theorem usable_mem {sbn : StatusBarNotification} {ris : List RemoteInput} {pi : PendingIntent}
    (h : sbn.replyAction.usable = some (ris, pi)) : some ⟨some ris, some pi⟩ ∈ sbn.actions := by
  obtain ⟨hris, hpi⟩ := usable_eq_some.mp h
  unfold StatusBarNotification.replyAction at hris hpi
  rcases scan_eq_or {} sbn.actions with hkeep | ⟨act, hmem, hlast⟩
  · rw [hkeep] at hris
    exact absurd hris (by simp)
  · rw [hlast] at hris hpi
    obtain ⟨_, _⟩ := act
    obtain rfl := hris
    obtain rfl := hpi
    exact hmem

end ReplyTarget

/-- `list.contains(title)`, for a title that may be null. -/
instance decidableContains (title : Option String) (list : List (Option String)) :
    Decidable (title ∈ list) :=
  List.instDecidableMemOfLawfulBEq title list

/-! ## Apps -/

/-- The two messengers the service handles. -/
inductive App where
  | whatsApp
  | fbMessenger
  deriving DecidableEq, Repr

def App.packageName : App → String
  | .whatsApp    => "com.whatsapp"
  | .fbMessenger => "com.facebook.orca"

instance : Fintype App := ⟨{.whatsApp, .fbMessenger}, fun a => by cases a <;> simp⟩

/-- The tests `packageName.equals("com.whatsapp")` and `packageName.equals("com.facebook.orca")`. -/
def App.ofPackage (packageName : String) : Option App :=
  if packageName = "com.whatsapp" then some .whatsApp
  else if packageName = "com.facebook.orca" then some .fbMessenger
  else none

theorem App.ofPackage_eq_some {p : String} {a : App} :
    App.ofPackage p = some a ↔ p = a.packageName := by
  constructor
  · intro h
    unfold App.ofPackage at h
    split at h
    · rename_i hp
      obtain rfl := Option.some.inj h
      exact hp
    · split at h
      · rename_i hp
        obtain rfl := Option.some.inj h
        exact hp
      · exact absurd h (by simp)
  · rintro rfl
    cases a <;> decide

@[simp] theorem App.ofPackage_packageName (a : App) : App.ofPackage a.packageName = some a :=
  App.ofPackage_eq_some.mpr rfl

theorem App.packageName_inj {a b : App} (h : a.packageName = b.packageName) : a = b := by
  have hp := congrArg App.ofPackage h
  simpa using hp

/-! ## Broadcasts and preferences -/

/-- The four switches, and the broadcast action each one sends. -/
inductive Toggle where
  | assist
  | notify
  | whatsApp
  | fbMsg
  deriving DecidableEq, Repr

instance : Fintype Toggle :=
  ⟨{.assist, .notify, .whatsApp, .fbMsg}, fun t => by cases t <;> simp⟩

/-- The switch of an app. -/
def App.toggle : App → Toggle
  | .whatsApp    => .whatsApp
  | .fbMessenger => .fbMsg

/-- An intent with one of the four actions and its string extra. -/
structure Broadcast where
  action : Toggle
  extra  : String
  deriving DecidableEq, Repr

/-- `getStringExtra(..).equals("1")`. -/
def Broadcast.on (b : Broadcast) : Bool := b.extra == "1"

/-- The shared preferences, with the defaults their readers give. -/
structure Preferences where
  phone        : String := ""
  isLoggedIn   : Bool   := false
  isAssistOn   : Bool   := false
  isNotifyOn   : Bool   := false
  isWhatsAppOn : Bool   := false
  isFbMsgOn    : Bool   := false
  assistWaMsg  : String := ""
  assistFbMsg  : String := ""
  deriving DecidableEq, Repr

def Preferences.putBoolean (p : Preferences) (t : Toggle) (b : Bool) : Preferences :=
  match t with
  | .assist   => { p with isAssistOn := b }
  | .notify   => { p with isNotifyOn := b }
  | .whatsApp => { p with isWhatsAppOn := b }
  | .fbMsg    => { p with isFbMsgOn := b }

def Preferences.getBoolean (p : Preferences) : Toggle → Bool
  | .assist   => p.isAssistOn
  | .notify   => p.isNotifyOn
  | .whatsApp => p.isWhatsAppOn
  | .fbMsg    => p.isFbMsgOn

theorem Preferences.getBoolean_putBoolean (p : Preferences) (t t' : Toggle) (b : Bool) :
    (p.putBoolean t b).getBoolean t' = if t' = t then b else p.getBoolean t' := by
  cases t <;> cases t' <;> rfl

/-! ## Database paths -/

/-- The characters that the database takes in no path: `.`, `#`, `$`, `[` and `]`. -/
def isPathChar (c : Char) : Bool := !(c == '.' || c == '#' || c == '$' || c == '[' || c == ']')

/-- The node that a path names. Empty segments count for nothing. -/
def nodeOf (path : String) : String :=
  String.ofList (['/'].intercalate ((path.toList.splitOn '/').filter (· ≠ [])))

/-- The path of a phone number's data. -/
def rootPath (phone : String) : String := "notifyme/" ++ phone

/-- The database takes the path of this number. -/
def validRoot (phone : String) : Bool := (rootPath phone).toList.all isPathChar

/-- The node under which a service with this number attaches its listener. -/
def rootOf (phone : String) : String := nodeOf (rootPath phone)

def Preferences.location (p : Preferences) : String := rootOf p.phone

/-- The canned message of an app. -/
def Preferences.assistMsg (p : Preferences) : App → String
  | .whatsApp    => p.assistWaMsg
  | .fbMessenger => p.assistFbMsg

def Preferences.putAssistMsg (p : Preferences) (a : App) (message : String) : Preferences :=
  match a with
  | .whatsApp    => { p with assistWaMsg := message }
  | .fbMessenger => { p with assistFbMsg := message }

@[simp] theorem Preferences.putAssistMsg_getBoolean (p : Preferences) (a : App) (message : String)
    (t : Toggle) : (p.putAssistMsg a message).getBoolean t = p.getBoolean t := by
  cases a <;> cases t <;> rfl

/-! ## Values for runs -/

/-- A message of an app that can be answered through the intent `token`. -/
def App.message (a : App) (title text : String) (token : Nat) : StatusBarNotification where
  packageName := a.packageName
  extras      := { title := some title, text := some text }
  actions     := [some ⟨some [⟨"reply"⟩], some ⟨token⟩⟩]

/-- AssistBot mode, for WhatsApp. -/
def Preferences.assistBot : Preferences := { isAssistOn := true, isWhatsAppOn := true }

/-- Notify mode. -/
def Preferences.notifyMode : Preferences := { phone := "123456789", isNotifyOn := true }

end NotifyMe
