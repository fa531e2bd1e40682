import NotifyMe.Phone.Controls
import NotifyMe.Phone.CustomizationActivity
import NotifyMe.Phone.LoginActivity
import NotifyMe.Phone.NotificationAccess
import NotifyMe.Phone.ReplyCall

/-!
# `Phone.Device` — the whole app

The three activities, the service, and what is between them: the preferences, the broadcasts on their way, the
secure setting that lets the service listen.

* **The task.** `stack` has the instances of the activities, the one on the screen first. An instance is created some
  time after it has been started (`create`), and the user works with the one in front.
* **The gate.** `MainActivity` goes to the login screen unless somebody has logged in. Otherwise it looks whether the
  service may listen, and as long as it may not, its dialog is in the way of the switches.
* **The login screens** that have been created go on to be called after they have left the task. A login is stored
  whenever a sign-in succeeds, and starts another `MainActivity`.
* **The service** is created by the system, and receives broadcasts from then on; without it they are lost. The
  system can also destroy it while the process goes on: `onDestroy` takes the receiver away and nothing else, so what
  the service has asked for still comes back to it, and its listener is called as before (`destroyed`). When the user
  throws the app out of the recent ones, everything but the preferences and the setting is gone.

What has been put into the preferences is there from then on: the model has no power failures. Activities are not
re-created with a saved state.
-/

namespace NotifyMe

open Reactive

/-- What the system is asked to start. -/
inductive Intent where
  | main
  | login
  | customization (packageName : String)
  deriving DecidableEq, Repr

/-- Whether the service may listen, as far as a `MainActivity` has found out. -/
inductive Permission where
  | granted
  /-- The dialog is shown. -/
  | asking
  /-- The settings are shown, for a result. -/
  | settings
  deriving DecidableEq, Repr

inductive Activity where
  /-- Not created yet. -/
  | started (i : Intent)
  | main (m : MainActivity) (permission : Permission)
  /-- The instance with this number among the login screens. -/
  | login (i : Nat)
  | customization (c : CustomizationActivity)
  deriving DecidableEq, Repr

/-- `flat` is the secure setting, `running` says whether there is a service, `phone` is the service with the
    preferences, and `destroyed` are the services before it in this process. -/
structure Device where
  stack     : List Activity       := []
  logins    : List LoginScreen    := []
  assistMsg : AssistMsgs          := fun _ => none
  flat      : Option (List Char)  := none
  queue     : List Broadcast      := []
  running   : Bool                := false
  phone     : Phone               := {}
  destroyed : List Phone          := []

inductive DeviceEvent where
  /-- The user taps the icon of the app. -/
  | launch
  /-- The `j`-th activity of the task is created. -/
  | create (j : Nat)
  /-- The secure setting is changed. -/
  | setListeners (flat : Option (List Char))
  /-- The buttons of the dialog, and the way back from the settings. -/
  | openSettings
  | notNow
  | activityResult
  | tap (t : Toggle)
  /-- The button next to the switch of an app. -/
  | customize (a : App)
  | editAssist
  | typeAssist (text : String)
  | saveAssist
  | back
  /-- An event of a login screen. -/
  | login (i : Nat) (e : LoginEvent)
  /-- The oldest broadcast is delivered. -/
  | deliver
  /-- The system creates the service. -/
  | createService
  /-- An event of the service, other than a broadcast. -/
  | phone (e : PhoneEvent)
  /-- The system destroys the service. -/
  | destroyService
  /-- An event of the `k`-th service that has been destroyed. -/
  | afterDestroy (k : Nat) (e : PhoneEvent)
  /-- The user throws the app out of the recent ones. -/
  | kill
  deriving DecidableEq

inductive DeviceEffect where
  | phone (e : Effect)
  | login (e : LoginEffect)
  /-- A switch sends a broadcast. -/
  | sent (intent : Broadcast)
  /-- The service receives one. -/
  | received (intent : Broadcast)
  /-- A canned message is stored. -/
  | saved (a : App) (message : String)
  deriving DecidableEq

/-- The events at the activities; the others come from the system. -/
def DeviceEvent.atActivity : DeviceEvent → Bool
  | .setListeners _ | .deliver | .createService | .phone _ | .destroyService | .afterDestroy _ _ | .kill => false
  | _ => true

/-- The events for which the login screen has to be in front. -/
def LoginEvent.inFront : LoginEvent → Bool
  | .edit _ | .click | .start => true
  | _                         => false

namespace Device

def pkgName : List Char := "vishal.vaf.notifyme".toList

abbrev Result := Option (Device × List DeviceEffect)

/-- The activity on the screen gives way to others. -/
def replaceTop (s : Device) (as : List Activity) : Device := { s with stack := as ++ s.stack.tail }

/-- What `MainActivity` finds out about the service. -/
def permission (s : Device) : Permission :=
  if isNotificationServiceEnabled pkgName s.flat then .granted else .asking

/-- `onCreate` of the `j`-th activity. -/
def create (s : Device) (j : Nat) : Option Device :=
  match s.stack[j]? with
  | some (.started .main) =>
      if s.phone.prefs.isLoggedIn then
        some { s with stack := s.stack.set j (.main (MainActivity.created s.phone.prefs) s.permission) }
      else some { s with stack := .started .login :: s.stack.eraseIdx j }
  | some (.started .login) =>
      some { s with stack := s.stack.set j (.login s.logins.length), logins := s.logins ++ [{}] }
  | some (.started (.customization packageName)) =>
      some { s with stack := s.stack.set j (.customization (.onCreate s.assistMsg packageName)) }
  | _ => none

/-- A login is stored in the preferences; a number that is null leaves no entry. The screen is finished and a
    `MainActivity` started. -/
def storeLogin (s : Device) (i : Nat) (number : Option String) : Device :=
  { s with
    stack := .started .main :: s.stack.filter (· ≠ .login i)
    phone := s.phone.consume (.login (number.getD "")) }

def applyLogin (i : Nat) (s : Device) : LoginEffect → Device
  | .login number => s.storeLogin i number
  | _             => s

def loginStep [PhonePattern] (s : Device) (i : Nat) (e : LoginEvent) : Result :=
  if e.inFront = true ∧ s.stack.head? ≠ some (.login i) then none
  else s.logins[i]?.bind fun l => (l.step e).map fun r =>
    (r.2.foldl (applyLogin i) { s with logins := s.logins.set i r.1 }, r.2.map .login)

/-- The canned message goes into the preferences. -/
def storeMessage (s : Device) (a : App) (message : String) : Device :=
  { s with
    assistMsg := Function.update s.assistMsg a (some message)
    phone     := s.phone.consume (.customize a message) }

/-- What the user does with a `MainActivity` on the screen. -/
def mainStep (s : Device) (m : MainActivity) (p : Permission) : DeviceEvent → Result
  | .openSettings   => if p = .asking then some (s.replaceTop [.main m .settings], []) else none
  | .notNow         => if p = .asking then some (s.replaceTop [], []) else none
  | .activityResult => if p = .settings then some (s.replaceTop [.main m s.permission], []) else none
  | .tap t =>
      if p = .granted then ((MainActivity.toggle t).run m).map fun r =>
        ({ s.replaceTop [.main { r.2 with broadcasts := [] } p] with queue := s.queue ++ r.2.broadcasts },
          r.2.broadcasts.map .sent)
      else none
  | .customize a =>
      if p = .granted then
        some (s.replaceTop [.started (.customization a.extra), .main m p], [])
      else none
  | .back => if p = .granted then some (s.replaceTop [], []) else none
  | _ => none

/-- What the user does with a `CustomizationActivity` on the screen. Going back closes the dialog first. -/
def customizationStep (s : Device) (c : CustomizationActivity) : DeviceEvent → Result
  | .editAssist =>
      if c.assistMsg = none then some (s.replaceTop [.customization c.showAlertDialog], []) else none
  | .typeAssist text =>
      if c.assistMsg = none then none
      else some (s.replaceTop [.customization { c with assistMsg := some text }], [])
  | .saveAssist => c.save.map fun r =>
      match r.2 with
      | some (a, message) => ((s.replaceTop [.customization r.1]).storeMessage a message, [.saved a message])
      | none              => (s.replaceTop [.customization r.1], [])
  | .back =>
      if c.assistMsg = none then some (s.replaceTop [], [])
      else some (s.replaceTop [.customization { c with assistMsg := none }], [])
  | _ => none

/-- What the user does with the activity on the screen. -/
def screenStep (s : Device) (e : DeviceEvent) : Result :=
  match s.stack.head? with
  | some (.main m p)         => s.mainStep m p e
  | some (.customization c)  => s.customizationStep c e
  | some (.login _)          => if e = .back then some (s.replaceTop [], []) else none
  | some (.started _) | none => none

/-- A broadcast finds the service, or is lost. -/
def deliverStep [CaseMap] (s : Device) : Result :=
  match s.queue with
  | []             => none
  | intent :: rest =>
      if s.running then (s.phone.step (.broadcast intent)).map fun r =>
        ({ s with queue := rest, phone := r.1 }, .received intent :: r.2.map .phone)
      else some ({ s with queue := rest }, [])

/-- `onDestroy`. What the service knows and what it waits for stays with it. -/
def destroyService (s : Device) : Device :=
  { s with running := false, phone := Phone.created s.phone.prefs, destroyed := s.destroyed ++ [s.phone] }

/-- What the bot and the database call is called as before. A destroyed service reads the preferences as they are by
    then. -/
def afterDestroyStep [CaseMap] (s : Device) (k : Nat) (e : PhoneEvent) : Result :=
  if e.speaks then s.destroyed[k]?.bind fun p =>
    (Phone.step { p with prefs := s.phone.prefs } e).map fun r =>
      ({ s with destroyed := s.destroyed.set k r.1 }, r.2.map .phone)
  else none

def step [CaseMap] [PhonePattern] (s : Device) (e : DeviceEvent) : Result :=
  match e with
  | .launch =>
      -- a task that is there comes to the front as it is
      if s.stack = [] then some ({ s with stack := [.started .main] }, []) else none
  | .create j          => (s.create j).map (·, [])
  | .setListeners flat => some ({ s with flat := flat }, [])
  | .login i e         => s.loginStep i e
  | .deliver           => s.deliverStep
  | .createService =>
      if s.running then none else some ({ s with running := true, phone := Phone.created s.phone.prefs }, [])
  | .phone (.broadcast _) | .phone (.login _) | .phone (.customize _ _) => none
  | .phone e =>
      if s.running then (s.phone.step e).map fun r => ({ s with phone := r.1 }, r.2.map .phone) else none
  | .destroyService   => if s.running then some (s.destroyService, []) else none
  | .afterDestroy k e => s.afterDestroyStep k e
  | .kill =>
      some ({ assistMsg := s.assistMsg, flat := s.flat, phone := Phone.created s.phone.prefs }, [])
  | .openSettings | .notNow | .activityResult | .tap _ | .customize _ | .editAssist | .typeAssist _ | .saveAssist
  | .back => s.screenStep e

/-! ## What is on the screen, and behind it -/

def mainOf : Activity → Option MainActivity
  | .main m _ => some m
  | _         => none

/-- The app, and the text that is shown for it. -/
def shownOf : Activity → Option (App × String)
  | .customization c => (App.ofExtra c.packageName).map (·, c.assistBotText)
  | _                => none

def mains (s : Device) : List MainActivity := s.stack.filterMap mainOf

def shown (s : Device) : List (App × String) := s.stack.filterMap shownOf

/-- A step that leaves the service, the preferences and the broadcasts alone, and brings nothing new to the screen
    that an activity has read from them. -/
structure Quiet (s s' : Device) (os : List DeviceEffect) : Prop where
  mains     : s'.mains.Sublist s.mains
  shown     : s'.shown.Sublist s.shown
  granted   : ∀ m, Activity.main m .granted ∈ s'.stack →
    Activity.main m .granted ∈ s.stack ∨ s.permission = .granted ∧ ∃ p, Activity.main m p ∈ s.stack
  assistMsg : s'.assistMsg = s.assistMsg
  flat      : s'.flat = s.flat
  queue     : s'.queue = s.queue
  running   : s'.running = s.running
  phone     : s'.phone = s.phone
  destroyed : s'.destroyed = s.destroyed
  outputs   : ∀ o ∈ os, ∃ x, o = DeviceEffect.login x ∧ ∀ n, x ≠ .login n

/-- **What a step can do.** -/
inductive Stepped [CaseMap] (s s' : Device) : DeviceEvent → List DeviceEffect → Prop where
  | quiet {e os} (he : e.atActivity = true) (h : Quiet s s' os) : Stepped s s' e os
  | setListeners {flat} (hs : s' = { s with flat := flat }) : Stepped s s' (.setListeners flat) []
  | createMain {j l r} (hj : s.stack[j]? = some (.started .main)) (hstack : s.stack = l ++ .started .main :: r)
      (hin : s.phone.prefs.isLoggedIn = true)
      (hs : s' = { s with stack := l ++ .main (MainActivity.created s.phone.prefs) s.permission :: r }) :
      Stepped s s' (.create j) []
  | createCustomization {j l r packageName} (hj : s.stack[j]? = some (.started (.customization packageName)))
      (hstack : s.stack = l ++ .started (.customization packageName) :: r)
      (hs : s' = { s with stack := l ++ .customization (.onCreate s.assistMsg packageName) :: r }) :
      Stepped s s' (.create j) []
  | tap {t m m' rest} (htop : s.stack = .main m .granted :: rest)
      (hrun : (MainActivity.toggle t).run m = some ((), m'))
      (hs : s' = { s with
        stack := .main { m' with broadcasts := [] } .granted :: rest, queue := s.queue ++ m'.broadcasts }) :
      Stepped s s' (.tap t) (m'.broadcasts.map .sent)
  | stored {i e number logins} (hs : s' = { s.storeLogin i number with logins := logins }) :
      Stepped s s' (.login i e) [.login (.login number)]
  | saved {a c message rest} (htop : s.stack = .customization c :: rest) (ha : App.ofExtra c.packageName = some a)
      (hs : s' = { s.storeMessage a message with
        stack := .customization { c with assistBotText := message, assistMsg := none } :: rest }) :
      Stepped s s' .saveAssist [.saved a message]
  | delivered {intent rest p es} (hq : s.queue = intent :: rest) (hrun : s.running = true)
      (hp : s.phone.step (.broadcast intent) = some (p, es)) (hs : s' = { s with queue := rest, phone := p }) :
      Stepped s s' .deliver (.received intent :: es.map .phone)
  | lost {intent rest} (hq : s.queue = intent :: rest) (hrun : s.running = false)
      (hs : s' = { s with queue := rest }) : Stepped s s' .deliver []
  | created (hrun : s.running = false)
      (hs : s' = { s with running := true, phone := Phone.created s.phone.prefs }) : Stepped s s' .createService []
  | phone {e p es} (hrun : s.running = true) (hin : ∀ intent, e ≠ .broadcast intent)
      (hlogin : ∀ number, e ≠ .login number) (hcustom : ∀ a message, e ≠ .customize a message)
      (hp : s.phone.step e = some (p, es)) (hs : s' = { s with phone := p }) :
      Stepped s s' (.phone e) (es.map .phone)
  | destroyed (hrun : s.running = true) (hs : s' = s.destroyService) : Stepped s s' .destroyService []
  | afterDestroy {k e p p' es} (hlate : e.speaks = true) (hk : s.destroyed[k]? = some p)
      (hp : Phone.step { p with prefs := s.phone.prefs } e = some (p', es))
      (hs : s' = { s with destroyed := s.destroyed.set k p' }) : Stepped s s' (.afterDestroy k e) (es.map .phone)
  | killed (hs : s' = { assistMsg := s.assistMsg, flat := s.flat, phone := Phone.created s.phone.prefs }) :
      Stepped s s' .kill []

section Steps

variable [CaseMap] {s s' : Device} {os : List DeviceEffect}

omit [CaseMap] in
/-- Other activities in the place of the one on the screen. -/
theorem quiet_replaceTop {a : Activity} {as rest : List Activity} (htop : s.stack = a :: rest)
    (hmains : (as.filterMap mainOf).Sublist ([a].filterMap mainOf))
    (hshown : (as.filterMap shownOf).Sublist ([a].filterMap shownOf))
    (hgranted : ∀ m, Activity.main m .granted ∈ as →
      a = .main m .granted ∨ s.permission = .granted ∧ ∃ p, a = .main m p) : Quiet s (s.replaceTop as) [] where
  mains := by
    show ((as ++ s.stack.tail).filterMap mainOf).Sublist (s.stack.filterMap mainOf)
    rw [htop, List.filterMap_append, ← List.singleton_append, List.filterMap_append]
    exact hmains.append (List.Sublist.refl _)
  shown := by
    show ((as ++ s.stack.tail).filterMap shownOf).Sublist (s.stack.filterMap shownOf)
    rw [htop, List.filterMap_append, ← List.singleton_append, List.filterMap_append]
    exact hshown.append (List.Sublist.refl _)
  granted := by
    intro m hm
    rw [htop]
    rcases List.mem_append.mp hm with hm | hm
    · rcases hgranted m hm with rfl | ⟨hperm, p, rfl⟩
      · exact Or.inl (by simp)
      · exact Or.inr ⟨hperm, p, by simp⟩
    · rw [htop] at hm
      exact Or.inl (List.mem_cons_of_mem _ hm)
  assistMsg := rfl
  flat      := rfl
  queue     := rfl
  running   := rfl
  phone     := rfl
  destroyed := rfl
  outputs   := by simp

omit [CaseMap] in
theorem stack_split {j : Nat} {a : Activity} (hj : s.stack[j]? = some a) :
    ∃ l r, s.stack = l ++ a :: r ∧ s.stack.eraseIdx j = l ++ r ∧ ∀ b, s.stack.set j b = l ++ b :: r := by
  obtain ⟨hlt, rfl⟩ := List.getElem?_eq_some_iff.mp hj
  have hsplit : s.stack = s.stack.take j ++ s.stack[j] :: s.stack.drop (j + 1) := by
    rw [List.cons_getElem_drop_succ, List.take_append_drop]
  refine ⟨s.stack.take j, s.stack.drop (j + 1), hsplit, List.eraseIdx_eq_take_drop_succ s.stack j, fun b => ?_⟩
  rw [List.set_eq_take_append_cons_drop, if_pos hlt]

theorem step_create {j : Nat} (h : s.create j = some s') : Stepped s s' (.create j) [] := by
  -- an activity without anything to show takes the place of one that has not been created
  have hquiet : ∀ {a b : Activity} {l r : List Activity} {logins : List LoginScreen}, s.stack = l ++ a :: r →
      mainOf b = none → shownOf b = none → Quiet s { s with stack := l ++ b :: r, logins := logins } [] := by
    intro a b l r logins hstack hmain hshow
    refine ⟨?_, ?_, fun m hm => ?_, rfl, rfl, rfl, rfl, rfl, rfl, by simp⟩
    · show ((l ++ b :: r).filterMap mainOf).Sublist (s.stack.filterMap mainOf)
      rw [hstack, List.filterMap_append, List.filterMap_cons_none hmain, List.filterMap_append]
      exact (List.Sublist.refl _).append ((List.sublist_cons_self a r).filterMap mainOf)
    · show ((l ++ b :: r).filterMap shownOf).Sublist (s.stack.filterMap shownOf)
      rw [hstack, List.filterMap_append, List.filterMap_cons_none hshow, List.filterMap_append]
      exact (List.Sublist.refl _).append ((List.sublist_cons_self a r).filterMap shownOf)
    · rw [hstack]
      rcases List.mem_append.mp hm with hm | hm
      · exact Or.inl (List.mem_append_left _ hm)
      · rcases List.mem_cons.mp hm with rfl | hm
        · exact absurd hmain (by simp [mainOf])
        · exact Or.inl (List.mem_append_right _ (List.mem_cons_of_mem a hm))
  unfold create at h
  split at h
  · rename_i hj
    obtain ⟨l, r, hstack, herase, hset⟩ := stack_split hj
    split at h
    · rename_i hin
      obtain rfl := Option.some.inj h
      rw [hset]
      exact .createMain hj hstack hin rfl
    · obtain rfl := Option.some.inj h
      rw [herase]
      refine .quiet rfl ⟨?_, ?_, fun m hm => ?_, rfl, rfl, rfl, rfl, rfl, rfl, by simp⟩
      · show ((l ++ r).filterMap mainOf).Sublist (s.stack.filterMap mainOf)
        rw [hstack]
        exact ((List.sublist_cons_self _ r).append_left l).filterMap mainOf
      · show ((l ++ r).filterMap shownOf).Sublist (s.stack.filterMap shownOf)
        rw [hstack]
        exact ((List.sublist_cons_self _ r).append_left l).filterMap shownOf
      · rw [hstack]
        rcases List.mem_cons.mp hm with hm | hm
        · exact absurd hm (by simp)
        · exact Or.inl (((List.sublist_cons_self _ r).append_left l).subset hm)
  · rename_i hj
    obtain ⟨l, r, hstack, _, hset⟩ := stack_split hj
    obtain rfl := Option.some.inj h
    rw [hset]
    exact .quiet rfl (hquiet hstack rfl rfl)
  · rename_i packageName hj
    obtain ⟨l, r, hstack, _, hset⟩ := stack_split hj
    obtain rfl := Option.some.inj h
    rw [hset]
    exact .createCustomization hj hstack rfl
  · exact absurd h (by simp)

omit [CaseMap] in
/-- What a login screen asks for, and that only a successful sign-in stores a login. -/
theorem login_effects [PhonePattern] {l : LoginScreen} {r : LoginScreen × List LoginEffect} {e : LoginEvent}
    (h : l.step e = some r) : (∃ number, r.2 = [.login number]) ∨ ∀ n, LoginEffect.login n ∉ r.2 := by
  obtain ⟨l', es⟩ := r
  obtain ⟨_, hh, _, _⟩ := LoginScreen.step_handled h
  cases hh with
  | signedIn hc => exact Or.inl ⟨_, rfl⟩
  | _ => exact Or.inr (by simp)

theorem step_login [PhonePattern] {i : Nat} {e : LoginEvent} (h : s.loginStep i e = some (s', os)) :
    Stepped s s' (.login i e) os := by
  unfold loginStep at h
  split at h
  · exact absurd h (by simp)
  · obtain ⟨l, _, hmap⟩ := Option.bind_eq_some_iff.mp h
    obtain ⟨r, hr, hp⟩ := Option.map_eq_some_iff.mp hmap
    obtain ⟨rfl, rfl⟩ := Prod.mk.inj hp
    rcases login_effects hr with ⟨number, hes⟩ | hnone
    · rw [hes]
      exact .stored rfl
    · have hfold : ∀ es : List LoginEffect, (∀ n, LoginEffect.login n ∉ es) → ∀ d : Device,
          es.foldl (applyLogin i) d = d := by
        intro es hes d
        induction es with
        | nil => rfl
        | cons x es ih =>
            have hx : applyLogin i d x = d := by
              cases x with
              | login n => exact absurd List.mem_cons_self (hes n)
              | _ => rfl
            rw [List.foldl_cons, hx]
            exact ih fun n hn => hes n (List.mem_cons_of_mem x hn)
      rw [hfold r.2 hnone]
      refine .quiet rfl ⟨List.Sublist.refl _, List.Sublist.refl _, fun m hm => Or.inl hm, rfl, rfl, rfl, rfl,
        rfl, rfl, ?_⟩
      intro o ho
      obtain ⟨x, hx, rfl⟩ := List.mem_map.mp ho
      exact ⟨x, rfl, fun n hn => hnone n (hn ▸ hx)⟩

theorem step_main {e : DeviceEvent} {m : MainActivity} {p : Permission} {rest : List Activity}
    (htop : s.stack = .main m p :: rest) (h : s.mainStep m p e = some (s', os)) : Stepped s s' e os := by
  -- the activity stays, or gives way to one that shows nothing
  have hkeep : ∀ {as}, (as = [] ∨ ∃ a, mainOf a = none ∧ shownOf a = none ∧ as = [a, .main m p]) →
      Quiet s (s.replaceTop as) [] := by
    rintro as (rfl | ⟨a, hmain, hshow, rfl⟩)
    · exact quiet_replaceTop htop (by simp) (by simp) (by simp)
    · refine quiet_replaceTop htop (by simp [hmain]) (by simp [hshow]) fun m' hm' => ?_
      rcases List.mem_cons.mp hm' with rfl | hm'
      · exact absurd hmain (by simp [mainOf])
      · exact Or.inl (List.mem_singleton.mp hm').symm
  cases e with
  | openSettings =>
      obtain ⟨rfl, hs⟩ := Option.ite_none_right_eq_some.mp h
      obtain ⟨rfl, rfl⟩ := Prod.mk.inj (Option.some.inj hs)
      exact .quiet rfl (quiet_replaceTop htop (List.Sublist.refl _) (List.Sublist.refl _) (by simp))
  | notNow =>
      obtain ⟨_, hs⟩ := Option.ite_none_right_eq_some.mp h
      obtain ⟨rfl, rfl⟩ := Prod.mk.inj (Option.some.inj hs)
      exact .quiet rfl (hkeep (Or.inl rfl))
  | activityResult =>
      obtain ⟨rfl, hs⟩ := Option.ite_none_right_eq_some.mp h
      obtain ⟨rfl, rfl⟩ := Prod.mk.inj (Option.some.inj hs)
      refine .quiet rfl (quiet_replaceTop htop (List.Sublist.refl _) (List.Sublist.refl _) fun m' hm' => ?_)
      obtain ⟨rfl, hperm⟩ := Activity.main.inj (List.mem_singleton.mp hm')
      exact Or.inr ⟨hperm.symm, _, rfl⟩
  | tap t =>
      obtain ⟨rfl, hs⟩ := Option.ite_none_right_eq_some.mp h
      obtain ⟨⟨_, m'⟩, hrun, hr⟩ := Option.map_eq_some_iff.mp hs
      obtain ⟨rfl, rfl⟩ := Prod.mk.inj hr
      refine .tap htop hrun ?_
      rw [replaceTop, htop]
      rfl
  | customize a =>
      obtain ⟨rfl, hs⟩ := Option.ite_none_right_eq_some.mp h
      obtain ⟨rfl, rfl⟩ := Prod.mk.inj (Option.some.inj hs)
      exact .quiet rfl (hkeep (Or.inr ⟨_, rfl, rfl, rfl⟩))
  | back =>
      obtain ⟨_, hs⟩ := Option.ite_none_right_eq_some.mp h
      obtain ⟨rfl, rfl⟩ := Prod.mk.inj (Option.some.inj hs)
      exact .quiet rfl (hkeep (Or.inl rfl))
  | _ => exact absurd h (by simp [mainStep])

theorem step_customization {e : DeviceEvent} {c : CustomizationActivity} {rest : List Activity}
    (htop : s.stack = .customization c :: rest) (h : s.customizationStep c e = some (s', os)) :
    Stepped s s' e os := by
  -- the text that is shown stays, or the activity goes
  have hkeep : ∀ {as}, (as = [] ∨ ∃ c', shownOf (.customization c') = shownOf (.customization c) ∧
      as = [.customization c']) → Quiet s (s.replaceTop as) [] := by
    rintro as (rfl | ⟨c', hshow, rfl⟩)
    · exact quiet_replaceTop htop (by simp) (by simp) (by simp)
    · exact quiet_replaceTop htop (List.Sublist.refl _) (by simp [List.filterMap, hshow]) (by simp)
  cases e with
  | editAssist =>
      obtain ⟨_, hs⟩ := Option.ite_none_right_eq_some.mp h
      obtain ⟨rfl, rfl⟩ := Prod.mk.inj (Option.some.inj hs)
      exact .quiet rfl (hkeep (Or.inr ⟨c.showAlertDialog, rfl, rfl⟩))
  | typeAssist text =>
      obtain ⟨_, hs⟩ := Option.ite_none_left_eq_some.mp h
      obtain ⟨rfl, rfl⟩ := Prod.mk.inj (Option.some.inj hs)
      exact .quiet rfl (hkeep (Or.inr ⟨{ c with assistMsg := some text }, rfl, rfl⟩))
  | saveAssist =>
      obtain ⟨r, hr, hs⟩ := Option.map_eq_some_iff.mp h
      obtain ⟨text, _, rfl⟩ := Option.map_eq_some_iff.mp hr
      cases ha : App.ofExtra c.packageName with
      | none =>
          simp only [ha, Option.map_none] at hs
          obtain ⟨rfl, rfl⟩ := Prod.mk.inj hs
          exact .quiet rfl (hkeep (Or.inr ⟨_, by simp [shownOf, ha], rfl⟩))
      | some a =>
          simp only [ha, Option.map_some] at hs
          obtain ⟨rfl, rfl⟩ := Prod.mk.inj hs
          refine .saved htop ha ?_
          rw [replaceTop, htop]
          rfl
  | back =>
      simp only [customizationStep] at h
      split at h
      · obtain ⟨rfl, rfl⟩ := Prod.mk.inj (Option.some.inj h)
        exact .quiet rfl (hkeep (Or.inl rfl))
      · obtain ⟨rfl, rfl⟩ := Prod.mk.inj (Option.some.inj h)
        exact .quiet rfl (hkeep (Or.inr ⟨{ c with assistMsg := none }, rfl, rfl⟩))
  | _ => exact absurd h (by simp [customizationStep])

theorem step_screen {e : DeviceEvent} (h : s.screenStep e = some (s', os)) : Stepped s s' e os := by
  unfold screenStep at h
  split at h
  · rename_i m p hhead
    obtain ⟨rest, htop⟩ := List.head?_eq_some_iff.mp hhead
    exact step_main htop h
  · rename_i c hhead
    obtain ⟨rest, htop⟩ := List.head?_eq_some_iff.mp hhead
    exact step_customization htop h
  · rename_i i hhead
    obtain ⟨rest, htop⟩ := List.head?_eq_some_iff.mp hhead
    obtain ⟨rfl, hs⟩ := Option.ite_none_right_eq_some.mp h
    obtain ⟨rfl, rfl⟩ := Prod.mk.inj (Option.some.inj hs)
    exact .quiet rfl (quiet_replaceTop htop (by simp) (by simp) (by simp))
  · exact absurd h (by simp)
  · exact absurd h (by simp)

theorem step_deliver (h : s.deliverStep = some (s', os)) : Stepped s s' .deliver os := by
  unfold deliverStep at h
  split at h
  · exact absurd h (by simp)
  · rename_i intent rest hq
    split at h
    · rename_i hrun
      obtain ⟨⟨p, es⟩, hp, hr⟩ := Option.map_eq_some_iff.mp h
      obtain ⟨rfl, rfl⟩ := Prod.mk.inj hr
      exact .delivered hq hrun hp rfl
    · rename_i hrun
      obtain ⟨rfl, rfl⟩ := Prod.mk.inj (Option.some.inj h)
      exact .lost hq (by simpa using hrun) rfl

theorem step_afterDestroy {k : Nat} {e : PhoneEvent} (h : s.afterDestroyStep k e = some (s', os)) :
    Stepped s s' (.afterDestroy k e) os := by
  obtain ⟨hlate, hs⟩ := Option.ite_none_right_eq_some.mp h
  obtain ⟨p, hk, hmap⟩ := Option.bind_eq_some_iff.mp hs
  obtain ⟨⟨p', es⟩, hp, hr⟩ := Option.map_eq_some_iff.mp hmap
  obtain ⟨rfl, rfl⟩ := Prod.mk.inj hr
  exact .afterDestroy hlate hk hp rfl

theorem stepped [PhonePattern] {e : DeviceEvent} (h : s.step e = some (s', os)) : Stepped s s' e os := by
  cases e with
  | launch =>
      obtain ⟨hstack, hs⟩ := Option.ite_none_right_eq_some.mp h
      obtain ⟨rfl, rfl⟩ := Prod.mk.inj (Option.some.inj hs)
      exact .quiet rfl ⟨List.nil_sublist _, List.nil_sublist _, by simp, rfl, rfl, rfl, rfl, rfl, rfl, by simp⟩
  | create j =>
      obtain ⟨d, hd, hp⟩ := Option.map_eq_some_iff.mp h
      obtain ⟨rfl, rfl⟩ := Prod.mk.inj hp
      exact step_create hd
  | setListeners flat =>
      obtain ⟨rfl, rfl⟩ := Prod.mk.inj (Option.some.inj h)
      exact .setListeners rfl
  | login i e => exact step_login h
  | deliver => exact step_deliver h
  | createService =>
      obtain ⟨hrun, hs⟩ := Option.ite_none_left_eq_some.mp h
      obtain ⟨rfl, rfl⟩ := Prod.mk.inj (Option.some.inj hs)
      exact .created (by simpa using hrun) rfl
  | phone e =>
      have hin : ∀ intent, e ≠ .broadcast intent := by
        rintro intent rfl
        exact absurd h (by simp [step])
      have hlogin : ∀ number, e ≠ .login number := by
        rintro number rfl
        exact absurd h (by simp [step])
      have hcustom : ∀ a message, e ≠ .customize a message := by
        rintro a message rfl
        exact absurd h (by simp [step])
      have hmap : (if s.running then (s.phone.step e).map fun r =>
          (({ s with phone := r.1 } : Device), r.2.map DeviceEffect.phone) else none) = some (s', os) := by
        cases e with
        | broadcast intent => exact absurd rfl (hin intent)
        | login number => exact absurd rfl (hlogin number)
        | customize a message => exact absurd rfl (hcustom a message)
        | _ => exact h
      obtain ⟨hrun, hs⟩ := Option.ite_none_right_eq_some.mp hmap
      obtain ⟨⟨p, es⟩, hp, hr⟩ := Option.map_eq_some_iff.mp hs
      obtain ⟨rfl, rfl⟩ := Prod.mk.inj hr
      exact .phone hrun hin hlogin hcustom hp rfl
  | destroyService =>
      obtain ⟨hrun, hs⟩ := Option.ite_none_right_eq_some.mp h
      obtain ⟨rfl, rfl⟩ := Prod.mk.inj (Option.some.inj hs)
      exact .destroyed hrun rfl
  | afterDestroy k e => exact step_afterDestroy h
  | kill =>
      obtain ⟨rfl, rfl⟩ := Prod.mk.inj (Option.some.inj h)
      exact .killed rfl
  | openSettings | notNow | activityResult | tap _ | customize _ | editAssist | typeAssist _ | saveAssist
  | back => exact step_screen h

end Steps

end Device

/-- **The app as a machine.** -/
def deviceMachine [CaseMap] [PhonePattern] : Machine Device DeviceEvent DeviceEffect := ⟨Device.step⟩

end NotifyMe
