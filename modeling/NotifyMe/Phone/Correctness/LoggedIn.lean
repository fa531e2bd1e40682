import NotifyMe.Phone.Lifecycle

/-!
# `LoggedIn` — the account the service talks to

A login stores the phone number in the preferences. The service copies it when it is connected, and builds
its database reference from the copy when it attaches the listener: at the connect in Notify mode, and
later whenever the mode is turned on. A login in between goes unnoticed.

`addressed_iff` says exactly when everything the service writes, and every registration, is under the
number of the latest login: the copy is up to date when the listener is attached, and the reference when
something is written.
-/

namespace NotifyMe
namespace LoggedIn

open Reactive Phone Service

/-! ## Where an event writes -/

/-- The locations that effects write to or attach the listener at. -/
def addresses (es : List Effect) : List String :=
  es.filterMap fun
    | .setApp location _      => some location
    | .setRemoveId location _ => some location
    | .addListener location   => some location
    | _                       => none

/-- The location that an event writes to, or attaches the listener at. -/
def addressOf [CaseMap] (p : Phone) : PhoneEvent → Option String
  | .posted sbn _ => if mirrorId p.service sbn ≠ none then p.service.reference else none
  | .removed sbn  =>
      if p.service.isNotifyEnabled = true ∧ App.ofPackage sbn.packageName ≠ none then
        p.service.reference
      else none
  | e => p.attachesTo e

section Steps

variable [CaseMap] {p p' : Phone} {e : PhoneEvent} {es : List Effect}

theorem posted_addresses (p : Phone) (sbn : StatusBarNotification) (success : Bool) :
    addresses (p.service.onNotificationPosted p.prefs sbn success).effects =
      (addressOf p (.posted sbn success)).toList := by
  simp only [addressOf]
  cases hid : mirrorId p.service sbn with
  | some id =>
      obtain ⟨title, reference, hm⟩ := onNotificationPosted_mirrors p.prefs success hid
      rw [if_pos (by simp), hm.effects_eq, hm.reference_eq]
      rfl
  | none =>
      rw [if_neg (by simp)]
      cases onNotificationPosted_spec p.prefs p.service sbn success with
      | quiet hq => rw [hq.2]; rfl
      | greet _ hg => rw [hg.answers.effects_eq]; rfl
      | ask ha => rcases ha.effects_eq with ⟨_, he⟩ | ⟨_, _, _, he⟩ <;> rw [he] <;> rfl
      | mirror title reference hassist hnotify hm =>
          have hsome := hm.mirrorId_eq hassist hnotify
          exact absurd (hid.symm.trans hsome) (by simp)

theorem removed_addresses {sbn : StatusBarNotification}
    (ht : (p.service.onNotificationRemoved sbn).thrown = none) :
    addresses (p.service.onNotificationRemoved sbn).effects = (addressOf p (.removed sbn)).toList := by
  simp only [addressOf]
  split
  · rename_i hpass
    obtain ⟨title, location, _, href, he⟩ := onNotificationRemoved_passes hpass.1 hpass.2 ht
    rw [he, href]
    rfl
  · rename_i hpass
    unfold onNotificationRemoved
    by_cases hn : p.service.isNotifyEnabled = true
    · have happ : App.ofPackage sbn.packageName = none := by simpa [hn] using hpass
      rw [if_pos hn, happ]
      rfl
    · rw [if_neg hn]
      rfl

theorem received_addresses {intent : Broadcast} {o : Outcome} (hr : Received p.service intent o) :
    addresses o.effects = (addressOf p (.broadcast intent)).toList := by
  cases hr with
  | assist ha _ he => rw [he]; simp [addresses, addressOf, attachesTo, ha]
  | notifyOn ha hon _ he => rw [he]; simp [addresses, addressOf, attachesTo, ha, hon]
  | notifyOff _ ha hoff _ _ he => rw [he]; simp [addresses, addressOf, attachesTo, hoff]
  | appOn a ha _ _ he => rw [he]; cases a <;> simp [addresses, addressOf, attachesTo, ha, App.toggle]
  | appOff a ha hoff _ he => rw [he]; simp [addresses, addressOf, attachesTo, hoff]

/-- **A step writes where its event is addressed.** -/
theorem step_addresses (hs : p.step e = some (p', es)) : addresses es = (addressOf p e).toList := by
  obtain ⟨o, ho, hp⟩ := Option.bind_eq_some_iff.mp hs
  obtain ⟨ht, rfl, _⟩ := perform_eq_some.mp hp
  have hsent : ∀ {target senderName packageName message notifId success sent},
      Answers p.service target senderName packageName message notifId success o sent →
        addresses o.effects = [] := fun ha => by rw [ha.effects_eq]; rfl
  cases e with
  | listenerConnected =>
      obtain rfl := Option.some.inj ho
      show addresses _ = (p.attachesTo .listenerConnected).toList
      cases onListenerConnected_spec p.prefs p.service with
      | on hon _ hc => rw [hc, attachesTo, if_pos hon]; rfl
      | refused _ _ hc => exact absurd ht (by simp [hc])
      | off hoff hc => rw [hc, attachesTo, if_neg (by simp [hoff])]; rfl
  | listenerDisconnected =>
      obtain rfl := Option.some.inj ho
      obtain ⟨location, _, heq⟩ := onListenerDisconnected_spec ht
      rw [heq]
      rfl
  | broadcast intent =>
      obtain rfl := Option.some.inj ho
      exact received_addresses (onReceive_spec ht)
  | posted sbn success =>
      obtain rfl := Option.some.inj ho
      exact posted_addresses p sbn success
  | removed sbn =>
      obtain rfl := Option.some.inj ho
      exact removed_addresses ht
  | botResponse i aiResponse success =>
      obtain ⟨r, _, rfl⟩ := Option.map_eq_some_iff.mp ho
      rcases onPostExecute_spec p.prefs p.service r aiResponse success with hq | ⟨_, _, _, ha⟩
      · rw [hq.2]
        rfl
      · exact hsent ha
  | dataChange i object success =>
      obtain ⟨_, _, rfl⟩ := Option.map_eq_some_iff.mp ho
      rcases onDataChange_spec p.prefs p.service object success with
        hq | ⟨_, _, _, _, _, _, _, ha⟩
      · rw [hq.2]
        rfl
      · exact hsent ha
  | login _ | customize _ _ =>
      obtain rfl := Option.some.inj ho
      rfl

end Steps

/-! ## The three numbers -/

/-- The number in the preferences, and whether a login stored it; the service's copy of it; and the one the
    listener was last attached with. -/
structure Numbers where
  stored   : String
  loggedIn : Bool
  copied   : String := ""
  attached : String := ""
  deriving DecidableEq

def Numbers.after (n : Numbers) (x : PhoneEvent × List Effect) : Numbers :=
  match x.1 with
  | .login phone       => { n with stored := phone, loggedIn := true }
  | .listenerConnected =>
      -- in Notify mode the connect attaches the listener
      { n with copied := n.stored, attached := if x.2 = [] then n.attached else n.stored }
  | .broadcast intent  =>
      if intent.action = .notify ∧ intent.on = true then { n with attached := n.copied } else n
  | _ => n

def numbers (prefs : Preferences) (tr : Trace PhoneEvent Effect) : Numbers :=
  tr.foldl Numbers.after { stored := prefs.phone, loggedIn := prefs.isLoggedIn }

/-- The number that the latest completed login has stored. -/
def Numbers.latest (n : Numbers) : Option String := if n.loggedIn then some n.stored else none

/-- **The service talks to the account that is logged in.** -/
def Addressed (prefs : Preferences) (tr : Trace PhoneEvent Effect) : Prop :=
  ∀ l x r, tr = l ++ x :: r → ∀ location ∈ addresses x.2, ∀ number ∈ (numbers prefs l).latest,
    location = rootOf number

/-- The number that an event makes the service use is the one in the preferences, or names the same node. -/
def UpToDate [CaseMap] (n : Numbers) (p : Phone) : PhoneEvent → Prop
  | .broadcast intent => intent.action = .notify ∧ intent.on = true → rootOf n.copied = rootOf n.stored
  | .posted sbn _     => mirrorId p.service sbn ≠ none → rootOf n.attached = rootOf n.stored
  | .removed sbn      =>
      p.service.isNotifyEnabled = true ∧ App.ofPackage sbn.packageName ≠ none →
        rootOf n.attached = rootOf n.stored
  | _ => True

/-- **The condition**, once a login has completed: Notify mode is turned on only while the copy names the node
    of the latest login's number, and in the mode notifications come and go only while the listener is attached
    there. -/
def Current [CaseMap] (prefs : Preferences) : Guard Phone PhoneEvent Effect := fun tr p e =>
  (numbers prefs tr).loggedIn = true → UpToDate (numbers prefs tr) p e

/-- The numbers are where the history says. -/
structure Tracked (prefs : Preferences) (tr : Trace PhoneEvent Effect) (p : Phone) : Prop where
  stored   : p.prefs.phone = (numbers prefs tr).stored
  copied   : p.service.phoneNumber = (numbers prefs tr).copied
  attached : ∀ location ∈ p.service.reference, location = rootOf (numbers prefs tr).attached

theorem tracked_created (prefs : Preferences) : Tracked prefs [] (created prefs) where
  stored   := rfl
  copied   := rfl
  attached := by simp [created]

theorem numbers_snoc (prefs : Preferences) (tr : Trace PhoneEvent Effect)
    (x : PhoneEvent × List Effect) : numbers prefs (tr ++ [x]) = (numbers prefs tr).after x := by
  simp [numbers, List.foldl_append]

theorem addressed_snoc {prefs : Preferences} {tr : Trace PhoneEvent Effect} {e : PhoneEvent}
    {es : List Effect} : Addressed prefs (tr ++ [(e, es)]) ↔ Addressed prefs tr ∧
      ∀ location ∈ addresses es, ∀ number ∈ (numbers prefs tr).latest,
        location = rootOf number := by
  constructor
  · intro h
    refine ⟨fun l x r htr => h l x (r ++ [(e, es)]) (by simp [htr]), h tr (e, es) [] rfl⟩
  · rintro ⟨hpre, hlast⟩ l x r htr
    rcases List.eq_nil_or_concat r with rfl | ⟨r', y, rfl⟩
    · obtain ⟨rfl, hx⟩ := List.append_inj' htr rfl
      obtain rfl := List.head_eq_of_cons_eq hx
      exact hlast
    · have hassoc : l ++ x :: (r' ++ [y]) = (l ++ x :: r') ++ [y] := by simp
      rw [List.concat_eq_append, hassoc] at htr
      exact hpre l x r' (List.append_inj' htr rfl).1

/-- An address made of a number is the right one iff the number is. -/
theorem address_iff {c : Prop} [Decidable c] {o : Option String} {number latest : String}
    (ho : c → o = some (rootOf number)) :
    (c → rootOf number = rootOf latest) ↔
      ∀ location ∈ (if c then o else none).toList, location = rootOf latest := by
  by_cases hc : c
  · rw [if_pos hc, ho hc]
    simp [hc]
  · rw [if_neg hc]
    simp [hc]

theorem Tracked.reference_eq {prefs : Preferences}
    {tr : Trace PhoneEvent Effect} {p : Phone} (h : Tracked prefs tr p)
    (href : p.service.reference ≠ none) :
    p.service.reference = some (rootOf (numbers prefs tr).attached) := by
  obtain ⟨location, hloc⟩ := Option.ne_none_iff_exists'.mp href
  rw [hloc, h.attached location hloc]

section Runs

variable [CaseMap] {prefs : Preferences} {tr : Trace PhoneEvent Effect} {p p' : Phone}
  {e : PhoneEvent} {es : List Effect}

/-- The condition is that the event is addressed to the latest number. -/
theorem current_iff (h : Tracked prefs tr p)
    (hnotify : p.service.isNotifyEnabled = true → p.service.reference ≠ none)
    (hs : p.step e = some (p', es)) :
    Current prefs tr p e ↔ ∀ location ∈ addresses es, ∀ number ∈ (numbers prefs tr).latest,
      location = rootOf number := by
  rw [step_addresses hs]
  show (_ → UpToDate _ p e) ↔ _
  cases hlog : (numbers prefs tr).loggedIn with
  | false => simp [Numbers.latest, hlog]
  | true =>
      simp only [Numbers.latest, hlog, if_true, forall_const, Option.mem_def, Option.some.injEq,
        forall_eq']
      cases e with
      | listenerConnected =>
          -- the number is read just before it is used
          exact ⟨fun _ => (address_iff fun _ => rfl).mp fun _ => by rw [h.stored], fun _ => trivial⟩
      | broadcast intent => exact address_iff fun _ => by rw [h.copied]
      | posted sbn success =>
          refine address_iff fun hid => h.reference_eq fun href => ?_
          simp [mirrorId, href] at hid
      | removed sbn => exact address_iff fun hpass => h.reference_eq (hnotify hpass.1)
      | _ => simp [UpToDate, addressOf, attachesTo]

/-- Only a login stores a number. -/
theorem Tracked.stored_step (h : Tracked prefs tr p) (hs : p.step e = some (p', es)) :
    p'.prefs.phone = ((numbers prefs tr).after (e, es)).stored := by
  rw [step_prefs_phone hs]
  cases e with
  | login phone => rfl
  | customize a message => cases a <;> exact h.stored
  | broadcast intent =>
      simp only [Numbers.after]
      split <;> exact h.stored
  | _ => exact h.stored

/-- Only a connect copies it. -/
theorem Tracked.copied_step (h : Tracked prefs tr p) (hs : p.step e = some (p', es)) :
    p'.service.phoneNumber = ((numbers prefs tr).after (e, es)).copied := by
  rw [step_phoneNumber hs]
  cases e with
  | listenerConnected => exact h.stored
  | broadcast intent =>
      rw [if_neg (by simp)]
      simp only [Numbers.after]
      split <;> exact h.copied
  | _ => exact h.copied

/-- The reference is built from the stored number by a connect, and from the copy by a broadcast. -/
theorem Tracked.attached_step (h : Tracked prefs tr p) (hs : p.step e = some (p', es)) {location : String}
    (hloc : p'.service.reference = some location) :
    location = rootOf ((numbers prefs tr).after (e, es)).attached := by
  -- where the reference stays, so does the number it was built from
  have hkeep : p'.service.reference = p.service.reference →
      ((numbers prefs tr).after (e, es)).attached = (numbers prefs tr).attached →
      location = rootOf ((numbers prefs tr).after (e, es)).attached := by
    intro href hatt
    rw [hatt]
    exact h.attached location (href ▸ hloc)
  cases step_moved hs with
  | stays he href _ _ _ =>
      refine hkeep href ?_
      cases e with
      | listenerConnected => exact absurd he (by simp [PhoneEvent.moves])
      | broadcast intent =>
          have hact : intent.action ≠ .notify := by simpa [PhoneEvent.moves] using he
          simp [Numbers.after, hact]
      | _ => rfl
  | connectedOn _ href _ _ hes =>
      rw [href] at hloc
      obtain rfl := Option.some.inj hloc
      simp [Numbers.after, hes, Preferences.location, h.stored]
  | connectedOff _ href _ _ hes => exact hkeep href (by simp [Numbers.after, hes])
  | disconnected _ href _ _ _ => exact hkeep href rfl
  | notifyOn ha hon href _ _ _ =>
      rw [href] at hloc
      obtain rfl := Option.some.inj hloc
      simp [Numbers.after, ha, hon, h.copied]
  | notifyOff _ hoff _ href _ _ _ => exact hkeep href (by simp [Numbers.after, hoff])

theorem tracked_step (h : Tracked prefs tr p) (hs : p.step e = some (p', es)) :
    Tracked prefs (tr ++ [(e, es)]) p' := by
  have hn := numbers_snoc prefs tr (e, es)
  refine ⟨?_, ?_, fun location hloc => ?_⟩
  · rw [hn, h.stored_step hs]
  · rw [hn, h.copied_step hs]
  · rw [hn]
    exact h.attached_step hs hloc

/-- **Everything is addressed to the account that is logged in iff the copies of its number were up to date
    when they were used.** -/
theorem addressed_iff (h : Run phoneMachine Guard.free (created prefs) tr p) :
    Addressed prefs tr ↔ Run phoneMachine (Current prefs) (created prefs) tr p := by
  refine h.guarded_iff (I := Tracked prefs) (tracked_created prefs)
    (fun l x r htr => absurd htr (by simp)) (fun _ _ => addressed_snoc) ?_
  intro tr p e p' es hr hI hs
  exact ⟨current_iff hI (reference_run hr) hs, fun _ => tracked_step hI hs⟩

end Runs

/-! ## A login before the first connect, and one after it -/

/-- A login, a connect, Notify mode turned on, and a message. -/
def loginFirst : List PhoneEvent :=
  [.login "123456789", .listenerConnected, .broadcast ⟨.notify, "1"⟩,
   .posted (App.whatsApp.message "Ann" "hello" 1) true]

theorem loginFirst_enabled : (phoneMachine.exec Guard.free (created {}) loginFirst).isSome := by
  decide

theorem loginFirst_addressed :
    Addressed {} ((phoneMachine.exec Guard.free (created {}) loginFirst).get loginFirst_enabled).2 ↔
      Run phoneMachine (Current {}) (created {})
        ((phoneMachine.exec Guard.free (created {}) loginFirst).get loginFirst_enabled).2
        ((phoneMachine.exec Guard.free (created {}) loginFirst).get loginFirst_enabled).1 :=
  addressed_iff (run_exec_get loginFirst_enabled)

/-- Notification access is granted before the login. -/
def accessFirst : List PhoneEvent :=
  [.listenerConnected, .login "123456789", .broadcast ⟨.notify, "1"⟩]

theorem accessFirst_enabled : (phoneMachine.exec Guard.free (created {}) accessFirst).isSome := by
  decide

/-- The listener is attached under no number at all. -/
theorem addressed_fails : ¬ ∀ (prefs : Preferences) (tr : Trace PhoneEvent Effect) (p : Phone),
    Run phoneMachine Guard.free (created prefs) tr p → Addressed prefs tr := by
  intro h
  have hlast := h {} _ _ (run_exec_get accessFirst_enabled)
    [(.listenerConnected, []), (.login "123456789", [])]
    (.broadcast ⟨.notify, "1"⟩, [.addListener "notifyme", .putBoolean .notify true]) [] (by decide)
    "notifyme" (by decide) "123456789" (by decide)
  exact absurd hlast (by decide)

end LoggedIn
end NotifyMe
