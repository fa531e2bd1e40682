import NotifyMe.Phone.Correctness.Consent

/-!
# `Lifetimes` — switches, service and preferences over many lifetimes

`Agreement` is about one activity and one service. In the app both come and go: the user leaves the activity and comes
back to a new one, the system destroys the service and creates it again, the app is thrown out while broadcasts are on
their way. Only the preferences last, and each new activity and each new service starts from them.

`agrees` says when this works: if the switches are used while the service is connected, and while a broadcast is on
its way the service is not destroyed under the activity and no `MainActivity` is created, nor ever one beside another,
then at every moment the broadcasts on their way lead from the preferences to the switches, and a connected service
has the preferences as its flags. Without the second of these a broadcast can find no receiver. It is lost then, and
the switch that sent it stays as it is.

Nothing is said about the two modes, which can both be on when the app is thrown out halfway between them.
-/

namespace NotifyMe
namespace Lifetimes

open Reactive Device

/-- The app after a start of the system, with what has been kept. -/
def installed (prefs : Preferences) (msgs : AssistMsgs) (flat : Option (List Char)) : Device where
  assistMsg := msgs
  flat      := flat
  phone     := Phone.created prefs

/-- The updates on their way. -/
def updates (s : Device) : List (Toggle × Bool) := s.queue.map Broadcast.update

/-- **The condition**: the switches are used while the service is connected, the service is destroyed when no
    broadcast is on its way, and a `MainActivity` is created when there is also no other. -/
def OneAtATime : Guard Device DeviceEvent DeviceEffect := fun _ s e =>
  match e with
  | .tap _    => s.running = true ∧ s.phone.service.editor = true
  | .create j =>
      s.stack[j]? = some (.started .main) → s.phone.prefs.isLoggedIn = true → s.mains = [] ∧ s.queue = []
  | .destroyService => s.queue = []
  | _         => True

instance (tr : Trace DeviceEvent DeviceEffect) (s : Device) (e : DeviceEvent) : Decidable (OneAtATime tr s e) :=
  match e with
  | .tap _ => inferInstanceAs (Decidable (_ ∧ _))
  | .create _ => inferInstanceAs (Decidable (_ → _ → _ ∧ _))
  | .destroyService => inferInstanceAs (Decidable (_ = _))
  | .launch | .setListeners _ | .openSettings | .notNow | .activityResult | .customize _ | .editAssist
  | .typeAssist _ | .saveAssist | .back | .login _ _ | .deliver | .createService | .phone _ | .afterDestroy _ _
  | .kill => inferInstanceAs (Decidable True)

/-! ## A tap -/

/-- From any four switches a tap ends at rest, and its broadcasts are the changes it made. -/
theorem tap_switches : ∀ (t : Toggle) (notify assist whatsApp fbMsg : Bool),
    ∃ r ∈ (MainActivity.toggle t).run (MainActivity.ofSwitches notify assist whatsApp fbMsg),
      MainActivity.Resting { r.2 with broadcasts := [] } ∧
        ∀ t', after (MainActivity.ofSwitches notify assist whatsApp fbMsg).checked
          (r.2.broadcasts.map Broadcast.update) t' = r.2.checked t' := by
  decide

theorem tap_resting {m m' : MainActivity} {t : Toggle} (hrest : m.Resting)
    (hrun : (MainActivity.toggle t).run m = some ((), m')) :
    MainActivity.Resting { m' with broadcasts := [] } ∧
      after m.checked (m'.broadcasts.map Broadcast.update) = m'.checked := by
  obtain ⟨⟨_, m''⟩, hrun', hrest', hafter⟩ := tap_switches t (m.checked .notify) (m.checked .assist)
    (m.checked .whatsApp) (m.checked .fbMsg)
  rw [← hrest] at hrun' hafter
  obtain rfl : m' = m'' := congrArg Prod.snd (Option.some.inj (hrun.symm.trans hrun'))
  exact ⟨hrest', funext hafter⟩

/-! ## The invariant -/

/-- **Everything leads to the switches.** -/
structure Agrees (s : Device) : Prop where
  alone     : s.mains.length ≤ 1
  resting   : ∀ m ∈ s.mains, m.Resting
  follows   : ∀ m ∈ s.mains, after s.phone.prefs.getBoolean (updates s) = m.checked
  /-- What has been sent finds a service. -/
  running   : s.queue ≠ [] → s.running = true
  lifecycle : Phone.Lifecycle s.phone

theorem agrees_installed (prefs : Preferences) (msgs : AssistMsgs) (flat : Option (List Char)) :
    Agrees (installed prefs msgs flat) where
  alone     := by simp [installed, mains]
  resting   := by simp [installed, mains]
  follows   := by simp [installed, mains]
  running h := absurd rfl h
  lifecycle := Phone.lifecycle_created prefs

section Steps

variable [CaseMap] {s s' : Device}

omit [CaseMap] in
/-- What an activity writes to the preferences leaves the flags alone. -/
theorem lifecycle_consume {p : Phone} {e : PhoneEvent} (h : Phone.Lifecycle p)
    (hsv : (p.consume e).service = p.service)
    (hreq : (p.consume e).requests = p.requests) (hreg : (p.consume e).registrations = p.registrations) :
    Phone.Lifecycle (p.consume e) where
  fresh hed := by
    rw [hsv] at hed
    obtain ⟨h1, h2, h3⟩ := h.fresh hed
    exact ⟨by rw [hsv, h1], by rw [hreq, h2], by rw [hreg, h3]⟩
  synced hed t := by
    rw [hsv] at hed ⊢
    rw [Phone.consume_getBoolean, h.synced hed]

/-- A step of the service other than a broadcast leaves the stored flags alone. -/
theorem step_getBoolean {p p' : Phone} {e : PhoneEvent} {es : List Effect} (hin : ∀ intent, e ≠ .broadcast intent)
    (hp : p.step e = some (p', es)) : p'.prefs.getBoolean = p.prefs.getBoolean := by
  obtain ⟨o, _, hh, rfl, _, rfl⟩ := Phone.step_eq_some hp
  have hput : ∀ t b, Effect.putBoolean t b ∉ o.effects := by
    rcases hh.flags with ⟨_, _, hput⟩ | ⟨rfl, rfl⟩ | ⟨intent, rfl, _⟩
    · exact hput
    · exact (Service.onListenerConnected_flags p.prefs p.service).2.2
    · exact absurd rfl (hin intent)
  rw [Phone.foldl_apply_prefs hput]
  exact funext fun t => Phone.consume_getBoolean p e t

/-- A broadcast sets the stored flag. -/
theorem broadcast_getBoolean {p p' : Phone} {intent : Broadcast} {es : List Effect} (h : Phone.Lifecycle p)
    (hp : p.step (.broadcast intent) = some (p', es)) :
    p'.prefs.getBoolean = Function.update p.prefs.getBoolean intent.action intent.on := by
  have hed := Phone.step_broadcast_editor hp
  obtain ⟨htoggle, hed'⟩ := Phone.step_broadcast hp
  have hl' := Phone.lifecycle_step h hp
  have hsame : p.prefs.getBoolean = p.service.toggle := funext (h.synced hed)
  have hsame' : p'.prefs.getBoolean = p'.service.toggle := funext (hl'.synced (by rw [hed', hed]))
  rw [hsame', htoggle, hsame]

omit [CaseMap] in
/-- Fewer activities, and the same service. -/
theorem Agrees.keep (h : Agrees s) (hmains : s'.mains.Sublist s.mains) (hqueue : s'.queue = s.queue)
    (hrun : s'.running = s.running) (hbool : s'.phone.prefs.getBoolean = s.phone.prefs.getBoolean)
    (hl : Phone.Lifecycle s'.phone) : Agrees s' where
  alone      := hmains.length_le.trans h.alone
  resting m hm := h.resting m (hmains.subset hm)
  follows m hm := by
    rw [updates, hqueue, hbool]
    exact h.follows m (hmains.subset hm)
  running hq := by
    rw [hrun]
    exact h.running (hqueue ▸ hq)
  lifecycle  := hl

omit [CaseMap] in
theorem agrees_tap {t : Toggle} {m m' : MainActivity} {rest : List Activity} (h : Agrees s)
    (hrunning : s.running = true) (htop : s.stack = .main m .granted :: rest)
    (hrun : (MainActivity.toggle t).run m = some ((), m')) :
    Agrees { s with
      stack := .main { m' with broadcasts := [] } .granted :: rest, queue := s.queue ++ m'.broadcasts } := by
  have hmains : s.mains = m :: rest.filterMap mainOf := by rw [mains, htop]; rfl
  -- there is no other one
  have hnone : rest.filterMap mainOf = [] := by
    have halone := h.alone
    rw [hmains, List.length_cons] at halone
    exact List.eq_nil_of_length_eq_zero (by omega)
  have hm : m ∈ s.mains := by simp [hmains]
  obtain ⟨hrest, hafter⟩ := tap_resting (h.resting m hm) hrun
  have hmains' : Device.mains { s with
      stack := .main { m' with broadcasts := [] } .granted :: rest, queue := s.queue ++ m'.broadcasts } =
      [{ m' with broadcasts := [] }] := by
    show ({ m' with broadcasts := [] } : MainActivity) :: rest.filterMap mainOf = _
    rw [hnone]
  refine ⟨by rw [hmains']; exact le_rfl, fun m₁ hm₁ => ?_, fun m₁ hm₁ => ?_, fun _ => hrunning,
    h.lifecycle⟩
  · rw [hmains'] at hm₁
    obtain rfl := List.mem_singleton.mp hm₁
    exact hrest
  · rw [hmains'] at hm₁
    obtain rfl := List.mem_singleton.mp hm₁
    show after _ ((s.queue ++ m'.broadcasts).map Broadcast.update) = m'.checked
    rw [List.map_append, after_append]
    show after (after _ (updates s)) _ = m'.checked
    rw [h.follows m hm, hafter]

omit [CaseMap] in
/-- A new `MainActivity` is the only one, and starts from the preferences. -/
theorem agrees_createMain {l r : List Activity} (h : Agrees s) (hstack : s.stack = l ++ .started .main :: r)
    (hnone : s.mains = []) (hqueue : s.queue = []) :
    Agrees { s with stack := l ++ .main (MainActivity.created s.phone.prefs) s.permission :: r } := by
  have hparts : l.filterMap mainOf = [] ∧ r.filterMap mainOf = [] := by
    rw [mains, hstack, List.filterMap_append, List.append_eq_nil_iff] at hnone
    exact hnone
  have hmains : Device.mains { s with
      stack := l ++ .main (MainActivity.created s.phone.prefs) s.permission :: r } =
      [MainActivity.created s.phone.prefs] := by
    show (l ++ .main (MainActivity.created s.phone.prefs) s.permission :: r).filterMap mainOf = _
    rw [List.filterMap_append, hparts.1]
    show MainActivity.created s.phone.prefs :: r.filterMap mainOf = _
    rw [hparts.2]
  refine ⟨by rw [hmains]; exact le_rfl, fun m hm => ?_, fun m hm => ?_, h.running, h.lifecycle⟩
  · rw [hmains] at hm
    obtain rfl := List.mem_singleton.mp hm
    rfl
  · rw [hmains] at hm
    obtain rfl := List.mem_singleton.mp hm
    show after s.phone.prefs.getBoolean (s.queue.map Broadcast.update) = _
    rw [hqueue]
    exact funext fun t => by cases t <;> rfl

theorem agrees_step [PhonePattern] {tr : Trace DeviceEvent DeviceEffect} {e : DeviceEvent} {os : List DeviceEffect}
    (h : Agrees s) (hone : OneAtATime tr s e) (hs : s.step e = some (s', os)) : Agrees s' := by
  cases stepped hs with
  | quiet _ hq =>
      exact h.keep hq.mains hq.queue hq.running (by rw [hq.phone]) (by rw [hq.phone]; exact h.lifecycle)
  | setListeners heq =>
      obtain rfl := heq
      exact h.keep (List.Sublist.refl _) rfl rfl rfl h.lifecycle
  | createMain hj hstack hin heq =>
      obtain rfl := heq
      obtain ⟨hnone, hqueue⟩ := hone hj hin
      exact agrees_createMain h hstack hnone hqueue
  | @createCustomization j l r packageName _ hstack heq =>
      obtain rfl := heq
      refine h.keep ?_ rfl rfl rfl h.lifecycle
      show ((l ++ .customization _ :: r).filterMap mainOf).Sublist (s.stack.filterMap mainOf)
      rw [hstack, List.filterMap_append, List.filterMap_append]
      exact List.Sublist.refl _
  | tap htop hrun heq =>
      obtain rfl := heq
      exact agrees_tap h hone.1 htop hrun
  | @stored i e number logins heq =>
      obtain rfl := heq
      refine h.keep ?_ rfl rfl ?_ (lifecycle_consume (e := .login (number.getD "")) h.lifecycle rfl rfl rfl)
      · show ((.started .main :: s.stack.filter (· ≠ .login i)).filterMap mainOf).Sublist _
        exact (List.filter_sublist).filterMap mainOf
      · exact funext fun t => Phone.consume_getBoolean s.phone (.login (number.getD "")) t
  | @saved a c message rest htop ha heq =>
      obtain rfl := heq
      refine h.keep ?_ rfl rfl ?_ (lifecycle_consume (e := .customize a message) h.lifecycle rfl rfl rfl)
      · show ((_ :: rest).filterMap mainOf).Sublist (s.stack.filterMap mainOf)
        rw [htop]
        exact List.Sublist.refl (rest.filterMap mainOf)
      · exact funext fun t => Phone.consume_getBoolean s.phone (.customize a message) t
  | @delivered intent rest p es hq hrun hp heq =>
      obtain rfl := heq
      refine ⟨h.alone, h.resting, fun m hm => ?_, fun _ => hrun, Phone.lifecycle_step h.lifecycle hp⟩
      have hfollows := h.follows m hm
      rw [updates, hq] at hfollows
      show after p.prefs.getBoolean (rest.map Broadcast.update) = m.checked
      rw [broadcast_getBoolean h.lifecycle hp]
      exact hfollows
  | lost hq hrun heq =>
      have hrunning := h.running (by simp [hq])
      exact absurd hrunning (by simp [hrun])
  | created hrun heq =>
      obtain rfl := heq
      have hqueue : s.queue = [] := by
        by_contra hne
        exact absurd (h.running hne) (by simp [hrun])
      exact ⟨h.alone, h.resting, h.follows, fun hne => absurd hqueue hne, Phone.lifecycle_created _⟩
  | phone hrun hin _ _ hp heq =>
      obtain rfl := heq
      exact h.keep (List.Sublist.refl _) rfl rfl (step_getBoolean hin hp) (Phone.lifecycle_step h.lifecycle hp)
  | destroyed _ heq =>
      obtain rfl := heq
      exact ⟨h.alone, h.resting, h.follows, fun hne => absurd hone hne, Phone.lifecycle_created _⟩
  | afterDestroy _ _ _ heq =>
      obtain rfl := heq
      exact h.keep (List.Sublist.refl _) rfl rfl rfl h.lifecycle
  | killed heq =>
      obtain rfl := heq
      exact agrees_installed _ _ _

/-- **Switches, service and preferences agree, over all lifetimes.** -/
theorem agrees [PhonePattern] {prefs : Preferences} {msgs : AssistMsgs} {flat : Option (List Char)}
    {tr : Trace DeviceEvent DeviceEffect} (h : Run deviceMachine OneAtATime (installed prefs msgs flat) tr s) :
    (∀ m ∈ s.mains, after s.phone.prefs.getBoolean (updates s) = m.checked) ∧
      (s.phone.service.editor = true → ∀ t, s.phone.service.toggle t = s.phone.prefs.getBoolean t) := by
  have hI : Agrees s := h.invariant (I := fun _ s => Agrees s) (agrees_installed prefs msgs flat)
    fun _ hI hone hs => agrees_step hI hone hs
  exact ⟨hI.follows, fun hed t => (hI.lifecycle.synced hed t).symm⟩

end Steps

/-! ## An activity, a service, and others after them -/

def loggedIn : Preferences := { phone := "5551234567", isLoggedIn := true }

/-- The service is destroyed under the activity and created again, and then the app is thrown out with a broadcast on
    its way, and opened again. -/
def thrownOut : List DeviceEvent :=
  [.createService, .phone .listenerConnected, .launch, .create 0, .tap .notify, .deliver, .destroyService,
   .createService, .phone .listenerConnected, .back, .launch, .create 0, .tap .notify, .kill, .createService,
   .phone .listenerConnected, .launch, .create 0]

theorem thrownOut_enabled :
    ((@deviceMachine _ LoginNumber.digits).exec OneAtATime
      (installed loggedIn (fun _ => none) (some Consent.enabledListeners)) thrownOut).isSome := by decide +kernel

def thrownOutState : Device :=
  (((@deviceMachine _ LoginNumber.digits).exec OneAtATime
    (installed loggedIn (fun _ => none) (some Consent.enabledListeners)) thrownOut).get thrownOut_enabled).1

theorem thrownOut_agrees :
    (∀ m ∈ thrownOutState.mains,
        after thrownOutState.phone.prefs.getBoolean (updates thrownOutState) = m.checked) ∧
      (thrownOutState.phone.service.editor = true →
        ∀ t, thrownOutState.phone.service.toggle t = thrownOutState.phone.prefs.getBoolean t) :=
  @agrees _ _ LoginNumber.digits loggedIn _ _ _ (run_exec_get thrownOut_enabled)

/-- The service is destroyed with the broadcast of a switch on its way. Nobody receives it, and the switch is on with
    the flag off. -/
def unheard : List DeviceEvent :=
  [.createService, .phone .listenerConnected, .launch, .create 0, .tap .notify, .destroyService, .deliver,
   .createService, .phone .listenerConnected]

example : ((@deviceMachine _ LoginNumber.digits).exec Guard.free
    (installed loggedIn (fun _ => none) (some Consent.enabledListeners)) unheard).map
      (fun r => (r.1.mains.map fun m => m.checked .notify, updates r.1, r.1.phone.prefs.getBoolean .notify)) =
    some ([true], [], false) := by decide +kernel

end Lifetimes
end NotifyMe
