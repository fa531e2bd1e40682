import NotifyMe.Phone.Correctness.LoginNumber
import NotifyMe.Phone.Device

/-!
# `Consent` — nothing happens before the user has agreed to it

The app reads the messages of other people, answers them and sends them elsewhere. From a fresh install it does none
of this by itself: `nothing_before_consent` says that before anything goes out of the service, and before it attaches
a listener or stores a flag, somebody has logged in, after that the app was found among those that may listen, and
after that a switch was tapped.

Three places of the source make it so: the gate in `onCreate`, the dialog in front of the switches, and the flags,
which are off until the broadcast of a switch turns one on (`Idle`). The receiver takes such a broadcast from any app;
those of other apps are outside the model.
-/

namespace NotifyMe
namespace Consent

open Reactive Device

/-! ## What has happened -/

/-- A sign-in has succeeded, and its login has been stored. -/
def LoginStored (tr : Trace DeviceEvent DeviceEffect) : Prop :=
  ∃ number, DeviceEffect.login (.login number) ∈ tr.outputs

/-- The secure setting as the events have left it. -/
def listeners (tr : Trace DeviceEvent DeviceEffect) : Option (List Char) :=
  tr.foldl (fun flat x =>
    match x.1 with
    | .setListeners flat => flat
    | _                  => flat) none

/-- After a login, the app was among those that may listen. -/
def Allowed (tr : Trace DeviceEvent DeviceEffect) : Prop :=
  ∃ l r, tr = l ++ r ∧ LoginStored l ∧ isNotificationServiceEnabled pkgName (listeners l) = true

/-- **And after that a switch was tapped.** -/
def Consented (tr : Trace DeviceEvent DeviceEffect) : Prop :=
  ∃ l t os r, tr = l ++ (.tap t, os) :: r ∧ Allowed l

section History

variable {tr : Trace DeviceEvent DeviceEffect} (x : DeviceEvent × List DeviceEffect)

theorem LoginStored.snoc (h : LoginStored tr) : LoginStored (tr ++ [x]) := by
  obtain ⟨number, hm⟩ := h
  exact ⟨number, by rw [Trace.outputs_append]; exact List.mem_append_left _ hm⟩

theorem Allowed.snoc (h : Allowed tr) : Allowed (tr ++ [x]) := by
  obtain ⟨l, r, rfl, h⟩ := h
  exact ⟨l, r ++ [x], by simp, h⟩

theorem Consented.snoc (h : Consented tr) : Consented (tr ++ [x]) := by
  obtain ⟨l, t, os, r, rfl, h⟩ := h
  exact ⟨l, t, os, r ++ [x], by simp, h⟩

theorem listeners_snoc (e : DeviceEvent) (os : List DeviceEffect) :
    listeners (tr ++ [(e, os)]) = match e with
      | .setListeners flat => flat
      | _                  => listeners tr := by
  rw [listeners, List.foldl_append]
  rfl

theorem listeners_keep {e : DeviceEvent} (he : ∀ flat, e ≠ .setListeners flat) (os : List DeviceEffect) :
    listeners (tr ++ [(e, os)]) = listeners tr := by
  rw [listeners_snoc]
  split
  · exact absurd rfl (he _)
  · rfl

end History

/-! ## A service that does nothing -/

/-- All flags are off, the ones that are stored too, and nothing is left of a time when one was on. -/
structure Idle (p : Phone) : Prop where
  off           : ∀ t, p.service.toggle t = false
  stored        : ∀ t, p.prefs.getBoolean t = false
  reference     : p.service.reference = none
  hashMap       : p.service.hashMap = ∅
  requests      : p.requests = []
  registrations : p.registrations = []

theorem idle_created {prefs : Preferences} (h : ∀ t, prefs.getBoolean t = false) : Idle (Phone.created prefs) where
  off t         := by cases t <;> rfl
  stored        := h
  reference     := rfl
  hashMap       := rfl
  requests      := rfl
  registrations := rfl

theorem Idle.consume {p : Phone} (h : Idle p) (e : PhoneEvent) :
    Idle (p.consume e) ∧ (p.consume e).service = p.service := by
  have hsv : (p.consume e).service = p.service := by cases e <;> rfl
  obtain ⟨hreq, hreg⟩ := Phone.consume_eq_nil h.requests h.registrations e
  refine ⟨⟨?_, fun t => ?_, ?_, ?_, hreq, hreg⟩, hsv⟩
  · rw [hsv]
    exact h.off
  · rw [Phone.consume_getBoolean, h.stored]
  · rw [hsv, h.reference]
  · rw [hsv, h.hashMap]

/-- The preferences as they are by now, for a service that has been destroyed. -/
theorem Idle.reread {p q : Phone} (h : Idle p) (hq : Idle q) : Idle { p with prefs := q.prefs } where
  off           := h.off
  stored        := hq.stored
  reference     := h.reference
  hashMap       := h.hashMap
  requests      := h.requests
  registrations := h.registrations

theorem not_broadcast {e : PhoneEvent} (he : e.speaks = true) (intent : Broadcast) : e ≠ .broadcast intent := by
  rintro rfl
  exact absurd he (by simp [PhoneEvent.speaks])

section Service

variable [CaseMap] {p p' : Phone}

open Service in
/-- No handler but that of a broadcast does anything in it. -/
theorem Idle.quiet {o : Outcome} {e : PhoneEvent} (h : Idle p) (hh : Phone.Handled p o e)
    (hin : ∀ intent, e ≠ .broadcast intent) :
    o.effects = [] ∧ (o.service = p.service ∨ o.service = p.service.restored p.prefs) := by
  have hassist : ¬ p.service.isAssistEnabled = true := by
    have hoff := h.off .assist
    simpa [Service.toggle] using hoff
  have hnotify : ¬ p.service.isNotifyEnabled = true := by
    have hoff := h.off .notify
    simpa [Service.toggle] using hoff
  cases hh with
  | quiet _ hq => exact ⟨hq.2, Or.inl hq.1⟩
  | posted hp =>
      cases hp with
      | quiet hq => exact ⟨hq.2, Or.inl hq.1⟩
      | greet _ hg => exact absurd hg.assist_on hassist
      | ask ha => exact absurd ha.handed.1 hassist
      | mirror _ _ _ hn => exact absurd hn hnotify
  | answer hr _ => exact absurd hr (by simp [h.requests])
  | record _ hmodel _ => exact absurd hmodel (by simp [h.hashMap])
  | removed hn => exact absurd hn hnotify
  | connected ho =>
      have hoff : ¬ p.prefs.isNotifyOn = true := by
        have hstored := h.stored .notify
        simpa [Preferences.getBoolean] using hstored
      rw [ho, onListenerConnected_eq, if_neg hoff]
      exact ⟨rfl, Or.inr rfl⟩
  | disconnected href => exact absurd href (by simp [h.reference])
  | received _ _ => exact absurd rfl (hin _)

theorem idle_step {e : PhoneEvent} {es : List Effect} (h : Idle p) (hin : ∀ intent, e ≠ .broadcast intent)
    (hs : p.step e = some (p', es)) : Idle p' ∧ es = [] := by
  obtain ⟨o, _, hh, rfl, _, hp'⟩ := Phone.step_eq_some hs
  obtain ⟨hes, hsv⟩ := h.quiet hh hin
  obtain ⟨hc, _⟩ := h.consume e
  rw [hes] at hp'
  refine ⟨?_, hes⟩
  rw [hp']
  refine ⟨fun t => ?_, hc.stored, ?_, ?_, hc.requests, hc.registrations⟩
  · show o.service.toggle t = false
    rcases hsv with hsv | hsv
    · rw [hsv, h.off]
    · have hstored := h.stored t
      rw [hsv]
      cases t <;> exact hstored
  · show o.service.reference = none
    rcases hsv with hsv | hsv
    · rw [hsv, h.reference]
    · rw [hsv]
      exact h.reference
  · show o.service.hashMap = ∅
    rcases hsv with hsv | hsv
    · rw [hsv, h.hashMap]
    · rw [hsv]
      exact h.hashMap

/-- No event of the service but a login changes whether somebody has logged in. -/
theorem step_isLoggedIn {e : PhoneEvent} {es : List Effect} (hlogin : ∀ number, e ≠ .login number)
    (hs : p.step e = some (p', es)) : p'.prefs.isLoggedIn = p.prefs.isLoggedIn := by
  have hfold : ∀ (es : List Effect) (q : Phone),
      (es.foldl Phone.apply q).prefs.isLoggedIn = q.prefs.isLoggedIn := by
    intro es
    induction es with
    | nil => exact fun _ => rfl
    | cons x es ih =>
        intro q
        rw [List.foldl_cons, ih]
        cases x with
        | putBoolean t b => cases t <;> rfl
        | _ => rfl
  obtain ⟨o, _, _, _, _, rfl⟩ := Phone.step_eq_some hs
  rw [hfold]
  cases e with
  | login number => exact absurd rfl (hlogin number)
  | customize a message => cases a <;> rfl
  | _ => rfl

end Service

/-! ## The invariant -/

/-- **What has come about shows what has happened.** -/
structure Kept (tr : Trace DeviceEvent DeviceEffect) (s : Device) : Prop where
  flat     : s.flat = listeners tr
  loggedIn : s.phone.prefs.isLoggedIn = true → LoginStored tr
  /-- A `MainActivity` has passed the gate. -/
  main     : ∀ m p, Activity.main m p ∈ s.stack → LoginStored tr
  /-- And its switches are only reached past the dialog. -/
  granted  : ∀ m, Activity.main m .granted ∈ s.stack → Allowed tr
  idle     : ¬ Consented tr → s.queue = [] ∧ Idle s.phone ∧ ∀ p ∈ s.destroyed, Idle p

theorem kept_init : Kept [] {} where
  flat     := rfl
  loggedIn h := absurd h (by decide)
  main     := by simp
  granted  := by simp
  idle _   := ⟨rfl, idle_created (by decide), by simp⟩

section Steps

variable [CaseMap] [PhonePattern] {tr : Trace DeviceEvent DeviceEffect} {s s' : Device} {e : DeviceEvent}
  {os : List DeviceEffect}

omit [CaseMap] [PhonePattern] in
/-- A check that finds the app is one after the login. -/
theorem Kept.allowed (h : Kept tr s) (hlogin : LoginStored tr) (hp : s.permission = .granted) : Allowed tr := by
  refine ⟨tr, [], by simp, hlogin, ?_⟩
  rw [← h.flat]
  unfold Device.permission at hp
  split at hp
  · rename_i hen
    exact hen
  · exact absurd hp (by simp)

omit [CaseMap] [PhonePattern] in
/-- A step that leaves the task and the login alone keeps all but the last. -/
theorem Kept.keep (h : Kept tr s) (he : ∀ flat, e ≠ .setListeners flat) (hflat : s'.flat = s.flat)
    (hin : s'.phone.prefs.isLoggedIn = true → s.phone.prefs.isLoggedIn = true)
    (hstack : ∀ m p, Activity.main m p ∈ s'.stack → ∃ m', Activity.main m' p ∈ s.stack)
    (hidle : ¬ Consented (tr ++ [(e, os)]) → s'.queue = [] ∧ Idle s'.phone ∧ ∀ p ∈ s'.destroyed, Idle p) :
    Kept (tr ++ [(e, os)]) s' where
  flat := by rw [hflat, h.flat, listeners_keep he]
  loggedIn h' := (h.loggedIn (hin h')).snoc _
  main m p hm := by
    obtain ⟨m', hm'⟩ := hstack m p hm
    exact (h.main m' p hm').snoc _
  granted m hm := by
    obtain ⟨m', hm'⟩ := hstack m _ hm
    exact (h.granted m' hm').snoc _
  idle := hidle

omit [CaseMap] [PhonePattern] in
/-- What was idle before a step without consent. -/
theorem Kept.idle_snoc (h : Kept tr s) {x : DeviceEvent × List DeviceEffect} (hnot : ¬ Consented (tr ++ [x])) :
    s.queue = [] ∧ Idle s.phone ∧ ∀ p ∈ s.destroyed, Idle p :=
  h.idle fun hc => hnot (hc.snoc _)

omit [CaseMap] [PhonePattern] in
theorem kept_quiet (h : Kept tr s) (hact : e.atActivity = true) (hq : Quiet s s' os) :
    Kept (tr ++ [(e, os)]) s' := by
  have he : ∀ flat, e ≠ .setListeners flat := by
    rintro flat rfl
    exact absurd hact (by simp [DeviceEvent.atActivity])
  refine ⟨by rw [hq.flat, h.flat, listeners_keep he], fun hin => ?_, fun m p hm => ?_, fun m hm => ?_, ?_⟩
  · rw [hq.phone] at hin
    exact (h.loggedIn hin).snoc _
  · have hmem : m ∈ s.mains := hq.mains.subset (List.mem_filterMap.mpr ⟨_, hm, rfl⟩)
    obtain ⟨a, ha, hma⟩ := List.mem_filterMap.mp hmem
    cases a with
    | main m' p' => exact (h.main m' p' ha).snoc _
    | _ => exact absurd hma (by simp [mainOf])
  · rcases hq.granted m hm with hold | ⟨hperm, p, hold⟩
    · exact (h.granted m hold).snoc _
    · exact (h.allowed (h.main m p hold) hperm).snoc _
  · rw [hq.queue, hq.phone, hq.destroyed]
    exact h.idle_snoc

omit [CaseMap] [PhonePattern] in
/-- A new `MainActivity` is past the gate, and the others were there before. -/
theorem kept_createMain (h : Kept tr s) {j : Nat} {l r : List Activity}
    (hstack : s.stack = l ++ .started .main :: r) (hin : s.phone.prefs.isLoggedIn = true) :
    Kept (tr ++ [(.create j, [])])
      { s with stack := l ++ .main (MainActivity.created s.phone.prefs) s.permission :: r } := by
  have hlogin := h.loggedIn hin
  have hmem : ∀ {m p}, Activity.main m p ∈ l ++ .main (MainActivity.created s.phone.prefs) s.permission :: r →
      Activity.main m p ∈ s.stack ∨ p = s.permission := by
    intro m p hm
    rw [hstack]
    simp only [List.mem_append, List.mem_cons, Activity.main.injEq] at hm ⊢
    rcases hm with hm | ⟨_, rfl⟩ | hm
    · exact Or.inl (Or.inl hm)
    · exact Or.inr rfl
    · exact Or.inl (Or.inr (Or.inr hm))
  refine ⟨by rw [h.flat, listeners_keep (by simp)], fun hin => (h.loggedIn hin).snoc _, fun _ _ _ => hlogin.snoc _,
    fun m hm => ?_, h.idle_snoc⟩
  rcases hmem hm with hold | hperm
  · exact (h.granted m hold).snoc _
  · exact (h.allowed hlogin hperm.symm).snoc _

omit [CaseMap] [PhonePattern] in
/-- A login is stored, and the `MainActivity` that is started shows no switch yet. -/
theorem kept_stored (h : Kept tr s) {i : Nat} {e : LoginEvent} {number : Option String}
    {logins : List LoginScreen} :
    Kept (tr ++ [(.login i e, [.login (.login number)])]) { s.storeLogin i number with logins := logins } := by
  have hlogin : LoginStored (tr ++ [(.login i e, [.login (.login number)])]) :=
    ⟨number, by rw [Trace.outputs_append]; simp⟩
  refine ⟨by rw [listeners_keep (by simp)]; exact h.flat, fun _ => hlogin, fun _ _ _ => hlogin, fun m hm => ?_,
    fun hnot => ?_⟩
  · rcases List.mem_cons.mp hm with hm | hm
    · exact absurd hm (by simp)
    · exact (h.granted m (List.mem_of_mem_filter hm)).snoc _
  · obtain ⟨hqueue, hp, hold⟩ := h.idle_snoc hnot
    exact ⟨hqueue, (hp.consume (.login (number.getD ""))).1, hold⟩

theorem kept_step (h : Kept tr s) (hs : s.step e = some (s', os)) : Kept (tr ++ [(e, os)]) s' := by
  cases stepped hs with
  | quiet hact hq => exact kept_quiet h hact hq
  | setListeners heq =>
      obtain rfl := heq
      exact ⟨by rw [listeners_snoc], fun hin => (h.loggedIn hin).snoc _, fun m p hm => (h.main m p hm).snoc _,
        fun m hm => (h.granted m hm).snoc _, h.idle_snoc⟩
  | createMain _ hstack hin heq =>
      obtain rfl := heq
      exact kept_createMain h hstack hin
  | createCustomization _ hstack heq =>
      obtain rfl := heq
      refine h.keep (by simp) rfl id (fun m p hm => ⟨m, ?_⟩) h.idle_snoc
      rw [hstack]
      simp only [List.mem_append, List.mem_cons, reduceCtorEq, false_or] at hm ⊢
      exact hm
  | @tap t m m' rest htop hrun heq =>
      obtain rfl := heq
      refine h.keep (by simp) rfl id (fun m₁ p hm => ?_) fun hnot => ?_
      · rcases List.mem_cons.mp hm with hm | hm
        · obtain ⟨rfl, rfl⟩ := Activity.main.inj hm
          exact ⟨m, by simp [htop]⟩
        · exact ⟨m₁, by rw [htop]; exact List.mem_cons_of_mem _ hm⟩
      · -- a switch is only reached when the app may listen
        have hallowed : Allowed tr := h.granted m (by simp [htop])
        exact absurd ⟨tr, t, _, [], rfl, hallowed⟩ hnot
  | stored heq =>
      obtain rfl := heq
      exact kept_stored h
  | @saved a c message rest htop ha heq =>
      obtain rfl := heq
      refine h.keep (by simp) rfl (fun hin => ?_) (fun m p hm => ?_) fun hnot => ?_
      · cases a <;> exact hin
      · rcases List.mem_cons.mp hm with hm | hm
        · exact absurd hm (by simp)
        · exact ⟨m, by rw [htop]; exact List.mem_cons_of_mem _ hm⟩
      · obtain ⟨hqueue, hp, hold⟩ := h.idle_snoc hnot
        exact ⟨hqueue, (hp.consume (.customize a message)).1, hold⟩
  | delivered hq hrun hp heq =>
      obtain rfl := heq
      refine h.keep (by simp) rfl (fun hin => ?_) (fun m p hm => ⟨m, hm⟩) fun hnot => ?_
      · rw [← step_isLoggedIn (by simp) hp]
        exact hin
      · exact absurd (h.idle_snoc hnot).1 (by simp [hq])
  | lost hq hrun heq =>
      obtain rfl := heq
      refine h.keep (by simp) rfl id (fun m p hm => ⟨m, hm⟩) fun hnot => ?_
      exact absurd (h.idle_snoc hnot).1 (by simp [hq])
  | created hrun heq =>
      obtain rfl := heq
      exact h.keep (by simp) rfl id (fun m p hm => ⟨m, hm⟩) fun hnot =>
        ⟨(h.idle_snoc hnot).1, idle_created (h.idle_snoc hnot).2.1.stored, (h.idle_snoc hnot).2.2⟩
  | phone hrun hin hlogin hcustom hp heq =>
      obtain rfl := heq
      refine h.keep (by simp) rfl (fun hin => ?_) (fun m p hm => ⟨m, hm⟩) fun hnot => ?_
      · rw [← step_isLoggedIn hlogin hp]
        exact hin
      · exact ⟨(h.idle_snoc hnot).1, (idle_step (h.idle_snoc hnot).2.1 hin hp).1, (h.idle_snoc hnot).2.2⟩
  | destroyed hrun heq =>
      obtain rfl := heq
      refine h.keep (by simp) rfl id (fun m p hm => ⟨m, hm⟩) fun hnot => ?_
      obtain ⟨hqueue, hp, hold⟩ := h.idle_snoc hnot
      refine ⟨hqueue, idle_created hp.stored, fun q hq => ?_⟩
      rcases List.mem_append.mp hq with hq | hq
      · exact hold q hq
      · exact List.mem_singleton.mp hq ▸ hp
  | @afterDestroy k e q p es hlate hk hp heq =>
      obtain rfl := heq
      refine h.keep (by simp) rfl id (fun m p hm => ⟨m, hm⟩) fun hnot => ?_
      obtain ⟨hqueue, hphone, hold⟩ := h.idle_snoc hnot
      have hidle' := (hold q (List.mem_of_getElem? hk)).reread hphone
      refine ⟨hqueue, hphone, fun r hr => ?_⟩
      rcases List.mem_or_eq_of_mem_set hr with hr | rfl
      · exact hold r hr
      · exact (idle_step hidle' (not_broadcast hlate) hp).1
  | killed heq =>
      obtain rfl := heq
      exact h.keep (by simp) rfl id (by simp) fun hnot => ⟨rfl, idle_created (h.idle_snoc hnot).2.1.stored, by simp⟩

/-- **Nothing before consent.** Whatever the service does in a run from a fresh install, it does after somebody has
    logged in, then the app was found among those that may listen, and then a switch was tapped. -/
theorem nothing_before_consent {l r : Trace DeviceEvent DeviceEffect}
    (h : Run deviceMachine Guard.free {} (l ++ (e, os) :: r) s) {x : Effect} (hx : DeviceEffect.phone x ∈ os) :
    Consented l := by
  obtain ⟨s₁, s₂, hr, _, hs, _⟩ := h.split
  have hk : Kept l s₁ := hr.invariant (I := Kept) kept_init fun _ hI _ hs => kept_step hI hs
  by_contra hnot
  obtain ⟨hqueue, hp, hold⟩ := hk.idle hnot
  cases stepped hs with
  | quiet _ hq =>
      obtain ⟨y, hy, _⟩ := hq.outputs _ hx
      exact absurd hy (by simp)
  | delivered hq _ _ _ => exact absurd hqueue (by simp [hq])
  | phone _ hin _ _ hp' _ =>
      obtain ⟨_, rfl⟩ := idle_step hp hin hp'
      exact absurd hx (by simp)
  | afterDestroy hlate hk hp' _ =>
      obtain ⟨_, rfl⟩ := idle_step ((hold _ (List.mem_of_getElem? hk)).reread hp) (not_broadcast hlate) hp'
      exact absurd hx (by simp)
  | _ => exact absurd hx (by simp)

end Steps

/-! ## A first use -/

/-- The setting once the service has been enabled. -/
def enabledListeners : List Char :=
  "vishal.vaf.notifyme/vishal.vaf.notifyme.services.NotificationListener".toList

/-- The gate leads to the login screen, and from there to the switches. -/
def firstUse : List DeviceEvent :=
  [.launch, .create 0, .create 0, .login 0 (.edit "5551234567"), .login 0 .click, .login 0 (.completed 0),
   .login 0 (.signedIn 0 true), .setListeners (some enabledListeners), .createService, .phone .listenerConnected,
   .create 0, .tap .notify]

theorem firstUse_enabled :
    ((@deviceMachine _ LoginNumber.digits).exec Guard.free {} firstUse).isSome := by decide +kernel

theorem firstUse_delivered :
    ((@deviceMachine _ LoginNumber.digits).step (((@deviceMachine _ LoginNumber.digits).exec Guard.free {}
      firstUse).get firstUse_enabled).1 .deliver).isSome := by decide +kernel

theorem firstUse_listener :
    DeviceEffect.phone (.addListener "notifyme/5551234567") ∈
      (((@deviceMachine _ LoginNumber.digits).step (((@deviceMachine _ LoginNumber.digits).exec Guard.free {}
        firstUse).get firstUse_enabled).1 .deliver).get firstUse_delivered).2 := by decide +kernel

/-- The listener is attached after all three. -/
theorem firstUse_consented :
    Consented (((@deviceMachine _ LoginNumber.digits).exec Guard.free {} firstUse).get firstUse_enabled).2 :=
  @nothing_before_consent _ LoginNumber.digits _ _ _ _ []
    (run_step_get (run_exec_get firstUse_enabled) trivial firstUse_delivered)
    (.addListener "notifyme/5551234567") firstUse_listener

end Consent
end NotifyMe
