import NotifyMe.Phone.Correctness.Agreement

/-!
# `Rotation` — the activity is created again

Android destroys `MainActivity` and creates it again, for a change of orientation for one. `onCreate` sets
the switches from the preferences, which the service writes as it gets the broadcasts, so they can be
behind. Then the framework sets the switches to what the old ones showed, one after the other, and their
listeners run: each restored switch can set others, and each broadcasts. What the old activity has sent is
still on its way.

`agreement_kept` says that the new activity shows what the old one did, and that the service and the
preferences still agree with the switches when all has been delivered. With nothing on its way a
re-creation changes nothing.

The updates on their way need no longer alternate: one may be sent a second time. What carries the
invariant is that updates lead again where they led (`after_after`). And that the service does not fail on
a null reference follows from `Backed`, not from the updates' being changes.
-/

namespace NotifyMe
namespace Rotation

open Reactive Controls

/-- The activity is created again. Its preferences are those that the service writes. -/
def recreate [CaseMap] (s : Controls) : Option (Controls × List Effect) :=
  ((MainActivity.restore s.activity).run (MainActivity.created s.phone.prefs)).map fun r =>
    ({ s with
        activity := { r.2 with broadcasts := [] }
        queue    := s.queue ++ r.2.broadcasts }, [])

inductive RotationEvent where
  | controls (e : ControlsEvent)
  | recreate
  deriving DecidableEq

def step [CaseMap] (s : Controls) : RotationEvent → Option (Controls × List Effect)
  | .controls e => s.step e
  | .recreate   => recreate s

def rotationMachine [CaseMap] : Machine Controls RotationEvent Effect := ⟨step⟩

/-! ## The invariant -/

/-- A broadcast that turns Notify mode off finds a reference: there is one, or a broadcast before it turns
    the mode on. -/
def Backed (s : Controls) : Prop :=
  ∀ us vs, s.updates = us ++ (.notify, false) :: vs →
    s.phone.service.reference ≠ none ∨ (.notify, true) ∈ us

/-- What is left of `Linked`, and that the switches are settled. -/
structure Kept (s : Controls) : Prop where
  resting   : s.activity.Resting
  oneMode   : OneMode s.activity.checked
  assist    : AssistMatches s.activity.checked
  follows   : after s.phone.service.toggle s.updates = s.activity.checked
  backed    : Backed s
  editor    : s.phone.service.editor = true
  reference : s.phone.service.isNotifyEnabled = true → s.phone.service.reference ≠ none
  lifecycle : Phone.Lifecycle s.phone

section Steps

variable [CaseMap] {s s' : Controls} {os : List Effect}

/-- Once there is a reference, there is one. -/
theorem reference_keep {p p' : Phone} {e : PhoneEvent} {es : List Effect}
    (h : p.service.reference ≠ none) (hs : p.step e = some (p', es)) : p'.service.reference ≠ none := by
  cases Phone.step_moved hs with
  | stays _ href _ _ _ | connectedOff _ href _ _ _ | disconnected _ href _ _ _
  | notifyOff _ _ _ href _ _ _ =>
      rw [href]
      exact h
  | connectedOn _ href _ _ _ | notifyOn _ _ href _ _ _ =>
      rw [href]
      simp

omit [CaseMap] in
/-- What is sent to switches that follow the service keeps its updates backed: a change of the Notify
    switch to off finds it on, in the service or by what is on its way. -/
theorem backed_append {f : Toggle → Bool} {bs : List Broadcast} (h : Kept s)
    (hf : f .notify = true → s.phone.service.isNotifyEnabled = true ∨ (.notify, true) ∈ s.updates)
    (halt : Alternates f (bs.map Broadcast.update)) (m : MainActivity) :
    Backed { s with activity := m, queue := s.queue ++ bs } := by
  intro us vs hsplit
  have hcons : s.updates ++ bs.map Broadcast.update = us ++ (.notify, false) :: vs := by
    rw [updates, ← List.map_append]
    exact hsplit
  rcases List.append_eq_append_iff.mp hcons with ⟨ws, hus, hbs⟩ | ⟨ws, hold, hvs⟩
  · -- the update is one of those just sent
    rw [hbs] at halt
    rw [hus, List.mem_append]
    rcases halt.found with hne | ⟨w, hw, hmem⟩
    · rcases hf (by simpa using hne) with hon | hmem
      · exact Or.inl (h.reference hon)
      · exact Or.inr (Or.inl hmem)
    · right; right
      rwa [Bool.ne_false_iff.mp hw] at hmem
  · cases ws with
    | nil =>
        -- it is the first of those just sent
        rw [List.nil_append] at hvs
        rw [List.append_nil] at hold
        rw [← hvs] at halt
        rcases hf (by simpa using halt.1) with hon | hmem
        · exact Or.inl (h.reference hon)
        · exact Or.inr (hold ▸ hmem)
    | cons w ws =>
        obtain ⟨rfl, rfl⟩ := List.cons.inj hvs
        exact h.backed us ws hold

theorem kept_tap (h : Kept s) {t : Toggle} (hs : s.step (.tap t) = some (s', os)) : Kept s' := by
  obtain ⟨m, hm, _, rfl⟩ := step_tap hs
  obtain ⟨m', hm', htap⟩ := MainActivity.tapped h.resting h.oneMode t
  obtain rfl : m = m' := congrArg Prod.snd (Option.some.inj (hm.symm.trans hm'))
  refine ⟨htap.resting, htap.oneMode, htap.assist h.assist, ?_, ?_, h.editor, h.reference, h.lifecycle⟩
  · show after _ ((s.queue ++ m.broadcasts).map Broadcast.update) = m.checked
    rw [List.map_append, after_append]
    show after (after _ s.updates) _ = m.checked
    rw [h.follows]
    exact funext htap.changes
  · refine backed_append h (fun hon => ?_) htap.alternates _
    rw [← h.follows] at hon
    rcases after_eq_or_mem s.phone.service.toggle s.updates .notify with heq | hmem
    · exact Or.inl (heq.symm.trans hon)
    · exact Or.inr (hon ▸ hmem)

theorem kept_deliver (h : Kept s) (hs : s.step .deliver = some (s', os)) : Kept s' := by
  obtain ⟨intent, rest, p, hq, hp, rfl⟩ := step_deliver hs
  obtain ⟨htoggle, hed⟩ := Phone.step_broadcast hp
  have hupd : s.updates = (intent.action, intent.on) :: rest.map Broadcast.update := by
    rw [updates, hq]
    rfl
  have hfollows := h.follows
  rw [hupd] at hfollows
  have href := Phone.reference_step h.reference hp
  refine ⟨h.resting, h.oneMode, h.assist, ?_, ?_, by rw [hed, h.editor], href,
    Phone.lifecycle_step h.lifecycle hp⟩
  · rw [← hfollows, after_cons, ← htoggle]
    rfl
  · intro us vs hsplit
    have hcons : s.updates = (intent.action, intent.on) :: us ++ (.notify, false) :: vs := by
      rw [hupd]
      exact congrArg _ hsplit
    rcases h.backed _ _ hcons with hold | hmem
    · exact Or.inl (reference_keep hold hp)
    · rcases List.mem_cons.mp hmem with hhead | hmem
      · -- the broadcast delivered is the one that turns the mode on
        left
        obtain ⟨ha, hon⟩ := Prod.mk.inj hhead
        apply href
        show p.service.toggle .notify = true
        rw [htoggle, ← ha, Function.update_self, ← hon]
      · exact Or.inr hmem

theorem kept_phone (h : Kept s) {e : PhoneEvent} (hs : s.step (.phone e) = some (s', os)) : Kept s' := by
  obtain ⟨p, hne, hp, rfl⟩ := step_phone hs
  obtain ⟨htoggle, hed⟩ := h.lifecycle.toggle_eq h.editor hp hne
  refine ⟨h.resting, h.oneMode, h.assist, ?_, ?_, hed, Phone.reference_step h.reference hp,
    Phone.lifecycle_step h.lifecycle hp⟩
  · show after p.service.toggle s.updates = _
    rw [htoggle, h.follows]
  · intro us vs hsplit
    exact (h.backed us vs hsplit).imp (fun hold => reference_keep hold hp) id

omit [CaseMap] in
/-- `onCreate` sets the switches to the flags of the service. -/
theorem created_checked (h : Kept s) :
    (MainActivity.created s.phone.prefs).checked = s.phone.service.toggle := by
  funext t
  rw [← h.lifecycle.synced h.editor t]
  cases t <;> rfl

/-- **A restore ends**, with the switches as they were. -/
theorem recreated (h : Kept s) : ∃ bs,
    recreate s = some ({ s with queue := s.queue ++ bs }, []) ∧
      Alternates s.phone.service.toggle (bs.map Broadcast.update) ∧
      after s.phone.service.toggle (bs.map Broadcast.update) = s.activity.checked ∧
      (s.queue = [] → bs = []) := by
  have hrest : (MainActivity.created s.phone.prefs).Resting := rfl
  obtain ⟨m, hm, hres⟩ := MainActivity.restored hrest h.resting h.oneMode h.assist
  refine ⟨m.broadcasts, ?_, ?_, ?_, fun hq => hres.silent fun t => ?_⟩
  · rw [recreate, hm]
    show some ({ s with activity := { m with broadcasts := [] }, queue := s.queue ++ m.broadcasts },
      ([] : List Effect)) = _
    rw [hres.same]
  · rw [← created_checked h]
    exact hres.alternates
  · rw [← created_checked h]
    exact funext hres.changes
  · rw [created_checked h, ← h.follows, updates, hq]
    rfl

theorem kept_recreate (h : Kept s) (hs : recreate s = some (s', os)) : Kept s' := by
  obtain ⟨bs, hr, halt, hafter, _⟩ := recreated h
  obtain rfl : { s with queue := s.queue ++ bs } = s' :=
    congrArg Prod.fst (Option.some.inj (hr.symm.trans hs))
  refine ⟨h.resting, h.oneMode, h.assist, ?_, ?_, h.editor, h.reference, h.lifecycle⟩
  · -- what is sent leads from the preferences to the switches, and so from the switches to themselves
    show after _ ((s.queue ++ bs).map Broadcast.update) = s.activity.checked
    rw [List.map_append, after_append]
    show after (after _ s.updates) _ = s.activity.checked
    rw [h.follows, ← hafter, after_after]
  · exact backed_append h Or.inl halt s.activity

theorem kept_step (h : Kept s) {e : RotationEvent} (hs : step s e = some (s', os)) : Kept s' := by
  cases e with
  | controls e =>
      cases e with
      | tap t => exact kept_tap h hs
      | deliver => exact kept_deliver h hs
      | phone e => exact kept_phone h hs
  | recreate => exact kept_recreate h hs

omit [CaseMap] in
theorem kept_started {prefs : Preferences} (hone : OneMode prefs.getBoolean)
    (hassist : AssistMatches prefs.getBoolean) : Kept (started prefs) := by
  have hl := linked_started hone
  refine ⟨hl.resting, hl.oneMode, hassist, hl.follows, ?_, hl.editor, hl.reference, hl.lifecycle⟩
  intro us vs hsplit
  have hnil : ([] : List (Toggle × Bool)) = us ++ (.notify, false) :: vs := hsplit
  exact absurd hnil (by simp)

end Steps

section Runs

variable [CaseMap] {prefs : Preferences} {tr : Trace RotationEvent Effect} {s : Controls}

/-- A broadcast on its way can be delivered, when the database takes the phone number. -/
theorem deliver_enabled (h : Kept s) (hvalid : validRoot s.phone.service.phoneNumber = true)
    (hq : s.queue ≠ []) : ∃ s' os, s.step .deliver = some (s', os) := by
  obtain ⟨intent, rest, hcons⟩ := List.exists_cons_of_ne_nil hq
  have hthrown : (s.phone.service.onReceive intent).thrown = none := by
    refine (Service.onReceive_thrown _ intent).mpr ⟨h.editor, fun hact => ?_⟩
    split
    next => exact hvalid
    next hoff =>
      have hupd : s.updates = [] ++ (.notify, false) :: rest.map Broadcast.update := by
        rw [updates, hcons, ← hact, ← Bool.not_eq_true _ |>.mp hoff]
        rfl
      exact (h.backed _ _ hupd).resolve_right (by simp)
  obtain ⟨p, hp⟩ := Phone.step_of_outcome (p := s.phone) (e := .broadcast intent) rfl hthrown
  exact ⟨{ s with queue := rest, phone := p }, _, by simp only [Controls.step, hcons, hp]; rfl⟩

/-- **Switches, service and preferences agree**, however often the activity is created again. -/
theorem agreement_kept (hone : OneMode prefs.getBoolean) (hassist : AssistMatches prefs.getBoolean)
    (h : Run rotationMachine Guard.free (started prefs) tr s) :
    (∀ t, ∃ s', s.step (.tap t) = some (s', []) ∧ Agreement.Settled s'.activity) ∧
      (∃ s', recreate s = some (s', []) ∧ s'.activity = s.activity ∧ (s.queue = [] → s' = s)) ∧
      (validRoot s.phone.service.phoneNumber = true → s.queue ≠ [] →
        ∃ s' os, s.step .deliver = some (s', os)) ∧
      (s.queue = [] → ∀ t, s.phone.service.toggle t = (s.activity.switch t).checked ∧
        s.phone.prefs.getBoolean t = (s.activity.switch t).checked) := by
  have hk : Kept s := h.invariant (I := fun _ s => Kept s) (kept_started hone hassist)
    (fun _ hI _ hs => kept_step hI hs)
  refine ⟨fun t => ?_, ?_, fun hvalid => deliver_enabled hk hvalid, fun hq t => ?_⟩
  · obtain ⟨m, hm, _⟩ := MainActivity.tapped hk.resting hk.oneMode t
    obtain ⟨s', hs⟩ : ∃ s', s.step (.tap t) = some (s', []) :=
      ⟨_, by simp only [Controls.step, hm]; rfl⟩
    have hk' := kept_tap hk hs
    exact ⟨s', hs, Agreement.settled_of_resting hk'.resting hk'.oneMode hk'.assist⟩
  · obtain ⟨bs, hr, _, _, hnil⟩ := recreated hk
    refine ⟨_, hr, rfl, fun hq => ?_⟩
    rw [hnil hq, List.append_nil]
  · have hfollows := hk.follows
    rw [updates, hq] at hfollows
    have hflag : s.phone.service.toggle t = (s.activity.switch t).checked := congrFun hfollows t
    exact ⟨hflag, by rw [hk.lifecycle.synced hk.editor, hflag]⟩

end Runs

/-! ## Turned while a broadcast is on its way -/

/-- Notify mode is tapped on and the phone is turned before the service has heard of it; then Notify mode
    is tapped off again, and everything is delivered. -/
def turned : List RotationEvent :=
  [.controls (.tap .notify), .recreate, .controls (.tap .notify), .controls .deliver,
    .controls .deliver, .controls .deliver]

theorem turned_enabled :
    (rotationMachine.exec Guard.free (started {}) turned).isSome := by decide

def turnedState : Controls :=
  ((rotationMachine.exec Guard.free (started {}) turned).get turned_enabled).1

theorem turned_agreement :
    (∀ t, ∃ s', turnedState.step (.tap t) = some (s', []) ∧ Agreement.Settled s'.activity) ∧
      (∃ s', recreate turnedState = some (s', []) ∧ s'.activity = turnedState.activity ∧
        (turnedState.queue = [] → s' = turnedState)) ∧
      (validRoot turnedState.phone.service.phoneNumber = true → turnedState.queue ≠ [] →
        ∃ s' os, turnedState.step .deliver = some (s', os)) ∧
      (turnedState.queue = [] → ∀ t,
        turnedState.phone.service.toggle t = (turnedState.activity.switch t).checked ∧
          turnedState.phone.prefs.getBoolean t = (turnedState.activity.switch t).checked) :=
  agreement_kept (by decide) (by decide) (run_exec_get turned_enabled)

/-- The restore has turned the mode on a second time, and off it is turned only once: the service is in
    neither mode and still listens. -/
example : turnedState.phone.service.isNotifyEnabled = false ∧
    turnedState.phone.registrations.length = 1 := by decide

end Rotation
end NotifyMe
