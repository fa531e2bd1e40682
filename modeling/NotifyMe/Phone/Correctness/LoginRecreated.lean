import NotifyMe.Phone.Correctness.LoginStuck

/-!
# `LoginRecreated` — the login in a new instance of the activity

When the activity is destroyed and created anew, `onSaveInstanceState` hands over that a verification is in
progress, and nothing else: neither the number, nor the id of the verification, nor that a code has been sent.

`survives_iff` says exactly when that is enough: nothing is in progress, and no code has been sent. In progress,
`onStart` finds no number and throws; after a code, the next click takes it for a number. The flag that is handed
over is not enough to know that nothing is in progress: after a second request the failure of the first resets it,
and then `onStart` does nothing. The result holds of the first instance and of every later one (`Created`), in each
state that a run of it reaches.
-/

namespace NotifyMe
namespace LoginRecreated

open Reactive LoginStuck

/-- The instance created from what the old one has saved, with `text` in the field. The text is restored with the
    view, and may have been edited since. -/
def recreated (l : LoginActivity) (text : String) : LoginActivity :=
  { LoginActivity.onCreate (some l.onSaveInstanceState) with phone := text }

section Property

variable [PhonePattern]

/-- An instance as `onCreate` leaves it: the first one, or one created anew from what a run of an earlier instance
    has come to. -/
inductive Created : LoginActivity → Prop where
  | first : Created (.onCreate none)
  | again {l tr s} (text : String) (h : Created l) (hr : Run loginMachine Guard.free { activity := l } tr s)
      (hfin : s.activity.finished = false) : Created (recreated s.activity text)

/-- **The login goes on in the new instance.** -/
structure GoesOn (tr : Trace LoginEvent LoginEffect) (s : LoginScreen) : Prop where
  /-- No exception escapes from `onStart`. -/
  starts   : ∀ text, (recreated s.activity text).onStart ≠ none
  /-- A verification in progress is resumed, for the number it was requested for. -/
  resumes  : ∀ v number, s.verifications[v]? = some number → (∀ x ∈ tr, answers x.1 ≠ some v) → ∀ text,
    ∃ l es token, (recreated s.activity text).onStart = some (l, es) ∧
      LoginEffect.verifyPhoneNumber number token ∈ es
  /-- If a code has been sent, the next click confirms the text in the field as that code. -/
  confirms : ∀ id ∈ s.activity.mVerificationId, ∀ text l es,
    (recreated s.activity text).onStart = some (l, es) → ∀ code, ∃ l',
      { l with phone := code }.onClick = some (l', [.signInWithCredential (.entered id code)])

/-- Re-creation is survived. An activity that has finished is not created anew. -/
def Survives (tr : Trace LoginEvent LoginEffect) (s : LoginScreen) : Prop :=
  s.activity.finished = false → GoesOn tr s

end Property

/-- **The condition**: no request of this instance is outstanding, it has not taken one over, and no code has been
    sent to it. -/
def NothingStarted (tr : Trace LoginEvent LoginEffect) (s : LoginScreen) : Prop :=
  s.activity.finished = false →
    ¬ Outstanding tr s ∧ s.activity.mVerificationInProgress = false ∧ ∀ x ∈ tr, ∀ v, x.1 ≠ .codeSent v

section Recreated

variable [PhonePattern] {l : LoginActivity}

/-- In progress, the new instance has no number to resume with. -/
theorem onStart_inProgress (h : l.mVerificationInProgress = true) (text : String) :
    (recreated l text).onStart = none := by
  simp [recreated, LoginActivity.onCreate, LoginActivity.onSaveInstanceState, LoginActivity.onStart, h]

theorem onStart_idle (h : l.mVerificationInProgress = false) (text : String) :
    (recreated l text).onStart = some (recreated l text, []) := by
  simp [recreated, LoginActivity.onCreate, LoginActivity.onSaveInstanceState, LoginActivity.onStart, h]

/-- The new instance is in its initial state, in which a click never signs in. -/
theorem onClick_recreated {l' : LoginActivity} {text code : String} {c : PhoneAuthCredential} :
    { recreated l text with phone := code }.onClick ≠ some (l', [.signInWithCredential c]) := by
  intro h
  have hstate : ({ recreated l text with phone := code } : LoginActivity).state = .initial := rfl
  cases LoginScreen.handled_click (s := { activity := { recreated l text with phone := code } }) h with
  | verify hsent _ => exact absurd (hsent.symm.trans hstate) (by simp)

/-- In every state, reachable or not, the login goes on just when there is nothing to hand over. -/
theorem goesOn_iff (tr : Trace LoginEvent LoginEffect) (s : LoginScreen) :
    GoesOn tr s ↔ ¬ Outstanding tr s ∧ s.activity.mVerificationInProgress = false ∧
      s.activity.mVerificationId = none := by
  constructor
  · intro h
    have hidle : s.activity.mVerificationInProgress = false := by
      by_contra hprogress
      exact h.starts "" (onStart_inProgress (by simpa using hprogress) "")
    refine ⟨?_, hidle, ?_⟩
    · -- nothing is resumed for a request that the flag does not tell of
      rintro ⟨v, hv, hnot⟩
      obtain ⟨l', es, token, hstart, hmem⟩ := h.resumes v _ (List.getElem?_eq_getElem hv) hnot ""
      rw [onStart_idle hidle] at hstart
      obtain ⟨_, rfl⟩ := Prod.mk.inj (Option.some.inj hstart)
      exact absurd hmem (by simp)
    · by_contra hsent
      obtain ⟨id, hid⟩ := Option.ne_none_iff_exists'.mp hsent
      obtain ⟨l', hclick⟩ := h.confirms id hid "" _ _ (onStart_idle hidle "") ""
      exact onClick_recreated hclick
  · rintro ⟨hout, hidle, hnone⟩
    refine ⟨fun text => ?_, fun v number hv hnot => ?_, fun id hid => ?_⟩
    · rw [onStart_idle hidle]
      simp
    · exact absurd ⟨v, (List.getElem?_eq_some_iff.mp hv).1, hnot⟩ hout
    · exact absurd hid (by simp [hnone])

/-- No instance begins with the id of a verification. -/
theorem Created.notIssued (h : Created l) : l.mVerificationId = none := by
  cases h with
  | first => rfl
  | again _ _ _ _ => rfl

/-- The id of the verification is set by the first code, and never unset. -/
theorem issued_step {s s' : LoginScreen} {e : LoginEvent} {es : List LoginEffect}
    (hs : s.step e = some (s', es)) : s'.activity.mVerificationId = none ↔
      s.activity.mVerificationId = none ∧ ∀ v, e ≠ .codeSent v := by
  obtain ⟨l, hh, _, hl⟩ := LoginScreen.step_handled hs
  rw [hl]
  cases hh with
  | codeSent _ => simp [LoginActivity.onCodeSent]
  | edit | verify _ _ | resend _ | send _ _ | refuse _ _ | idle _ | resume _ _ _ | stay _ _ _ | completed _
  | failed _ | timeOut _ | signedIn _ | notSignedIn _ => exact ⟨fun h => ⟨h, by simp⟩, fun h => h.1⟩

theorem issued_run (hl : Created l) {tr : Trace LoginEvent LoginEffect} {s : LoginScreen}
    (h : Run loginMachine Guard.free { activity := l } tr s) :
    s.activity.mVerificationId = none ↔ ∀ x ∈ tr, ∀ v, x.1 ≠ .codeSent v := by
  refine h.invariant (I := fun tr (s : LoginScreen) =>
    s.activity.mVerificationId = none ↔ ∀ x ∈ tr, ∀ v, x.1 ≠ .codeSent v) (by simp [hl.notIssued]) ?_
  intro tr s e s' es _ hI _ hs
  rw [issued_step hs, hI]
  constructor
  · rintro ⟨hold, hnew⟩ x hx
    rcases List.mem_append.mp hx with hx | hx
    · exact hold x hx
    · rw [List.mem_singleton.mp hx]
      exact hnew
  · exact fun hall => ⟨fun x hx => hall x (by simp [hx]), hall (e, es) (by simp)⟩

/-- **Re-creation is survived iff nothing is in progress and no code has been sent.** -/
theorem survives_iff (hl : Created l) {tr : Trace LoginEvent LoginEffect} {s : LoginScreen}
    (h : Run loginMachine Guard.free { activity := l } tr s) : Survives tr s ↔ NothingStarted tr s := by
  refine forall_congr' fun _ => ?_
  rw [goesOn_iff, issued_run hl h]

end Recreated

/-! ## A phone that is turned after a verification, and during one -/

open LoginNumber (digits)

/-- The verification has failed. -/
def failedFirst : List LoginEvent := [.edit "5551234567", .click, .failed 0]

theorem failedFirst_enabled : ((@loginMachine digits).exec Guard.free {} failedFirst).isSome := by decide

/-- The instance created anew after it. -/
def second : LoginActivity :=
  recreated (((@loginMachine digits).exec Guard.free {} failedFirst).get failedFirst_enabled).1.activity
    "5551234567"

theorem second_created : @Created digits second :=
  @Created.again digits _ _ _ "5551234567" (@Created.first digits) (run_exec_get failedFirst_enabled)
    (by decide)

/-- There the number is tried again, and fails again. -/
def failedAgain : List LoginEvent := [.start, .click, .failed 0]

theorem failedAgain_enabled :
    ((@loginMachine digits).exec Guard.free { activity := second } failedAgain).isSome := by decide

theorem failedAgain_survives :
    @Survives digits
        (((@loginMachine digits).exec Guard.free { activity := second } failedAgain).get failedAgain_enabled).2
        (((@loginMachine digits).exec Guard.free { activity := second } failedAgain).get failedAgain_enabled).1 ↔
      NothingStarted
        (((@loginMachine digits).exec Guard.free { activity := second } failedAgain).get failedAgain_enabled).2
        (((@loginMachine digits).exec Guard.free { activity := second } failedAgain).get failedAgain_enabled).1 :=
  @survives_iff digits _ second_created _ _ (run_exec_get failedAgain_enabled)

/-- A start in between has repeated the request, and the first of the two has failed: the flag is reset with the
    second one outstanding. -/
example : ((@loginMachine digits).exec Guard.free {} [.edit "5551234567", .click, .start, .failed 0]).map
    (fun r => (r.1.activity.mVerificationInProgress, decide (Outstanding r.2 r.1))) = some (false, true) := by decide

/-- The phone is turned while the number is being verified. -/
def turned : List LoginEvent := [.edit "5551234567", .click]

theorem turned_enabled : ((@loginMachine digits).exec Guard.free {} turned).isSome := by decide

/-- The new instance throws in `onStart`. -/
theorem survives_fails : ¬ ∀ (pattern : PhonePattern) (l : LoginActivity) (tr : Trace LoginEvent LoginEffect)
    (s : LoginScreen), @Created pattern l →
      Run (@loginMachine pattern) Guard.free { activity := l } tr s → @Survives pattern tr s := by
  intro h
  have hgoesOn := h digits _ _ _ (@Created.first digits) (run_exec_get turned_enabled) (by decide)
  exact @GoesOn.starts digits _ _ hgoesOn "5551234567" (by decide)

end LoginRecreated
end NotifyMe
